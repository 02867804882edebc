import Mathlib.Data.Int.Lemmas
import Mathlib.Data.Nat.Notation

namespace Foundations
namespace SignedFields

/-!
# Signed fields with a scale

A field that holds a scaled offset as a signed number. Cutting a quotient to the length of the
field loses nothing exactly when the offset is a multiple of the scale and in the range of the
field.
-/

/-- A quotient that is cut to a number of bits gives back the offset when the offset is a
multiple of the scale in the range. -/
theorem scale_mul_bmod_eq_iff {scale offset quotient : Int} {length : Nat} (positive : 0 < scale)
    (divides : offset % scale = 0 -> scale * quotient = offset) :
    scale * quotient.bmod (2 ^ (length + 1)) = offset <->
      offset % scale = 0 ∧ -(scale * 2 ^ length) <= offset ∧ offset < scale * 2 ^ length := by
  have modulus : ((2 ^ (length + 1) : Nat) : Int) = 2 * 2 ^ length := by
    rw [Nat.pow_succ']
    push_cast
    rfl
  constructor
  · intro equal
    have lower : -(2 ^ length : Int) <= quotient.bmod (2 ^ (length + 1)) := by
      have bound := @Int.le_bmod quotient (2 ^ (length + 1)) (Nat.two_pow_pos _)
      rw [modulus] at bound
      omega
    have upper : quotient.bmod (2 ^ (length + 1)) < (2 ^ length : Int) := by
      have bound := @Int.bmod_lt quotient (2 ^ (length + 1)) (Nat.two_pow_pos _)
      rw [modulus] at bound
      omega
    refine ⟨?_, ?_, ?_⟩
    · rw [← equal]
      exact Int.mul_emod_right scale _
    · rw [← equal, ← Int.mul_neg]
      exact Int.mul_le_mul_of_nonneg_left lower positive.le
    · rw [← equal]
      exact Int.mul_lt_mul_of_pos_left upper positive
  · rintro ⟨multiple, lower, upper⟩
    have exact := divides multiple
    rw [← exact, ← Int.mul_neg] at lower
    rw [← exact] at upper
    have low := Int.le_of_mul_le_mul_left lower positive
    have high := Int.lt_of_mul_lt_mul_left upper positive.le
    have whole : quotient.bmod (2 ^ (length + 1)) = quotient := by
      apply Int.bmod_eq_of_le
      · rw [modulus]
        omega
      · rw [modulus]
        omega
    rw [whole, exact]

/-- The signed number that a cut vector holds. -/
theorem toInt_setWidth_eq_bmod {width length : Nat} (value : BitVec width)
    (shorter : length <= width) : (value.setWidth length).toInt = value.toInt.bmod (2 ^ length) := by
  rw [BitVec.toInt_setWidth, BitVec.toInt_eq_toNat_bmod,
    Int.bmod_bmod_of_dvd (Nat.pow_dvd_pow 2 shorter)]

/-- A scaled field that is sign-extended is an offset when its number is. -/
theorem signExtend_append_eq_iff {length zeros width : Nat} (field : BitVec length)
    (offset : BitVec width) (fits : length + zeros <= width) :
    (field ++ BitVec.ofNat zeros 0).signExtend width = offset <->
      2 ^ zeros * field.toInt = offset.toInt := by
  rw [← BitVec.toInt_inj, BitVec.toInt_signExtend_of_le fits, BitVec.toInt_append_zero]

/-- Masking before cutting changes nothing. -/
theorem setWidth_and_ones {width length : Nat} (value : BitVec width) (middle : Nat)
    (shorter : length <= middle) (inside : length <= width) :
    (((value &&& BitVec.ofNat width (2 ^ length - 1)).setWidth middle).setWidth length) =
      value.setWidth length := by
  apply BitVec.eq_of_getLsbD_eq
  intro place below
  have inMiddle : place < middle := Nat.lt_of_lt_of_le below shorter
  have inWidth : place < width := Nat.lt_of_lt_of_le below inside
  rw [BitVec.getLsbD_setWidth, BitVec.getLsbD_setWidth, BitVec.getLsbD_setWidth,
    BitVec.getLsbD_and, BitVec.getLsbD_ofNat, Nat.testBit_two_pow_sub_one,
    decide_eq_true below, decide_eq_true inMiddle, decide_eq_true inWidth]
  simp

/-- Dividing by a power of two, towards zero. -/
theorem mul_toInt_sdiv {offset divisor : BitVec 64} (notMinusOne : divisor ≠ -1#64)
    (multiple : offset.toInt % divisor.toInt = 0) :
    divisor.toInt * (offset.sdiv divisor).toInt = offset.toInt := by
  rw [BitVec.toInt_sdiv_of_ne_or_ne _ _ (Or.inr notMinusOne)]
  exact Int.mul_tdiv_cancel' (Int.dvd_of_emod_eq_zero multiple)

end SignedFields
end Foundations
