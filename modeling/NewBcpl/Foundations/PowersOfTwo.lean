import Mathlib.Data.BitVec

namespace Foundations
namespace PowersOfTwo

/-!
# Powers of two in machine words

The test on a word and its predecessor that recognizes a power of two, the loop
that finds the exponent, and the shifts that take the place of a multiplication
or a division by it. A logical shift rounds down where a signed division rounds
towards zero, so the two agree on the nonnegative words only.
-/

variable {width : Nat}

/-- The word has one bit set and is positive as a signed number. -/
def IsPositivePower (word : BitVec width) (exponent : Nat) : Prop :=
  exponent + 1 < width ∧ word = BitVec.twoPow width exponent

/-- The count of the zero bits at the low end, with a bound on the rounds. -/
def countLowZeros : Nat -> BitVec width -> Nat -> Nat
  | 0, _, amount => amount
  | fuel + 1, word, amount =>
      if word &&& 1#(width) = 0#(width) then countLowZeros fuel (word >>> 1) (amount + 1)
      else amount

namespace IsPositivePower

variable {word : BitVec width} {exponent : Nat}

theorem toNat_eq (power : IsPositivePower word exponent) : word.toNat = 2 ^ exponent := by
  rw [power.2]
  apply BitVec.toNat_twoPow_of_lt
  have bound := power.1
  omega

theorem unique {other : Nat} (power : IsPositivePower word exponent)
    (otherPower : IsPositivePower word other) : exponent = other := by
  apply Nat.pow_right_injective (le_refl 2)
  have powers := power.toNat_eq
  rw [otherPower.toNat_eq] at powers
  exact powers.symm

end IsPositivePower

/-- A signed positive word without a bit in common with its predecessor is a
power of two. -/
theorem exists_isPositivePower {word : BitVec width} (positive : (0#(width)).slt word = true)
    (single : word &&& (word - 1#(width)) = 0#(width)) :
    exists exponent, IsPositivePower word exponent := by
  have nonzero : word.toNat ≠ 0 := by
    intro zero
    have isZero : word = 0#(width) := BitVec.eq_of_toNat_eq (by simpa using zero)
    subst isZero
    simp [BitVec.slt] at positive
  have predecessor : (word - 1#(width)).toNat = word.toNat - 1 := by
    have bound := word.isLt
    have wide : 1 < 2 ^ width ∨ word.toNat = 0 := by omega
    rcases wide with wide | zero
    · rw [BitVec.toNat_sub_of_le]
      · simp [Nat.mod_eq_of_lt wide]
      · rw [BitVec.le_def, BitVec.toNat_ofNat, Nat.mod_eq_of_lt wide]
        omega
    · exact absurd zero nonzero
  have disjoint : word.toNat &&& (word.toNat - 1) = 0 := by
    rw [<- predecessor, <- BitVec.toNat_and, single]
    simp
  rcases (Nat.and_sub_one_eq_zero_iff_isPowerOfTwo nonzero).mp disjoint with
    ⟨exponent, power⟩
  refine ⟨exponent, ?_, ?_⟩
  · have below : 2 * word.toNat < 2 ^ width := by
      have signed : word.msb = false := by
        rw [BitVec.slt_eq_decide, decide_eq_true_eq] at positive
        by_contra negative
        have isNegative : word.toInt < 0 :=
          BitVec.toInt_neg_of_msb_true (by simpa using negative)
        simp at positive
        omega
      exact BitVec.msb_eq_false_iff_two_mul_lt.mp signed
    rw [power] at below
    apply (Nat.pow_lt_pow_iff_right (Nat.one_lt_two)).mp
    rw [Nat.pow_succ]
    omega
  · apply BitVec.eq_of_toNat_eq
    have bound := word.isLt
    rw [power] at bound
    rw [power, BitVec.toNat_twoPow, Nat.mod_eq_of_lt bound]

section Counting

theorem twoPow_shiftRight {exponent : Nat} (bound : exponent + 1 < width) :
    BitVec.twoPow width (exponent + 1) >>> 1 = BitVec.twoPow width exponent := by
  apply BitVec.eq_of_toNat_eq
  rw [BitVec.toNat_ushiftRight, BitVec.toNat_twoPow_of_lt bound,
    BitVec.toNat_twoPow_of_lt (by omega), Nat.shiftRight_eq_div_pow, Nat.pow_succ]
  omega

/-- The loop finds the exponent of a power of two, whatever it is given beyond
the rounds it needs. -/
theorem countLowZeros_twoPow {fuel exponent : Nat} (amount : Nat)
    (bound : exponent < width) (enough : exponent < fuel) :
    countLowZeros fuel (BitVec.twoPow width exponent) amount = amount + exponent := by
  induction fuel generalizing exponent amount with
  | zero => omega
  | succ fuel hypothesis =>
      cases exponent with
      | zero =>
          have odd : BitVec.twoPow width 0 &&& 1#(width) ≠ 0#(width) := by
            rw [BitVec.twoPow_zero, BitVec.and_self]
            intro zero
            have bits := congrArg BitVec.toNat zero
            have wide : 1 < 2 ^ width := Nat.one_lt_two_pow (by omega)
            simp [Nat.mod_eq_of_lt wide] at bits
          rw [countLowZeros, if_neg odd]
          rfl
      | succ exponent =>
          have even : BitVec.twoPow width (exponent + 1) &&& 1#(width) = 0#(width) := by
            rw [<- BitVec.twoPow_zero, BitVec.and_twoPow, BitVec.getLsbD_twoPow]
            simp
          rw [countLowZeros, if_pos even, twoPow_shiftRight bound,
            hypothesis (amount + 1) (by omega) (by omega)]
          omega

end Counting

section Shifts

variable {word : BitVec width} {exponent : Nat}

theorem mul_eq_shiftLeft (power : IsPositivePower word exponent) (operand : BitVec width) :
    operand * word = operand <<< exponent := by
  rw [power.2]
  exact BitVec.mul_twoPow_eq_shiftLeft operand exponent

theorem IsPositivePower.msb_eq (power : IsPositivePower word exponent) :
    word.msb = false := by
  have bound := power.1
  rw [power.2, BitVec.msb_twoPow]
  simp only [Bool.and_eq_false_iff, decide_eq_false_iff_not]
  right
  omega

/-- The division of a nonnegative word is the shift. -/
theorem sdiv_eq_ushiftRight_of_nonnegative (power : IsPositivePower word exponent)
    {dividend : BitVec width} (nonnegative : dividend.msb = false) :
    dividend.sdiv word = dividend >>> exponent := by
  have bound := power.1
  rw [BitVec.sdiv_eq, nonnegative, power.msb_eq]
  change dividend / word = _
  rw [power.2]
  exact BitVec.udiv_twoPow_eq_of_lt (by omega)

/-- A quotient by a power of two other than one is at most half. -/
theorem double_div_le (number : Nat) (shifts : exponent ≠ 0) :
    2 * (number / 2 ^ exponent) ≤ number := by
  have halves : 2 ^ 1 ≤ 2 ^ exponent := Nat.pow_le_pow_right (by omega) (by omega)
  calc
    2 * (number / 2 ^ exponent)
        ≤ 2 ^ exponent * (number / 2 ^ exponent) := Nat.mul_le_mul_right _ halves
    _ ≤ number := Nat.mul_div_le _ _

/-- The division of a negative word is not the shift: the quotient is zero or
negative, and the shifted word is positive. -/
theorem sdiv_ne_ushiftRight_of_negative (power : IsPositivePower word exponent)
    {dividend : BitVec width} (negative : dividend.msb = true) (shifts : exponent ≠ 0) :
    dividend.sdiv word ≠ dividend >>> exponent := by
  have bound := power.1
  have high : 2 ^ width ≤ 2 * dividend.toNat := BitVec.msb_eq_true_iff_two_mul_ge.mp negative
  have below := dividend.isLt
  have shifted : (dividend >>> exponent).toNat = dividend.toNat / 2 ^ exponent := by
    rw [BitVec.toNat_ushiftRight, Nat.shiftRight_eq_div_pow]
  have shiftedPositive : 1 ≤ dividend.toNat / 2 ^ exponent := by
    apply (Nat.one_le_div_iff (Nat.two_pow_pos exponent)).mpr
    have room : 2 ^ (exponent + 1) ≤ 2 ^ width := Nat.pow_le_pow_right (by omega) (by omega)
    rw [Nat.pow_succ] at room
    omega
  have shiftedHalf := double_div_le dividend.toNat shifts
  have quotient : dividend.sdiv word = -((-dividend) / word) := by
    rw [BitVec.sdiv_eq, negative, power.msb_eq]
    rfl
  have magnitude : 2 * ((-dividend) / word).toNat ≤ 2 ^ width - dividend.toNat := by
    rw [BitVec.toNat_udiv, BitVec.toNat_neg, Nat.mod_eq_of_lt (by omega), power.toNat_eq]
    exact double_div_le _ shifts
  intro same
  have values := congrArg BitVec.toNat (quotient.symm.trans same)
  rw [shifted, BitVec.toNat_neg] at values
  by_cases zero : ((-dividend) / word).toNat = 0
  · rw [zero] at values
    simp at values
    omega
  · rw [Nat.mod_eq_of_lt (by omega)] at values
    omega

theorem sdiv_eq_ushiftRight_iff (power : IsPositivePower word exponent)
    (dividend : BitVec width) :
    dividend.sdiv word = dividend >>> exponent <-> (exponent ≠ 0 -> dividend.msb = false) := by
  constructor
  · intro same shifts
    by_contra negative
    exact sdiv_ne_ushiftRight_of_negative power (by simpa using negative) shifts same
  · intro condition
    by_cases none : exponent = 0
    · subst none
      have isOne : word = 1#(width) := by rw [power.2, BitVec.twoPow_zero]
      simp [isOne]
    · exact sdiv_eq_ushiftRight_of_nonnegative power (condition none)

end Shifts

end PowersOfTwo
end Foundations
