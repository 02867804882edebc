import Mathlib.Algebra.Ring.Nat
import Mathlib.Data.Nat.Notation
import Mathlib.Logic.Basic

namespace Foundations
namespace BitFields

/-!
# Fields of a word

Writing a field of a word and reading it: a field that is written reads as what was written,
and one that is disjoint from it reads as before.
-/

variable {width : Nat}

/-- The ones at the places of a field. -/
def fieldMask (width start length : Nat) : BitVec width :=
  BitVec.ofNat width (2 ^ length - 1) <<< start

/-- A word with a value written into a field. -/
def writeField (word value : BitVec width) (start length : Nat) : BitVec width :=
  (word &&& ~~~fieldMask width start length) |||
    ((value <<< start) &&& fieldMask width start length)

/-- A bit of a mask. -/
theorem getLsbD_fieldMask (start length : Nat) {place : Nat} (below : place < width) :
    (fieldMask width start length).getLsbD place =
      decide (start <= place ∧ place < start + length) := by
  unfold fieldMask
  rw [BitVec.getLsbD_shiftLeft, BitVec.getLsbD_ofNat, Nat.testBit_two_pow_sub_one]
  by_cases before : place < start
  · have outside : ¬ (start <= place ∧ place < start + length) := by omega
    simp [before, outside]
  · by_cases inside : place - start < length
    · have within : start <= place ∧ place < start + length := by omega
      have small : place - start < width := by omega
      simp [before, inside, within, below, small]
    · have outside : ¬ (start <= place ∧ place < start + length) := by omega
      simp [inside, outside]

/-- A bit of a word in which a field was written. -/
theorem getLsbD_writeField (word value : BitVec width) (start length : Nat) {place : Nat}
    (below : place < width) :
    (writeField word value start length).getLsbD place =
      if start <= place ∧ place < start + length then value.getLsbD (place - start)
      else word.getLsbD place := by
  unfold writeField
  rw [BitVec.getLsbD_or, BitVec.getLsbD_and, BitVec.getLsbD_and, BitVec.getLsbD_not,
    getLsbD_fieldMask start length below, BitVec.getLsbD_shiftLeft]
  by_cases within : start <= place ∧ place < start + length
  · have reached : ¬ place < start := Nat.not_lt.mpr within.1
    simp [within, below, reached]
  · simp [within, below]

/-- The field that was written holds the value. -/
theorem extract_writeField_self (word value : BitVec width) {start length : Nat}
    (inside : start + length <= width) :
    (writeField word value start length).extractLsb' start length = value.setWidth length := by
  apply BitVec.eq_of_getLsbD_eq
  intro place below
  have within : start <= start + place ∧ start + place < start + length := by omega
  rw [BitVec.getLsbD_extractLsb', getLsbD_writeField _ _ _ _ (by omega), if_pos within,
    Nat.add_sub_cancel_left, BitVec.getLsbD_setWidth]

/-- Another field is as before. -/
theorem extract_writeField_disjoint (word value : BitVec width) {start length other size : Nat}
    (inside : other + size <= width) (disjoint : other + size <= start ∨ start + length <= other) :
    (writeField word value start length).extractLsb' other size =
      word.extractLsb' other size := by
  apply BitVec.eq_of_getLsbD_eq
  intro place below
  have outside : ¬ (start <= other + place ∧ other + place < start + length) := by omega
  rw [BitVec.getLsbD_extractLsb', BitVec.getLsbD_extractLsb', getLsbD_writeField _ _ _ _ (by omega),
    if_neg outside]

/-- Writing a field again with the same value does nothing. -/
theorem writeField_writeField (word value : BitVec width) (start length : Nat) :
    writeField (writeField word value start length) value start length =
      writeField word value start length := by
  apply BitVec.eq_of_getLsbD_eq
  intro place below
  rw [getLsbD_writeField _ _ _ _ below, getLsbD_writeField _ _ _ _ below]
  by_cases within : start <= place ∧ place < start + length
  · rw [if_pos within, if_pos within]
  · rw [if_neg within]

/-- Or-ing a shifted value into a field that is empty writes the field. -/
theorem or_shiftLeft_eq_writeField {word value : BitVec width} {start length : Nat}
    (empty : word.extractLsb' start length = BitVec.ofNat length 0)
    (fits : value.toNat < 2 ^ length) :
    word ||| value <<< start = writeField word value start length := by
  apply BitVec.eq_of_getLsbD_eq
  intro place below
  rw [BitVec.getLsbD_or, BitVec.getLsbD_shiftLeft, getLsbD_writeField _ _ _ _ below]
  by_cases within : start <= place ∧ place < start + length
  · have bit : (word.extractLsb' start length).getLsbD (place - start) = false := by
      rw [empty, BitVec.getLsbD_zero]
    have reached : ¬ place < start := Nat.not_lt.mpr within.1
    have small : place - start < length := by omega
    rw [BitVec.getLsbD_extractLsb', decide_eq_true small, Bool.true_and,
      Nat.add_sub_cancel' within.1] at bit
    rw [bit, if_pos within, decide_eq_true below, decide_eq_false reached]
    rfl
  · rw [if_neg within]
    by_cases before : place < start
    · simp [before]
    · have beyond : value.getLsbD (place - start) = false := by
        rw [← BitVec.testBit_toNat]
        apply Nat.testBit_lt_two_pow
        exact Nat.lt_of_lt_of_le fits (Nat.pow_le_pow_right (by decide) (by omega))
      simp [before, beyond]

/-- Cutting a value off before it is shifted writes the field as well. -/
theorem or_masked_shiftLeft_eq_writeField (word value : BitVec width) (start length : Nat) :
    (word &&& ~~~fieldMask width start length) |||
        ((value &&& BitVec.ofNat width (2 ^ length - 1)) <<< start) =
      writeField word value start length := by
  apply BitVec.eq_of_getLsbD_eq
  intro place below
  unfold writeField
  rw [BitVec.getLsbD_or, BitVec.getLsbD_or]
  congr 1
  rw [BitVec.getLsbD_and, getLsbD_fieldMask start length below, BitVec.getLsbD_shiftLeft,
    BitVec.getLsbD_shiftLeft, BitVec.getLsbD_and, BitVec.getLsbD_ofNat,
    Nat.testBit_two_pow_sub_one]
  by_cases before : place < start
  · simp [before]
  · have same : (start <= place ∧ place < start + length) = (place - start < length) := by
      apply propext
      omega
    have small : place - start < width := by omega
    simp [before, same, small, Bool.and_assoc]

/-- A field that is the whole word. -/
theorem writeField_whole (word value : BitVec width) : writeField word value 0 width = value := by
  apply BitVec.eq_of_getLsbD_eq
  intro place below
  rw [getLsbD_writeField _ _ _ _ below, if_pos ⟨Nat.zero_le place, by omega⟩, Nat.sub_zero]

/-- Two words whose fields are the same agree outside of the others. -/
def AgreeOutside (first second : BitVec width) (start length : Nat) : Prop :=
  forall place, place < width -> (place < start ∨ start + length <= place) ->
    first.getLsbD place = second.getLsbD place

/-- Writing a field changes nothing outside of it. -/
theorem writeField_agreeOutside (word value : BitVec width) (start length : Nat) :
    AgreeOutside (writeField word value start length) word start length := by
  intro place below outside
  have notWithin : ¬ (start <= place ∧ place < start + length) := by omega
  rw [getLsbD_writeField _ _ _ _ below, if_neg notWithin]

end BitFields
end Foundations
