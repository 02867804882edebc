import NewBcpl.Encoding.BitmaskImmediates
import NewBcpl.Foundations.BitPatterns
import Mathlib.Data.BitVec

namespace NewBcpl
namespace Encoding

open Foundations.BitPatterns

/-!
# What the search for a bitmask immediate finds

A size is found exactly when it is a period of the immediate, and then without a rotation. The
fields name elements of half that size, or of 64 bits, so that no immediate that is accepted is
the one that the processor reads.
-/

/-- The element sizes that the search can find: 2, 4, 8, 16 and 32 bits. -/
def foundSizes : List Nat := (List.range' 0 5).map fun exponent => 2 ^ (exponent + 1)

/-- The bits of a value beyond the width are zero. -/
def FitsWidth (immediate : Word) (is64bit : Bool) : Prop :=
  forall place, operationWidth is64bit <= place -> immediate.getLsbD place = false

theorem foundSizes_pos {size : Nat} (found : size ∈ foundSizes) : 0 < size :=
  (by decide : forall size, size ∈ foundSizes -> 0 < size) size found

theorem foundSizes_dvd {size : Nat} (found : size ∈ foundSizes) : size ∣ 32 :=
  (by decide : forall size, size ∈ foundSizes -> size ∣ 32) size found

theorem foundSizes_lt {size : Nat} (found : size ∈ foundSizes) : size < 64 :=
  (by decide : forall size, size ∈ foundSizes -> size < 64) size found

theorem pow_mem_foundSizes {exponent : Nat} (small : exponent < 5) :
    2 ^ (exponent + 1) ∈ foundSizes :=
  List.mem_map.mpr ⟨exponent, List.mem_range'_1.mpr ⟨Nat.zero_le _, by omega⟩, rfl⟩

theorem operationWidth_le (is64bit : Bool) : operationWidth is64bit <= 64 := by
  cases is64bit <;> decide

/-- The ones of the width. -/
def widthOnes (is64bit : Bool) : Word := if is64bit then ~~~0#64 else lowerMask

theorem getLsbD_widthOnes (is64bit : Bool) (place : Nat) :
    (widthOnes is64bit).getLsbD place = decide (place < operationWidth is64bit) := by
  have ones : widthOnes is64bit = BitVec.ofNat 64 (2 ^ operationWidth is64bit - 1) := by
    cases is64bit <;> decide
  have bound := operationWidth_le is64bit
  rw [ones, BitVec.getLsbD_ofNat, Nat.testBit_two_pow_sub_one]
  by_cases below : place < operationWidth is64bit
  · rw [decide_eq_true below, decide_eq_true (below.trans_le bound), Bool.true_and]
  · rw [decide_eq_false below, Bool.and_false]

/-! ## One element size -/

/-- A bit of the mask of a size. -/
theorem getLsbD_sizeMask {size : Nat} (found : size ∈ foundSizes) (place : Nat) :
    (shiftLeft 1#64 size - 1#64).getLsbD place = decide (place < size) := by
  have mask : shiftLeft 1#64 size - 1#64 = BitVec.ofNat 64 (2 ^ size - 1) :=
    (by decide : forall size, size ∈ foundSizes ->
      shiftLeft 1#64 size - 1#64 = BitVec.ofNat 64 (2 ^ size - 1)) size found
  have below := foundSizes_lt found
  rw [mask, BitVec.getLsbD_ofNat, Nat.testBit_two_pow_sub_one]
  by_cases inside : place < size
  · have inWord : place < 64 := by omega
    simp [inside, inWord]
  · simp [inside]

/-- The first element of an immediate. -/
def elementOf (immediate : Word) (size : Nat) : Word := immediate &&& (shiftLeft 1#64 size - 1#64)

theorem getLsbD_elementOf (immediate : Word) {size : Nat} (found : size ∈ foundSizes)
    (place : Nat) :
    (elementOf immediate size).getLsbD place =
      (immediate.getLsbD place && decide (place < size)) := by
  rw [elementOf, BitVec.getLsbD_and, getLsbD_sizeMask found]

theorem getLsbD_elementOf_mod (immediate : Word) {size : Nat} (found : size ∈ foundSizes)
    (place : Nat) :
    (elementOf immediate size).getLsbD (place % size) = immediate.getLsbD (place % size) := by
  have inside := Nat.mod_lt place (foundSizes_pos found)
  rw [getLsbD_elementOf immediate found, decide_eq_true inside, Bool.and_true]

/-- A bit of the replicated pattern. -/
theorem getLsbD_replicate (immediate : Word) {size : Nat} (found : size ∈ foundSizes)
    {place : Nat} (below : place < 64) :
    (replicate (elementOf immediate size) size).getLsbD place =
      immediate.getLsbD (place % size) := by
  have full : 64 / size * size = 64 :=
    Nat.div_mul_cancel (Dvd.dvd.trans (foundSizes_dvd found) (by decide))
  have shifts : forall i, i ∈ List.range (64 / size) -> forall value : Word,
      value ||| shiftLeft (elementOf immediate size) (i * size) =
        value ||| elementOf immediate size <<< (i * size) := by
    intro i member value
    have inWord : i * size < 64 := by
      calc i * size < 64 / size * size :=
            Nat.mul_lt_mul_of_pos_right (List.mem_range.mp member) (foundSizes_pos found)
        _ = 64 := full
    rw [shiftLeft, Nat.mod_eq_of_lt inWord]
  have narrow : forall other, size <= other ->
      (elementOf immediate size).getLsbD other = false := by
    intro other beyond
    rw [getLsbD_elementOf immediate found, decide_eq_false (Nat.not_lt.mpr beyond),
      Bool.and_false]
  unfold replicate
  rw [List.foldl_ext _ _ _ fun value i member => shifts i member value,
    getLsbD_foldl_shiftLeft _ (foundSizes_pos found) narrow _ _ below, full,
    decide_eq_true below, Bool.true_and, getLsbD_elementOf_mod immediate found]

/-- A bit of the rotated pattern. -/
theorem getLsbD_rotate (immediate : Word) {size : Nat} (found : size ∈ foundSizes)
    (is64bit : Bool) {rotation place : Nat} (small : rotation < size) :
    (rotate (replicate (elementOf immediate size) size) is64bit rotation).getLsbD place =
      (decide (place < operationWidth is64bit) &&
        immediate.getLsbD ((place + rotation) % size)) := by
  have inWord : rotation < 64 := small.trans (foundSizes_lt found)
  have rotated : forall below : place < 64,
      (shiftRight (replicate (elementOf immediate size) size) rotation |||
        shiftLeft (replicate (elementOf immediate size) size) (64 - rotation)).getLsbD place =
          immediate.getLsbD ((place + rotation) % size) := by
    intro below
    unfold shiftRight shiftLeft
    rw [getLsbD_shift_or_shift _ inWord below,
      getLsbD_replicate immediate found (Nat.mod_lt _ (by decide)),
      Nat.mod_mod_of_dvd _ (Dvd.dvd.trans (foundSizes_dvd found) (by decide))]
  by_cases below : place < 64
  · cases is64bit with
    | true =>
        simp only [rotate, if_true, operationWidth, rotated below, decide_eq_true below,
          Bool.true_and]
    | false =>
        have mask : lowerMask.getLsbD place = decide (place < 32) :=
          getLsbD_widthOnes false place
        simp only [rotate, Bool.false_eq_true, if_false, operationWidth, BitVec.getLsbD_and,
          rotated below, mask, Bool.and_comm]
  · have beyond : ¬ place < operationWidth is64bit := by
      have bound := operationWidth_le is64bit
      omega
    rw [BitVec.getLsbD_of_ge _ _ (Nat.le_of_not_lt below), decide_eq_false beyond,
      Bool.false_and]

/-- The rotated pattern is the immediate when its bits are those of the first element. -/
theorem rotate_eq_iff {immediate : Word} {is64bit : Bool} (fits : FitsWidth immediate is64bit)
    {size rotation : Nat} (found : size ∈ foundSizes) (small : rotation < size) :
    rotate (replicate (elementOf immediate size) size) is64bit rotation = immediate <->
      forall place, place < operationWidth is64bit ->
        immediate.getLsbD place = immediate.getLsbD ((place + rotation) % size) := by
  constructor
  · intro equal place below
    have bit := @getLsbD_rotate immediate size found is64bit rotation place small
    rw [equal, decide_eq_true below, Bool.true_and] at bit
    exact bit
  · intro rotated
    apply BitVec.eq_of_getLsbD_eq
    intro place _
    rw [getLsbD_rotate immediate found is64bit small]
    by_cases below : place < operationWidth is64bit
    · rw [decide_eq_true below, Bool.true_and, rotated place below]
    · rw [decide_eq_false below, Bool.false_and, fits place (Nat.le_of_not_lt below)]

/-- The immediate has a bit and lacks one. -/
structure Mixed (immediate : Word) (is64bit : Bool) : Prop where
  fits : FitsWidth immediate is64bit
  someBit : exists place, place < operationWidth is64bit ∧ immediate.getLsbD place = true
  someGap : exists place, place < operationWidth is64bit ∧ immediate.getLsbD place = false

/-- All immediates but two are mixed. -/
theorem Mixed.of_ne {immediate : Word} {is64bit : Bool} (fits : FitsWidth immediate is64bit)
    (notZeros : immediate ≠ 0#64) (notOnes : immediate ≠ widthOnes is64bit) :
    Mixed immediate is64bit where
  fits := fits
  someBit := by
    by_contra none
    apply notZeros
    apply BitVec.eq_of_getLsbD_eq
    intro place _
    rw [BitVec.getLsbD_zero]
    by_cases below : place < operationWidth is64bit
    · exact Bool.eq_false_iff.mpr fun bit => none ⟨place, below, bit⟩
    · exact fits place (Nat.le_of_not_lt below)
  someGap := by
    by_contra none
    apply notOnes
    apply BitVec.eq_of_getLsbD_eq
    intro place _
    rw [getLsbD_widthOnes]
    by_cases below : place < operationWidth is64bit
    · rw [decide_eq_true below]
      exact (Bool.not_eq_false _).mp fun gap => none ⟨place, below, gap⟩
    · rw [decide_eq_false below]
      exact fits place (Nat.le_of_not_lt below)

/-- A size is found when it is a period, and then at once. -/
theorem trySize_eq {immediate : Word} {is64bit : Bool} (mixed : Mixed immediate is64bit)
    {size : Nat} (found : size ∈ foundSizes) :
    (Periodic (operationWidth is64bit) size immediate ->
      trySize immediate is64bit size =
        some (patternFields is64bit size (elementOf immediate size) 0)) ∧
    (¬ Periodic (operationWidth is64bit) size immediate ->
      trySize immediate is64bit size = none) := by
  have unfolded : trySize immediate is64bit size =
      if elementOf immediate size = 0#64 ∨
          elementOf immediate size = shiftLeft 1#64 size - 1#64 then none
      else (List.range size).findSome? fun rotation =>
        if rotate (replicate (elementOf immediate size) size) is64bit rotation = immediate then
          some (patternFields is64bit size (elementOf immediate size) rotation)
        else none := rfl
  rw [unfolded]
  constructor
  · intro periodic
    have proper : ¬ (elementOf immediate size = 0#64 ∨
        elementOf immediate size = shiftLeft 1#64 size - 1#64) := by
      rintro (empty | full)
      · obtain ⟨place, below, bit⟩ := mixed.someBit
        rw [periodic place below, ← getLsbD_elementOf_mod immediate found, empty,
          BitVec.getLsbD_zero] at bit
        exact Bool.noConfusion bit
      · obtain ⟨place, below, gap⟩ := mixed.someGap
        rw [periodic place below, ← getLsbD_elementOf_mod immediate found, full,
          getLsbD_sizeMask found, decide_eq_true (Nat.mod_lt place (foundSizes_pos found))] at gap
        exact Bool.noConfusion gap
    rw [if_neg proper]
    obtain ⟨rest, size_eq⟩ := Nat.exists_eq_succ_of_ne_zero (foundSizes_pos found).ne'
    have unrotated : rotate (replicate (elementOf immediate size) size) is64bit 0 = immediate :=
      (rotate_eq_iff mixed.fits found (foundSizes_pos found)).mpr periodic
    have rotations : List.range size = 0 :: (List.range rest).map Nat.succ := by
      rw [size_eq, List.range_succ_eq_map]
    rw [rotations, List.findSome?_cons, if_pos unrotated]
  · intro aperiodic
    split
    · rfl
    · apply List.findSome?_eq_none_iff.mpr
      intro rotation member
      apply if_neg
      intro equal
      apply aperiodic
      exact Periodic.of_rotated
        ((rotate_eq_iff mixed.fits found (List.mem_range.mp member)).mp equal)

/-- Elements of 64 bits are never found: their mask is empty. -/
theorem trySize_word (immediate : Word) : trySize immediate true 64 = none := by
  have empty : shiftLeft 1#64 64 - 1#64 = 0#64 := by decide
  unfold trySize
  simp only [empty, BitVec.and_zero, true_or, if_true]

/-! ## The search -/

/-- The search goes through the sizes that can be found. -/
theorem searchFields_mixed {immediate : Word} {is64bit : Bool}
    (mixed : Mixed immediate is64bit) :
    searchFields immediate is64bit = foundSizes.findSome? (trySize immediate is64bit) := by
  have proper : ¬ (immediate = 0#64 ∨ immediate = ~~~0#64) := by
    rintro (rfl | rfl)
    · obtain ⟨place, _, bit⟩ := mixed.someBit
      rw [BitVec.getLsbD_zero] at bit
      exact Bool.noConfusion bit
    · obtain ⟨place, below, gap⟩ := mixed.someGap
      have inWord : place < 64 := below.trans_le (operationWidth_le is64bit)
      rw [BitVec.getLsbD_not, BitVec.getLsbD_zero, decide_eq_true inWord] at gap
      exact Bool.noConfusion gap
  unfold searchFields
  rw [if_neg proper]
  cases is64bit with
  | false => rfl
  | true =>
      change ([2, 4, 8, 16, 32] ++ [64]).findSome? (trySize immediate true) = _
      rw [List.findSome?_append, List.findSome?_singleton, trySize_word]
      exact Option.or_none

/-- Bits that are all the same are not mixed. -/
theorem Mixed.not_periodic_one {immediate : Word} {is64bit : Bool}
    (mixed : Mixed immediate is64bit) :
    ¬ Periodic (operationWidth is64bit) (2 ^ 0) immediate := by
  intro periodic
  obtain ⟨one, belowOne, bit⟩ := mixed.someBit
  obtain ⟨other, belowOther, gap⟩ := mixed.someGap
  rw [periodic one belowOne, Nat.pow_zero, Nat.mod_one] at bit
  rw [periodic other belowOther, Nat.pow_zero, Nat.mod_one, bit] at gap
  exact Bool.noConfusion gap

/-- The first size that is found, from some size on that is none. -/
theorem findSome?_trySize {immediate : Word} {is64bit : Bool} (mixed : Mixed immediate is64bit)
    {fields : BitmaskFields} (count start : Nat) (small : start + count = 5)
    (aperiodic : ¬ Periodic (operationWidth is64bit) (2 ^ start) immediate)
    (given : ((List.range' start count).map fun exponent => 2 ^ (exponent + 1)).findSome?
      (trySize immediate is64bit) = some fields) :
    exists exponent, exponent < 5 ∧
      Periodic (operationWidth is64bit) (2 ^ (exponent + 1)) immediate ∧
      ¬ Periodic (operationWidth is64bit) (2 ^ exponent) immediate ∧
      fields = patternFields is64bit (2 ^ (exponent + 1))
        (elementOf immediate (2 ^ (exponent + 1))) 0 := by
  induction count generalizing start with
  | zero => cases given
  | succ count hypothesis =>
      have found := pow_mem_foundSizes (show start < 5 by omega)
      rw [List.range'_succ, List.map_cons, List.findSome?_cons] at given
      by_cases periodic : Periodic (operationWidth is64bit) (2 ^ (start + 1)) immediate
      · rw [(trySize_eq mixed found).1 periodic] at given
        exact ⟨start, by omega, periodic, aperiodic, (Option.some.inj given).symm⟩
      · rw [(trySize_eq mixed found).2 periodic] at given
        exact hypothesis (start + 1) (by omega) periodic given

/-- What is found is the least period. -/
theorem searchFields_some {immediate : Word} {is64bit : Bool} (mixed : Mixed immediate is64bit)
    {fields : BitmaskFields} (given : searchFields immediate is64bit = some fields) :
    exists exponent, exponent < 5 ∧
      Periodic (operationWidth is64bit) (2 ^ (exponent + 1)) immediate ∧
      ¬ Periodic (operationWidth is64bit) (2 ^ exponent) immediate ∧
      fields = patternFields is64bit (2 ^ (exponent + 1))
        (elementOf immediate (2 ^ (exponent + 1))) 0 := by
  rw [searchFields_mixed mixed] at given
  exact findSome?_trySize mixed 5 0 rfl mixed.not_periodic_one given

/-- Fields are given exactly when half a word is a period. -/
theorem searchFields_isSome_iff {immediate : Word} {is64bit : Bool}
    (mixed : Mixed immediate is64bit) :
    (searchFields immediate is64bit).isSome <->
      Periodic (operationWidth is64bit) 32 immediate := by
  constructor
  · intro given
    obtain ⟨fields, equal⟩ := Option.isSome_iff_exists.mp given
    obtain ⟨exponent, small, periodic, _⟩ := searchFields_some mixed equal
    exact periodic.of_dvd (foundSizes_dvd (pow_mem_foundSizes small))
  · intro periodic
    have found : 32 ∈ foundSizes := by decide
    rw [searchFields_mixed mixed, List.findSome?_isSome_iff]
    exact ⟨32, found, by rw [(trySize_eq mixed found).1 periodic]; rfl⟩

/-! ## What the processor reads -/

/-- The processor reads nothing from the fields, or, with 64 bits, halves that differ, and,
with 32 bits, elements of half the size. -/
def misreads (is64bit : Bool) (exponent : Nat) (fields : BitmaskFields) : Bool :=
  (decodeBitMasks (operationWidth is64bit) fields).all fun value =>
    if is64bit then
      (List.range 32).any fun place => value.getLsbD place != value.getLsbD (place + 32)
    else
      (List.range 32).all fun place =>
        value.getLsbD place == value.getLsbD (place % 2 ^ exponent)

/-- The fields for elements of some size, with any bits for the ones. -/
def sizeFields (is64bit : Bool) (exponent ones : Nat) : BitmaskFields where
  n := if is64bit then 1#32 else 0#32
  immr := 0#32
  imms := (~~~(BitVec.ofNat 32 (2 ^ (exponent + 1) - 1)) &&& 0b111111#32) ||| BitVec.ofNat 32 ones

/-- All fields of the search are misread. -/
theorem misreads_sizeFields : forall is64bit exponent, exponent < 5 -> forall ones, ones < 64 ->
    misreads is64bit exponent (sizeFields is64bit exponent ones) = true := by
  decide +kernel

/-- The processor reads six bits of the size field. -/
theorem misreads_congr (is64bit : Bool) (exponent : Nat) {first second : BitmaskFields}
    (n : first.n = second.n) (immr : first.immr = second.immr)
    (imms : first.imms.setWidth 6 = second.imms.setWidth 6) :
    misreads is64bit exponent first = misreads is64bit exponent second := by
  unfold misreads decodeBitMasks
  rw [n, immr, imms]

/-- What the search gives is misread. -/
theorem misreads_patternFields (is64bit : Bool) {exponent : Nat} (small : exponent < 5)
    (pattern : Word) :
    misreads is64bit exponent (patternFields is64bit (2 ^ (exponent + 1)) pattern 0) = true := by
  have below : ((BitVec.ofNat 32 pattern.cpop.toNat - 1#32).setWidth 6).toNat < 64 :=
    BitVec.isLt _
  rw [← misreads_sizeFields is64bit exponent small _ below]
  apply misreads_congr
  · rfl
  · rfl
  unfold patternFields sizeFields
  rw [BitVec.setWidth_or, BitVec.setWidth_or]
  congr 1
  apply BitVec.eq_of_toNat_eq
  simp

end Encoding
end NewBcpl
