import NewBcpl.Encoding.BitmaskSearch

namespace NewBcpl
namespace Encoding

open Foundations.BitPatterns

/-!
# Where the search for a bitmask immediate is right

The search is right where it gives nothing to an immediate that has no encoding: a word whose
halves differ and that is no rotated run of ones, and the one immediate of 32 ones.
-/

/-! ## The halves -/

/-- The halves of a word are the same when 32 is a period. -/
theorem halves_eq_iff (immediate : Word) :
    immediate.extractLsb' 0 32 = immediate.extractLsb' 32 32 <->
      Periodic 64 32 immediate := by
  constructor
  · intro halves place below
    by_cases lower : place < 32
    · rw [Nat.mod_eq_of_lt lower]
    · have bit : (immediate.extractLsb' 0 32).getLsbD (place - 32) =
          (immediate.extractLsb' 32 32).getLsbD (place - 32) := by
        rw [halves]
      have inside : place - 32 < 32 := by omega
      rw [BitVec.getLsbD_extractLsb', BitVec.getLsbD_extractLsb', decide_eq_true inside,
        Bool.true_and, Bool.true_and, Nat.zero_add, Nat.add_sub_cancel' (by omega)] at bit
      rw [← bit, show place % 32 = place - 32 by omega]
  · intro periodic
    apply BitVec.eq_of_getLsbD_eq
    intro place inside
    rw [BitVec.getLsbD_extractLsb', BitVec.getLsbD_extractLsb', decide_eq_true inside,
      Bool.true_and, Bool.true_and, periodic (32 + place) (by omega), Nat.add_mod_left,
      Nat.zero_add, Nat.mod_eq_of_lt inside]

/-- A word whose halves differ is mixed. -/
theorem Mixed.of_halves {immediate : Word}
    (halves : immediate.extractLsb' 0 32 ≠ immediate.extractLsb' 32 32) :
    Mixed immediate true := by
  apply Mixed.of_ne
  · exact fun place beyond => BitVec.getLsbD_of_ge immediate place beyond
  · rintro rfl
    exact halves (by decide)
  · rintro rfl
    exact halves (by decide)

/-! ## Fields that are given are wrong -/

/-- Fields for zeros and ones are reserved. -/
theorem decodeBitMasks_reserved (is64bit : Bool) :
    decodeBitMasks (operationWidth is64bit)
      { n := if is64bit then 1#32 else 0#32
        immr := 0#32
        imms := if is64bit then 0b111111#32 else 0b011111#32 } = none := by
  cases is64bit <;> decide

/-- Fields of the search decode to no value that has the period, and not the half of it. -/
theorem decode_ne_of_misreads {is64bit : Bool} {exponent : Nat} {fields : BitmaskFields}
    {immediate : Word} (misread : misreads is64bit exponent fields = true)
    (periodic : is64bit = true -> Periodic 64 32 immediate)
    (least : is64bit = false -> ¬ Periodic 32 (2 ^ exponent) immediate) :
    decodeBitMasks (operationWidth is64bit) fields ≠ some (operandValue immediate is64bit) := by
  intro decoded
  unfold misreads at misread
  rw [decoded] at misread
  cases is64bit with
  | true =>
      obtain ⟨place, member, differs⟩ := List.any_eq_true.mp misread
      have inside := List.mem_range.mp member
      have value : operandValue immediate true = immediate := BitVec.setWidth_eq immediate
      have same := periodic rfl (place + 32) (by omega)
      rw [Nat.add_mod_right, Nat.mod_eq_of_lt inside] at same
      rw [value] at differs
      change (immediate.getLsbD place != immediate.getLsbD (place + 32)) = true at differs
      rw [same] at differs
      exact absurd rfl (bne_iff_ne.mp differs)
  | false =>
      apply least rfl
      intro place below
      have inElement : place % 2 ^ exponent < 32 := lt_of_le_of_lt (Nat.mod_le _ _) below
      have same := eq_of_beq (List.all_eq_true.mp misread place (List.mem_range.mpr below))
      change (immediate.setWidth 32).getLsbD place =
        (immediate.setWidth 32).getLsbD (place % 2 ^ exponent) at same
      rw [BitVec.getLsbD_setWidth, BitVec.getLsbD_setWidth, decide_eq_true below,
        decide_eq_true inElement, Bool.true_and, Bool.true_and] at same
      exact same

/-- The value of the operation does not see bits beyond the width. -/
theorem operandValue_lower (immediate : Word) :
    operandValue (immediate &&& lowerMask) false = operandValue immediate false := by
  have lower : (lowerMask.setWidth 32 : BitVec 32) = BitVec.allOnes 32 := by decide
  change (immediate &&& lowerMask).setWidth 32 = immediate.setWidth 32
  rw [BitVec.setWidth_and, lower, BitVec.and_allOnes]

/-- There are no fields for 32 ones. -/
theorem searchFields_ones : searchFields (widthOnes false) false = none := by
  decide +kernel

/-- A search that gives fields gives wrong ones. -/
theorem searchFields_wrong {immediate : Word} {is64bit : Bool}
    (fits : FitsWidth immediate is64bit) {fields : BitmaskFields}
    (given : searchFields immediate is64bit = some fields) :
    decodeBitMasks (operationWidth is64bit) fields ≠ some (operandValue immediate is64bit) := by
  by_cases plain : immediate = 0#64 ∨ immediate = ~~~0#64
  · unfold searchFields at given
    rw [if_pos plain] at given
    rw [← Option.some.inj given, decodeBitMasks_reserved]
    exact (Option.some_ne_none _).symm
  · by_cases ones : immediate = widthOnes is64bit
    · cases is64bit with
      | true => exact absurd (Or.inr ones) plain
      | false =>
          rw [ones, searchFields_ones] at given
          cases given
    · have mixed := Mixed.of_ne fits (fun zeros => plain (Or.inl zeros)) ones
      obtain ⟨exponent, small, periodic, least, rfl⟩ := searchFields_some mixed given
      apply decode_ne_of_misreads (misreads_patternFields is64bit small _)
      · rintro rfl
        exact periodic.of_dvd (foundSizes_dvd (pow_mem_foundSizes small))
      · rintro rfl
        exact least

/-! ## The bitmask immediates -/

/-- A bit of a rotated run. -/
theorem getLsbD_replicatedRun {width length ones rotation : Nat} (divides : 2 ^ length ∣ width)
    {place : Nat} (below : place < width) :
    (replicatedRun width length ones rotation).getLsbD place =
      (rotatedRun length ones rotation).getLsbD (place % 2 ^ length) :=
  getLsbD_replicate_of_dvd _ divides below

/-- An element of 64 bits is not replicated. -/
theorem replicatedRun_word (ones rotation : Nat) :
    replicatedRun 64 6 ones rotation = (BitVec.ofNat 64 (2 ^ ones - 1)).rotateRight rotation := by
  have divides : 2 ^ 6 ∣ 64 := by decide
  apply BitVec.eq_of_getLsbD_eq
  intro place below
  rw [getLsbD_replicatedRun divides below, Nat.mod_eq_of_lt (show place < 2 ^ 6 from below)]
  rfl

/-- A bitmask immediate with a smaller element has equal halves. -/
theorem halves_replicatedRun {length : Nat} (small : length < 6) (ones rotation : Nat) :
    (replicatedRun 64 length ones rotation).extractLsb' 0 32 =
      (replicatedRun 64 length ones rotation).extractLsb' 32 32 := by
  have inHalf : 2 ^ length ∣ 32 := pow_dvd_pow 2 (show length <= 5 by omega)
  have inWord : 2 ^ length ∣ 64 := pow_dvd_pow 2 (show length <= 6 by omega)
  rw [halves_eq_iff]
  exact (periodic_replicate _ inWord).of_dvd inHalf

/-- A bitmask immediate lacks a bit. -/
theorem IsBitmask.exists_gap {value : BitVec 32} (mask : IsBitmask value) :
    exists place, place < 32 ∧ value.getLsbD place = false := by
  obtain ⟨length, ones, rotation, _, inWidth, _, proper, turned, rfl⟩ := mask
  have exponent : length <= 5 := (Nat.pow_le_pow_iff_right (by decide : 1 < 2)).mp inWidth
  have divides : 2 ^ length ∣ 32 := pow_dvd_pow 2 exponent
  refine ⟨(ones + 2 ^ length - rotation) % 2 ^ length, ?_, ?_⟩
  · exact (Nat.mod_lt _ (Nat.two_pow_pos length)).trans_le inWidth
  · have below : (ones + 2 ^ length - rotation) % 2 ^ length < 2 ^ length :=
      Nat.mod_lt _ (Nat.two_pow_pos length)
    have first : (ones + 2 ^ length - rotation) % 2 ^ length + rotation ≡ ones
        [MOD 2 ^ length] := by
      have shifted : (ones + 2 ^ length - rotation) + rotation = ones + 2 ^ length := by omega
      calc (ones + 2 ^ length - rotation) % 2 ^ length + rotation
          ≡ (ones + 2 ^ length - rotation) + rotation [MOD 2 ^ length] :=
            (Nat.mod_modEq _ _).add_right rotation
        _ = ones + 2 ^ length := shifted
        _ ≡ ones [MOD 2 ^ length] := Nat.add_modEq_right
    have atOnes : ((ones + 2 ^ length - rotation) % 2 ^ length + rotation) % 2 ^ length = ones :=
      Eq.trans first (Nat.mod_eq_of_lt proper)
    rw [getLsbD_replicatedRun divides (below.trans_le inWidth), Nat.mod_mod, rotatedRun,
      getLsbD_rotateRight_mod _ turned below, atOnes, BitVec.getLsbD_ofNat,
      Nat.testBit_two_pow_sub_one, decide_eq_false (lt_irrefl ones), Bool.and_false]

/-! ## Where the search is right -/

/-- The lower half of an immediate fits 32 bits. -/
theorem fitsWidth_lower (immediate : Word) : FitsWidth (immediate &&& lowerMask) false := by
  intro place beyond
  rw [BitVec.getLsbD_and, show lowerMask = widthOnes false from rfl, getLsbD_widthOnes,
    decide_eq_false (Nat.not_lt.mpr beyond), Bool.and_false]

/-- Ones below 32 are no bitmask immediate. -/
theorem not_isBitmask_ones {immediate : Word} (ones : immediate &&& lowerMask = lowerMask) :
    ¬ IsBitmask (operandValue immediate false) := by
  intro mask
  rw [← operandValue_lower, ones] at mask
  obtain ⟨place, below, gap⟩ := IsBitmask.exists_gap mask
  change (lowerMask.setWidth 32).getLsbD place = false at gap
  rw [BitVec.getLsbD_setWidth, show lowerMask = widthOnes false from rfl, getLsbD_widthOnes,
    decide_eq_true below, decide_eq_true (show place < operationWidth false from below)] at gap
  exact Bool.noConfusion gap

/-- Fields are given for each immediate of 32 bits that is not all ones. -/
theorem searchFields_lower_isSome {immediate : Word}
    (proper : immediate &&& lowerMask ≠ lowerMask) :
    (searchFields (immediate &&& lowerMask) false).isSome := by
  by_cases zero : immediate &&& lowerMask = 0#64
  · rw [zero]
    rfl
  · exact (searchFields_isSome_iff (Mixed.of_ne (fitsWidth_lower immediate) zero proper)).mpr
      (Periodic.of_le _ (le_refl 32))

/-- The search is right exactly for the words whose halves differ and that are no rotated run of
ones, and for 32 ones. -/
theorem encodesBitmask_iff (immediate : Word) (is64bit : Bool) :
    EncodesBitmask immediate is64bit <-> SearchIsRight immediate is64bit := by
  cases is64bit with
  | true =>
      have value : operandValue immediate true = immediate := BitVec.setWidth_eq immediate
      have search : encodeBitmaskImmediate immediate true = searchFields immediate true := rfl
      have fits : FitsWidth immediate true :=
        fun place beyond => BitVec.getLsbD_of_ge immediate place beyond
      constructor
      · rintro ⟨sound, complete⟩
        have halves : immediate.extractLsb' 0 32 ≠ immediate.extractLsb' 32 32 := by
          intro same
          have given : (searchFields immediate true).isSome := by
            by_cases plain : immediate = 0#64 ∨ immediate = ~~~0#64
            · unfold searchFields
              rw [if_pos plain]
              rfl
            · apply (searchFields_isSome_iff (Mixed.of_ne fits _ _)).mpr
              · exact (halves_eq_iff immediate).mp same
              · exact fun zeros => plain (Or.inl zeros)
              · exact fun ones => plain (Or.inr ones)
          obtain ⟨fields, equal⟩ := Option.isSome_iff_exists.mp given
          exact searchFields_wrong fits equal (sound fields equal)
        refine ⟨halves, ?_⟩
        rintro ones rotation positive proper turned rfl
        have mask : IsBitmask (operandValue
            ((BitVec.ofNat 64 (2 ^ ones - 1)).rotateRight rotation) true) := by
          rw [value, ← replicatedRun_word]
          exact ⟨6, ones, rotation, by decide, by decide, positive, proper, turned, rfl⟩
        have given := complete (Or.inl rfl) mask
        rw [search, searchFields_isSome_iff (Mixed.of_halves halves)] at given
        exact halves ((halves_eq_iff _).mpr given)
      · rintro ⟨halves, unrotated⟩
        have nothing : ¬ (searchFields immediate true).isSome := by
          rw [searchFields_isSome_iff (Mixed.of_halves halves)]
          exact fun periodic => halves ((halves_eq_iff _).mpr periodic)
        constructor
        · intro fields given
          exact absurd (Option.isSome_iff_exists.mpr ⟨fields, given⟩) nothing
        · rintro _ ⟨length, ones, rotation, _, inWidth, positive, proper, turned, equal⟩
          rw [value] at equal
          have exponent : length <= 6 := (Nat.pow_le_pow_iff_right (by decide : 1 < 2)).mp inWidth
          rcases Nat.lt_or_eq_of_le exponent with small | rfl
          · subst equal
            exact absurd (halves_replicatedRun small ones rotation) halves
          · refine absurd ?_ (unrotated ones rotation positive proper turned)
            exact equal.trans (replicatedRun_word ones rotation)
  | false =>
      by_cases stands : standsFor32 immediate = true
      · have search : encodeBitmaskImmediate immediate false =
            searchFields (immediate &&& lowerMask) false := by
          unfold encodeBitmaskImmediate
          rw [if_neg Bool.false_ne_true, if_pos stands]
        by_cases ones : immediate &&& lowerMask = lowerMask
        · refine iff_of_true ⟨?_, ?_⟩ (Or.inr ones)
          · intro fields given
            rw [search, ones] at given
            exact absurd (given.symm.trans searchFields_ones) (Option.some_ne_none fields)
          · intro _ mask
            exact absurd mask (not_isBitmask_ones ones)
        · refine iff_of_false ?_ ?_
          · rintro ⟨sound, _⟩
            obtain ⟨fields, given⟩ :=
              Option.isSome_iff_exists.mp (searchFields_lower_isSome ones)
            apply searchFields_wrong (fitsWidth_lower immediate) given
            rw [operandValue_lower]
            exact sound fields (search.trans given)
          · rintro (other | full)
            · rw [stands] at other
              exact Bool.noConfusion other
            · exact ones full
      · have search : encodeBitmaskImmediate immediate false = none := by
          unfold encodeBitmaskImmediate
          rw [if_neg Bool.false_ne_true, if_neg stands]
        refine iff_of_true ⟨?_, ?_⟩ (Or.inl (Bool.eq_false_iff.mpr stands))
        · intro fields given
          rw [search] at given
          cases given
        · rintro (wide | other) _
          · exact absurd wide Bool.false_ne_true
          · exact absurd other stands

/-- Alternating bits: the fields are those of 63 ones. -/
theorem alternatingBits_misencoded :
    ¬ forall immediate is64bit, EncodesBitmask immediate is64bit := by
  intro encodes
  have fields : encodeBitmaskImmediate 0x5555555555555555#64 true =
      some ⟨1#32, 0#32, 0b111110#32⟩ := by decide +kernel
  have decoded := (encodes 0x5555555555555555#64 true).1 _ fields
  exact absurd decoded (by decide +kernel)

end Encoding
end NewBcpl
