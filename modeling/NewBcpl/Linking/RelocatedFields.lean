import NewBcpl.Linking.Relocations
import NewBcpl.Foundations.SignedFields
import Mathlib.Data.List.Forall2
import Mathlib.Data.BitVec

namespace NewBcpl
namespace Linking

open Encoding
open Foundations.BitFields
open Foundations.SignedFields

/-!
# What the patched fields hold

The fields are cut to their length without a check: a branch reads its target when the offset
is a number of words that the field can hold, and `ADRP` its page when the distance of the
pages is less than 4 GiB. The other fields hold every target.
-/

/-! ## Branches -/

/-- A branch reads its target when the field reaches it. -/
theorem branchTarget_eq_iff {length : Nat} (address target : Word) (small : length + 1 <= 30) :
    branchTarget address
        (((((target - address).sdiv 4#64) &&&
          BitVec.ofNat 64 (2 ^ (length + 1) - 1)).setWidth 32).setWidth (length + 1)) = target <->
      Reaches (length + 1) (target - address) := by
  have scaled := @scale_mul_bmod_eq_iff 4 (target - address).toInt
    ((target - address).sdiv 4#64).toInt length (by decide)
    (@mul_toInt_sdiv (target - address) 4#64 (by decide))
  have shift : branchTarget address
      (((((target - address).sdiv 4#64) &&&
        BitVec.ofNat 64 (2 ^ (length + 1) - 1)).setWidth 32).setWidth (length + 1)) = target <->
      ((((target - address).sdiv 4#64).setWidth (length + 1)) ++ 0#2).signExtend 64 =
        target - address := by
    rw [setWidth_and_ones _ 32 (by omega) (by omega)]
    unfold branchTarget
    exact eq_sub_iff_add_eq'.symm
  rw [shift, signExtend_append_eq_iff _ _ (by omega), toInt_setWidth_eq_bmod _ (by omega)]
  have range : (2 : Int) ^ (length + 1 + 1) = 4 * 2 ^ length := by
    rw [pow_succ, pow_succ]
    omega
  unfold Reaches
  rw [range]
  exact scaled

/-! ## Pages -/

/-- The page of an address. -/
theorem pageBase_toNat (address : Word) :
    (address &&& ~~~pageMask).toNat = address.toNat / 4096 * 4096 := by
  have shifted : address &&& ~~~pageMask = address >>> 12 <<< 12 := by
    apply BitVec.eq_of_getLsbD_eq
    intro place below
    have mask : pageMask = BitVec.ofNat 64 (2 ^ 12 - 1) := rfl
    rw [BitVec.getLsbD_and, BitVec.getLsbD_not, mask, BitVec.getLsbD_ofNat,
      Nat.testBit_two_pow_sub_one, BitVec.getLsbD_shiftLeft, BitVec.getLsbD_ushiftRight]
    by_cases low : place < 12
    · simp [low, below]
    · rw [Nat.add_sub_cancel' (Nat.le_of_not_lt low)]
      simp [low, below]
  have small := address.isLt
  rw [shifted, BitVec.toNat_shiftLeft, BitVec.toNat_ushiftRight, Nat.shiftRight_eq_div_pow,
    Nat.shiftLeft_eq]
  omega

/-- The place of an address in its page. -/
theorem pageOffset_toNat (address : Word) : (address &&& pageMask).toNat = address.toNat % 4096 := by
  have mask : pageMask.toNat = 2 ^ 12 - 1 := rfl
  rw [BitVec.toNat_and, mask, Nat.and_two_pow_sub_one_eq_mod]

/-- An address is its page and its place in it. -/
theorem page_add_pageOffset (address : Word) :
    (address &&& ~~~pageMask) + (address &&& pageMask) = address := by
  apply BitVec.eq_of_toNat_eq
  have small := address.isLt
  rw [BitVec.toNat_add, pageBase_toNat, pageOffset_toNat]
  omega

/-- Pages are a multiple of their size apart. -/
theorem pageDistance_emod (address target : Word) :
    ((target &&& ~~~pageMask) - (address &&& ~~~pageMask)).toInt % 4096 = 0 := by
  have distance := BitVec.toNat_sub (target &&& ~~~pageMask) (address &&& ~~~pageMask)
  have firstSmall := address.isLt
  rw [pageBase_toNat, pageBase_toNat] at distance
  rw [BitVec.toInt_eq_toNat_cond, distance]
  split <;> omega

/-- The two parts of a page number are put together again. -/
theorem page_parts (imm21 : BitVec 32) :
    (imm21.sshiftRight 2).setWidth 19 ++ (imm21 &&& 0x3#32).setWidth 2 = imm21.setWidth 21 := by
  apply BitVec.eq_of_getLsbD_eq
  intro place below
  have three : (0x3#32 : BitVec 32) = BitVec.ofNat 32 (2 ^ 2 - 1) := rfl
  rw [BitVec.getLsbD_append, BitVec.getLsbD_setWidth, BitVec.getLsbD_setWidth,
    BitVec.getLsbD_setWidth, BitVec.getLsbD_and, three, BitVec.getLsbD_ofNat,
    Nat.testBit_two_pow_sub_one, BitVec.getLsbD_sshiftRight]
  by_cases low : place < 2
  · have inside : place < 32 := by omega
    simp [low, below, inside]
  · have inside : place - 2 < 19 := by omega
    have notBeyond : ¬ 32 <= place - 2 := by omega
    have next : 2 + (place - 2) = place := by omega
    have inWord : place < 32 := by omega
    simp [low, below, inside, notBeyond, next, inWord]

/-- `ADRP` reads the page of its target when it is near enough. -/
theorem pageAddress_eq_iff (address target : Word) (encoding : BitVec 32)
    (imm21 : BitVec 32)
    (cut : imm21 = ((((target &&& ~~~pageMask) - (address &&& ~~~pageMask)).sshiftRight 12) &&&
      0x1FFFFF#64).setWidth 32)
    (high : pageHigh.read encoding = (imm21.sshiftRight 2).setWidth 19)
    (low : pageLow.read encoding = (imm21 &&& 0x3#32).setWidth 2) :
    pageAddress address encoding = target &&& ~~~pageMask <->
      Represents .page21BitPcRelative address target := by
  have pages := pageDistance_emod address target
  have scaled := @scale_mul_bmod_eq_iff 4096
    ((target &&& ~~~pageMask) - (address &&& ~~~pageMask)).toInt
    (((target &&& ~~~pageMask) - (address &&& ~~~pageMask)).sshiftRight 12).toInt 20 (by decide)
    (by
      intro multiple
      rw [BitVec.toInt_sshiftRight, Int.shiftRight_eq_div_pow]
      exact Int.mul_ediv_cancel' (Int.dvd_of_emod_eq_zero multiple))
  have shift : pageAddress address encoding = target &&& ~~~pageMask <->
      ((((target &&& ~~~pageMask) - (address &&& ~~~pageMask)).sshiftRight 12).setWidth 21 ++
        0#12).signExtend 64 = (target &&& ~~~pageMask) - (address &&& ~~~pageMask) := by
    have ones : (0x1FFFFF#64 : Word) = BitVec.ofNat 64 (2 ^ 21 - 1) := rfl
    have parts := page_parts imm21
    rw [cut, ones, setWidth_and_ones _ 32 (by decide) (by decide), ← ones, ← cut, ← high, ← low]
      at parts
    unfold pageAddress
    rw [← parts]
    exact eq_sub_iff_add_eq'.symm
  rw [shift, signExtend_append_eq_iff _ _ (by decide), toInt_setWidth_eq_bmod _ (by decide)]
  refine scaled.trans ?_
  rw [and_iff_right pages]
  exact Iff.rfl

end Linking
end NewBcpl
