import NewBcpl.Foundations.BitFields

namespace NewBcpl
namespace Encoding

open Foundations.BitFields

/-!
# The bit patcher

`BitPatcher::patch`, with the shifts and masks of its assembly text.
-/

/-- A field of a number of bits that `patch` accepts. -/
structure PatchField (numBits : Nat) where
  startBit : Nat
  nonempty : 0 < numBits
  inside : startBit + numBits <= 32

variable {numBits otherBits : Nat}

/-- The mask for a number of bits. -/
def bitsMask (numBits : Nat) : BitVec 32 :=
  if numBits = 32 then 0xFFFFFFFF#32 else 1#32 <<< numBits - 1#32

/-- `BitPatcher::patch`. -/
def patch (data valueToPatch : BitVec 32) (field : PatchField numBits) : BitVec 32 :=
  let mask := bitsMask numBits <<< field.startBit
  (data &&& ~~~mask) ||| ((valueToPatch <<< field.startBit) &&& mask)

/-- The part of a word that a field holds. -/
def PatchField.read (field : PatchField numBits) (word : BitVec 32) : BitVec numBits :=
  word.extractLsb' field.startBit numBits

/-- The patcher writes the field. -/
theorem patch_eq_writeField (data valueToPatch : BitVec 32) (field : PatchField numBits) :
    patch data valueToPatch field =
      writeField data valueToPatch field.startBit numBits := by
  have bits : numBits <= 32 := by
    have inside := field.inside
    omega
  have mask : bitsMask numBits = BitVec.ofNat 32 (2 ^ numBits - 1) :=
    (by decide : forall numBits, numBits <= 32 ->
      bitsMask numBits = BitVec.ofNat 32 (2 ^ numBits - 1)) numBits bits
  unfold patch writeField fieldMask
  rw [mask]

/-- The field that was patched holds the value. -/
theorem PatchField.read_patch (field : PatchField numBits) (data valueToPatch : BitVec 32) :
    field.read (patch data valueToPatch field) = valueToPatch.setWidth numBits := by
  rw [patch_eq_writeField]
  exact extract_writeField_self data valueToPatch field.inside

/-- Two fields have no bit in common. -/
def PatchField.Disjoint (first : PatchField numBits) (second : PatchField otherBits) :
    Prop :=
  first.startBit + numBits <= second.startBit ∨ second.startBit + otherBits <= first.startBit

instance (first : PatchField numBits) (second : PatchField otherBits) :
    Decidable (first.Disjoint second) :=
  inferInstanceAs (Decidable (_ ∨ _))

/-- A field that is disjoint from the one that was patched is as before. -/
theorem PatchField.read_patch_of_disjoint {field : PatchField numBits} {other : PatchField otherBits}
    (disjoint : other.Disjoint field) (data valueToPatch : BitVec 32) :
    other.read (patch data valueToPatch field) = other.read data := by
  rw [patch_eq_writeField]
  exact extract_writeField_disjoint data valueToPatch other.inside disjoint

/-- Patching a field again with the same value does nothing. -/
theorem patch_patch (data valueToPatch : BitVec 32) (field : PatchField numBits) :
    patch (patch data valueToPatch field) valueToPatch field = patch data valueToPatch field := by
  rw [patch_eq_writeField, patch_eq_writeField]
  exact writeField_writeField data valueToPatch field.startBit numBits

/-- Or-ing a shifted value into an empty field patches it. -/
theorem or_shiftLeft_eq_patch (field : PatchField numBits) {word value : BitVec 32}
    (empty : field.read word = BitVec.ofNat numBits 0) (fits : value.toNat < 2 ^ numBits) :
    word ||| value <<< field.startBit = patch word value field := by
  rw [patch_eq_writeField]
  exact or_shiftLeft_eq_writeField empty fits

/-- A patch changes nothing outside of its field. -/
theorem patch_agreeOutside (data valueToPatch : BitVec 32) (field : PatchField numBits) :
    AgreeOutside (patch data valueToPatch field) data field.startBit numBits := by
  rw [patch_eq_writeField]
  exact writeField_agreeOutside data valueToPatch field.startBit numBits

end Encoding
end NewBcpl
