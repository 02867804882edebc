import NewBcpl.Ast
import Mathlib.Data.List.Basic

namespace NewBcpl
namespace Encoding

/-!
# Bitmask immediates

The search of the encoder for the fields of a logical immediate, and what the processor reads
from such fields. A shift takes its amount modulo 64, as the shift instructions of both
processors do that the program is built for.
-/

/-- The fields that the search gives. -/
structure BitmaskFields where
  n : BitVec 32
  immr : BitVec 32
  imms : BitVec 32
  deriving DecidableEq, Repr

/-! ## The encoder -/

/-- `value << amount`. -/
def shiftLeft (value : Word) (amount : Nat) : Word := value <<< (amount % 64)

/-- `value >> amount`. -/
def shiftRight (value : Word) (amount : Nat) : Word := value >>> (amount % 64)

/-- The mask of the lower half. -/
def lowerMask : Word := 0xFFFFFFFF#64

/-- The mask of the upper half. -/
def upperMask : Word := 0xFFFFFFFF00000000#64

/-- The upper half is zeros or ones, or the same as the lower half. -/
def standsFor32 (immediate : Word) : Bool :=
  (immediate &&& upperMask) == 0#64 || (immediate &&& upperMask) == upperMask ||
    (immediate &&& lowerMask) == immediate >>> 32

/-- The loop that replicates a pattern. -/
def replicate (pattern : Word) (size : Nat) : Word :=
  (List.range (64 / size)).foldl (fun replicated i => replicated ||| shiftLeft pattern (i * size))
    0#64

/-- The replicated pattern, rotated. -/
def rotate (replicated : Word) (is64bit : Bool) (rotation : Nat) : Word :=
  let rotated := shiftRight replicated rotation ||| shiftLeft replicated (64 - rotation)
  if is64bit then rotated else rotated &&& lowerMask

/-- The fields for a pattern of some size that was found under some rotation. -/
def patternFields (is64bit : Bool) (size : Nat) (pattern : Word) (rotation : Nat) :
    BitmaskFields where
  n := if is64bit then 1#32 else 0#32
  imms := (~~~(BitVec.ofNat 32 (size - 1)) &&& 0b111111#32) |||
    (BitVec.ofNat 32 pattern.cpop.toNat - 1#32)
  immr := BitVec.ofNat 32 rotation

/-- The rotations of one element size. -/
def trySize (immediate : Word) (is64bit : Bool) (size : Nat) : Option BitmaskFields :=
  let mask := shiftLeft 1#64 size - 1#64
  let pattern := immediate &&& mask
  if pattern = 0#64 ∨ pattern = mask then none
  else
    (List.range size).findSome? fun rotation =>
      if rotate (replicate pattern size) is64bit rotation = immediate then
        some (patternFields is64bit size pattern rotation)
      else none

/-- The element sizes of the loop. -/
def elementSizes (is64bit : Bool) : List Nat :=
  if is64bit then [2, 4, 8, 16, 32, 64] else [2, 4, 8, 16, 32]

/-- The search once the immediate has been cut to its width. -/
def searchFields (immediate : Word) (is64bit : Bool) : Option BitmaskFields :=
  if immediate = 0#64 ∨ immediate = ~~~0#64 then
    some
      { n := if is64bit then 1#32 else 0#32
        immr := 0#32
        imms := if is64bit then 0b111111#32 else 0b011111#32 }
  else (elementSizes is64bit).findSome? (trySize immediate is64bit)

/-- `Encoder::encode_bitmask_immediate`. -/
def encodeBitmaskImmediate (immediate : Word) (is64bit : Bool) : Option BitmaskFields :=
  if is64bit then searchFields immediate true
  else if standsFor32 immediate then searchFields (immediate &&& lowerMask) false
  else none

/-! ## The processor -/

/-- A run of ones in an element of `2 ^ length` bits, rotated to the right. -/
def rotatedRun (length ones rotation : Nat) : BitVec (2 ^ length) :=
  (BitVec.ofNat (2 ^ length) (2 ^ ones - 1)).rotateRight rotation

/-- The element, replicated over the width. -/
def replicatedRun (width length ones rotation : Nat) : BitVec width :=
  ((rotatedRun length ones rotation).replicate (width / 2 ^ length)).setWidth width

/-- The place of the highest set bit. -/
def highestSetBit (value : BitVec 7) : Option Nat :=
  (List.range 7).reverse.find? value.getLsbD

/-- `DecodeBitMasks`: the mask that an instruction of a width works with, or nothing when the
fields are reserved. -/
def decodeBitMasks (width : Nat) (fields : BitmaskFields) : Option (BitVec width) :=
  let n := fields.n.setWidth 1
  let immr := fields.immr.setWidth 6
  let imms := fields.imms.setWidth 6
  if width = 32 ∧ n = 1#1 then none
  else
    match highestSetBit (n ++ ~~~imms) with
    | none | some 0 => none
    | some length =>
        let levels := 2 ^ length - 1
        let s := imms.toNat &&& levels
        let r := immr.toNat &&& levels
        if s = levels then none else some (replicatedRun width length (s + 1) r)

/-! ## What the search promises -/

/-- The width of an operation. -/
def operationWidth (is64bit : Bool) : Nat := if is64bit then 64 else 32

/-- The value that an operation of the width works with. -/
def operandValue (immediate : Word) (is64bit : Bool) : BitVec (operationWidth is64bit) :=
  immediate.setWidth (operationWidth is64bit)

/-- A rotated run of ones, replicated from an element of 2 to 64 bits; neither all zeros nor
all ones. -/
def IsBitmask {width : Nat} (value : BitVec width) : Prop :=
  exists length ones rotation, 1 <= length ∧ 2 ^ length <= width ∧ 0 < ones ∧
    ones < 2 ^ length ∧ rotation < 2 ^ length ∧
    value = replicatedRun width length ones rotation

/-- The immediates of an operation; one of 32 bits is extended in some way. -/
def IsImmediate (immediate : Word) (is64bit : Bool) : Prop :=
  is64bit = true ∨ standsFor32 immediate = true

/-- The fields that are given decode to the immediate, and there are fields for each bitmask
immediate. -/
def EncodesBitmask (immediate : Word) (is64bit : Bool) : Prop :=
  (forall fields, encodeBitmaskImmediate immediate is64bit = some fields ->
    decodeBitMasks (operationWidth is64bit) fields = some (operandValue immediate is64bit)) ∧
  (IsImmediate immediate is64bit -> IsBitmask (operandValue immediate is64bit) ->
    (encodeBitmaskImmediate immediate is64bit).isSome)

/-- With 64 bits, the halves differ and the immediate is no rotated run of ones; with 32 bits,
the lower half is all ones or the immediate does not stand for one of 32 bits. -/
def SearchIsRight (immediate : Word) : Bool -> Prop
  | true => immediate.extractLsb' 0 32 ≠ immediate.extractLsb' 32 32 ∧
      forall ones rotation, 0 < ones -> ones < 64 -> rotation < 64 ->
        immediate ≠ (BitVec.ofNat 64 (2 ^ ones - 1)).rotateRight rotation
  | false => standsFor32 immediate = false ∨ immediate &&& lowerMask = lowerMask

end Encoding
end NewBcpl
