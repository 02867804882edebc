import NewBcpl.Encoding.BitPatcher
import Mathlib.Data.BitVec

namespace NewBcpl
namespace Encoding

/-!
# Decoding

What the processor makes of a word, for the classes of instructions that the encoders build:
arithmetic with an immediate, `ORR` of registers, wide moves, bitfield moves, and loads and
stores of one register or of a pair. A word of another class, or one that is not allocated, has
no operation here.
-/

/-- A register as an instruction means it. -/
inductive Reg where
  | general (number : Fin 31)
  | stackPointer
  | zero
  deriving DecidableEq, Repr

namespace Reg

/-- Register 31 as the zero register. -/
def orZero (number : BitVec 5) : Reg :=
  if below : number.toNat < 31 then general ⟨number.toNat, below⟩ else zero

/-- Register 31 as the stack pointer. -/
def orStackPointer (number : BitVec 5) : Reg :=
  if below : number.toNat < 31 then general ⟨number.toNat, below⟩ else stackPointer

end Reg

/-- Operations; a wide one works on 64 bits. -/
inductive Operation where
  | add (setFlags wide : Bool) (rd rn : Reg) (immediate : Int)
  | sub (setFlags wide : Bool) (rd rn : Reg) (immediate : Int)
  | orr (wide : Bool) (rd rn rm : Reg)
  | movz (wide : Bool) (rd : Reg) (immediate : BitVec 16) (slice : BitVec 2)
  | movk (wide : Bool) (rd : Reg) (immediate : BitVec 16) (slice : BitVec 2)
  | sbfm (wide : Bool) (rd rn : Reg) (immr imms : BitVec 6)
  | bfm (wide : Bool) (rd rn : Reg) (immr imms : BitVec 6)
  | ubfm (wide : Bool) (rd rn : Reg) (immr imms : BitVec 6)
  | ldr (wide : Bool) (rt rn : Reg) (offset : Int)
  | str (wide : Bool) (rt rn : Reg) (offset : Int)
  | ldnp (wide : Bool) (rt rt2 rn : Reg) (offset : Int)
  | stnp (wide : Bool) (rt rt2 rn : Reg) (offset : Int)
  | ldpPost (wide : Bool) (rt rt2 rn : Reg) (offset : Int)
  | stpPost (wide : Bool) (rt rt2 rn : Reg) (offset : Int)
  | ldp (wide : Bool) (rt rt2 rn : Reg) (offset : Int)
  | stp (wide : Bool) (rt rt2 rn : Reg) (offset : Int)
  | ldpPre (wide : Bool) (rt rt2 rn : Reg) (offset : Int)
  | stpPre (wide : Bool) (rt rt2 rn : Reg) (offset : Int)
  deriving DecidableEq, Repr

/-! ## The fields -/

/-- Bit 31. -/
def sf : PatchField 1 := ⟨31, by decide, by decide⟩
/-- Bits 30 and 31. -/
def size : PatchField 2 := ⟨30, by decide, by decide⟩
/-- Bits 29 and 30. -/
def opc : PatchField 2 := ⟨29, by decide, by decide⟩
/-- Bits 23 to 28. -/
def family : PatchField 6 := ⟨23, by decide, by decide⟩
/-- Bits 24 to 28. -/
def registerFamily : PatchField 5 := ⟨24, by decide, by decide⟩
/-- Bits 24 to 29. -/
def accessFamily : PatchField 6 := ⟨24, by decide, by decide⟩
/-- Bits 25 to 29. -/
def pairFamily : PatchField 5 := ⟨25, by decide, by decide⟩
/-- Bits 23 and 24. -/
def indexing : PatchField 2 := ⟨23, by decide, by decide⟩
/-- Bits 22 and 23. -/
def access : PatchField 2 := ⟨22, by decide, by decide⟩
/-- Bit 22. -/
def bit22 : PatchField 1 := ⟨22, by decide, by decide⟩
/-- Bits 21 and 22. -/
def hw : PatchField 2 := ⟨21, by decide, by decide⟩
/-- Bit 21. -/
def bit21 : PatchField 1 := ⟨21, by decide, by decide⟩
/-- Bits 16 to 20. -/
def rm : PatchField 5 := ⟨16, by decide, by decide⟩
/-- Bits 16 to 21. -/
def immr : PatchField 6 := ⟨16, by decide, by decide⟩
/-- Bits 15 to 21. -/
def imm7 : PatchField 7 := ⟨15, by decide, by decide⟩
/-- Bits 10 to 15. -/
def imms : PatchField 6 := ⟨10, by decide, by decide⟩
/-- Bits 10 to 14. -/
def rt2 : PatchField 5 := ⟨10, by decide, by decide⟩
/-- Bits 10 to 21. -/
def imm12 : PatchField 12 := ⟨10, by decide, by decide⟩
/-- Bits 5 to 20. -/
def imm16 : PatchField 16 := ⟨5, by decide, by decide⟩
/-- Bits 5 to 9. -/
def rn : PatchField 5 := ⟨5, by decide, by decide⟩
/-- Bits 0 to 4. -/
def rd : PatchField 5 := ⟨0, by decide, by decide⟩

/-! ## The classes -/

/-- Whether an instruction works on 64 bits. -/
def isWide (word : BitVec 32) : Bool := sf.read word == 1#1

/-- Addition and subtraction of an immediate. Without flags register 31 is the stack pointer as
the destination. -/
def decodeArithmetic (word : BitVec 32) : Operation :=
  let shift := if bit22.read word = 1#1 then 12 else 0
  let immediate : Int := (imm12.read word).toNat <<< shift
  let source := Reg.orStackPointer (rn.read word)
  match (opc.read word).toNat with
  | 0 => .add false (isWide word) (.orStackPointer (rd.read word)) source immediate
  | 1 => .add true (isWide word) (.orZero (rd.read word)) source immediate
  | 2 => .sub false (isWide word) (.orStackPointer (rd.read word)) source immediate
  | _ => .sub true (isWide word) (.orZero (rd.read word)) source immediate

/-- Logical operations on registers: `ORR` with a register that is not shifted. -/
def decodeLogical (word : BitVec 32) : Option Operation :=
  if opc.read word = 0b01#2 ∧ access.read word = 0b00#2 ∧ bit21.read word = 0#1 ∧
      imms.read word = 0#6 then
    some (.orr (isWide word) (.orZero (rd.read word)) (.orZero (rn.read word))
      (.orZero (rm.read word)))
  else none

/-- Moves of an immediate. -/
def decodeMoveWide (word : BitVec 32) : Option Operation :=
  if isWide word = false ∧ 2 <= (hw.read word).toNat then none
  else
    match (opc.read word).toNat with
    | 2 => some (.movz (isWide word) (.orZero (rd.read word)) (imm16.read word) (hw.read word))
    | 3 => some (.movk (isWide word) (.orZero (rd.read word)) (imm16.read word) (hw.read word))
    | _ => none

/-- Bitfield moves. -/
def decodeBitfield (word : BitVec 32) : Option Operation :=
  let target := Reg.orZero (rd.read word)
  let source := Reg.orZero (rn.read word)
  if bit22.read word ≠ sf.read word then none
  else if isWide word = false ∧ (32 <= (immr.read word).toNat ∨ 32 <= (imms.read word).toNat) then
    none
  else
    match (opc.read word).toNat with
    | 0 => some (.sbfm (isWide word) target source (immr.read word) (imms.read word))
    | 1 => some (.bfm (isWide word) target source (immr.read word) (imms.read word))
    | 2 => some (.ubfm (isWide word) target source (immr.read word) (imms.read word))
    | _ => none

/-- Loads and stores of a register; the offset counts registers. -/
def decodeAccess (word : BitVec 32) : Option Operation :=
  let target := Reg.orZero (rd.read word)
  let base := Reg.orStackPointer (rn.read word)
  match (size.read word).toNat, (access.read word).toNat with
  | 2, 0 => some (.str false target base (4 * (imm12.read word).toNat))
  | 2, 1 => some (.ldr false target base (4 * (imm12.read word).toNat))
  | 3, 0 => some (.str true target base (8 * (imm12.read word).toNat))
  | 3, 1 => some (.ldr true target base (8 * (imm12.read word).toNat))
  | _, _ => none

/-- Loads and stores of a pair: without allocation, with the base written afterwards, with an
offset, and with the base written before. -/
def decodePair (word : BitVec 32) : Option Operation :=
  let first := Reg.orZero (rd.read word)
  let second := Reg.orZero (rt2.read word)
  let base := Reg.orStackPointer (rn.read word)
  match (size.read word).toNat with
  | 0 => some (operation (indexing.read word).toNat (bit22.read word == 1#1) false
      first second base (4 * (imm7.read word).toInt))
  | 2 => some (operation (indexing.read word).toNat (bit22.read word == 1#1) true
      first second base (8 * (imm7.read word).toInt))
  | _ => none
where
  operation (mode : Nat) (isLoad : Bool) : Bool -> Reg -> Reg -> Reg -> Int -> Operation :=
    match mode, isLoad with
    | 0, true => .ldnp
    | 0, false => .stnp
    | 1, true => .ldpPost
    | 1, false => .stpPost
    | 2, true => .ldp
    | 2, false => .stp
    | _, true => .ldpPre
    | _, false => .stpPre

/-- The operation of a word. -/
def decode (word : BitVec 32) : Option Operation :=
  if family.read word = 0b100010#6 then some (decodeArithmetic word)
  else if family.read word = 0b100101#6 then decodeMoveWide word
  else if family.read word = 0b100110#6 then decodeBitfield word
  else if registerFamily.read word = 0b01010#5 then decodeLogical word
  else if accessFamily.read word = 0b111001#6 then decodeAccess word
  else if pairFamily.read word = 0b10100#5 then decodePair word
  else none

example : decode 0x91004020#32 = some (.add false true (.general 0) (.general 1) 16) := by
  decide

example : decode 0xA9BF7BFD#32 =
    some (.stpPre true (.general 29) (.general 30) .stackPointer (-16)) := by
  decide

end Encoding
end NewBcpl
