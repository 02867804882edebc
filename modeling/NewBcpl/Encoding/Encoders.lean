import NewBcpl.Encoding.Decoder
import NewBcpl.Peephole.Encoders

namespace NewBcpl
namespace Encoding

open Peephole (RegisterName parseRegister parseComparedRegister getRegEncoding withVariableName)

/-!
# Words and their text

The encoders of moves, of arithmetic with an immediate, and of loads and stores: the word that
each of them builds, the text that it prints next to it, and what the text denotes. An encoder
that throws yields nothing. The other fields of the record are those of the peephole model.
-/

/-- The instructions as they are printed. -/
inductive Assembly where
  | add (xd xn : RegisterName) (immediate : Int)
  | sub (xd xn : RegisterName) (immediate : Int)
  | mov (xd xn : RegisterName)
  | cmp (xn : RegisterName) (immediate : Int)
  | movz (xd : RegisterName) (immediate : BitVec 16) (shift : Nat)
  | movk (xd : RegisterName) (immediate : BitVec 16) (shift : Nat)
  | ldr (xt xn : RegisterName) (immediate : Int)
  | str (xt xn : RegisterName) (immediate : Int)
  | strWord (wt xn : RegisterName) (immediate : Int)
  | ldpPost (xt1 xt2 xn : RegisterName) (immediate : Int)
  | stpPre (xt1 xt2 xn : RegisterName) (immediate : Int)
  deriving DecidableEq, Repr

namespace Assembly

/-- A shift, unless it is zero. -/
def shiftText (shift : Nat) : String :=
  if shift > 0 then ", LSL #" ++ toString shift else ""

/-- The text. -/
def text : Assembly -> String
  | add xd xn immediate =>
      "ADD " ++ xd.spelling ++ ", " ++ xn.spelling ++ ", #" ++ toString immediate
  | sub xd xn immediate =>
      "SUB " ++ xd.spelling ++ ", " ++ xn.spelling ++ ", #" ++ toString immediate
  | mov xd xn => "MOV " ++ xd.spelling ++ ", " ++ xn.spelling
  | cmp xn immediate => "CMP " ++ xn.spelling ++ ", #" ++ toString immediate
  | movz xd immediate shift =>
      "MOVZ " ++ xd.spelling ++ ", #" ++ toString immediate.toNat ++ shiftText shift
  | movk xd immediate shift =>
      "MOVK " ++ xd.spelling ++ ", #" ++ toString immediate.toNat ++ shiftText shift
  | ldr xt xn immediate => Peephole.accessText "LDR " xt xn immediate
  | str xt xn immediate => Peephole.accessText "STR " xt xn immediate
  | strWord wt xn immediate =>
      "STR " ++ wt.spelling ++ ", [" ++ xn.spelling ++ ", #" ++ toString immediate ++ "]"
  | ldpPost xt1 xt2 xn immediate =>
      "LDP " ++ xt1.spelling ++ ", " ++ xt2.spelling ++ ", [" ++ xn.spelling ++ "], #" ++
        toString immediate
  | stpPre xt1 xt2 xn immediate =>
      "STP " ++ xt1.spelling ++ ", " ++ xt2.spelling ++ ", [" ++ xn.spelling ++ ", #" ++
        toString immediate ++ "]!"

end Assembly

/-- A word and its text. -/
structure Encoded where
  encoding : BitVec 32
  assembly : Assembly
  assemblyText : String := assembly.text

/-! ## The encoders -/

/-- The value of a register number. -/
def fieldOf (number : Fin 32) : BitVec 32 := BitVec.ofNat 32 number.val

/-- A base word with the size flag. -/
def withSize (base : BitVec 32) (is64bit : Bool) : BitVec 32 :=
  if is64bit then patch base 1#32 sf else base

/-- The word of `create_sub_imm` and `create_cmp_imm`. -/
def arithmeticWord (base : BitVec 32) (is64bit : Bool) (immediate : Int) (rnNum rdNum : Fin 32) :
    BitVec 32 :=
  let patcher := withSize base is64bit
  let patcher := patch patcher (BitVec.ofInt 32 immediate) imm12
  let patcher := patch patcher (fieldOf rnNum) rn
  patch patcher (fieldOf rdNum) rd

/-- The word of `create_add_imm`, which patches the source register twice. -/
def addWord (is64bit : Bool) (immediate : Int) (rnNum rdNum : Fin 32) : BitVec 32 :=
  let patcher := withSize 0x11000000#32 is64bit
  let patcher := patch patcher (BitVec.ofInt 32 immediate) imm12
  let patcher := patch patcher (fieldOf rnNum) rn
  let patcher := patch patcher (fieldOf rnNum) rn
  patch patcher (fieldOf rdNum) rd

/-- `Encoder::create_add_imm`. -/
def createAddImm (xd xn : RegisterName) (immediate : Int) : Option Encoded := do
  if immediate < 0 ∨ immediate > 4095 then none
  let (rdNum, rdIs64) <- parseRegister xd
  let (rnNum, rnIs64) <- parseRegister xn
  if rdIs64 ≠ rnIs64 then none
  some
    { encoding := addWord rdIs64 immediate rnNum rdNum
      assembly := .add xd xn immediate }

/-- `Encoder::create_sub_imm`. -/
def createSubImm (xd xn : RegisterName) (immediate : Int) : Option Encoded := do
  if immediate < 0 ∨ immediate > 4095 then none
  let (rdNum, rdIs64) <- parseRegister xd
  let (rnNum, rnIs64) <- parseRegister xn
  if rdIs64 ≠ rnIs64 then none
  some
    { encoding := arithmeticWord 0x51000000#32 rdIs64 immediate rnNum rdNum
      assembly := .sub xd xn immediate }

/-- `Encoder::create_cmp_imm`. -/
def createCmpImm (xn : RegisterName) (immediate : Int) : Option Encoded := do
  if immediate < 0 ∨ immediate > 4095 then none
  let (rnNum, rnIs64) <- parseComparedRegister xn
  some
    { encoding := arithmeticWord 0x71000000#32 rnIs64 immediate rnNum 31
      assembly := .cmp xn immediate }

/-- The word of `create_mov_reg`. -/
def moveWord (is64bit : Bool) (rdNum rnNum : Fin 32) : BitVec 32 :=
  let patcher := withSize 0x2A000000#32 is64bit
  let patcher := patch patcher (fieldOf rdNum) rd
  let patcher := patch patcher (fieldOf rnNum) rm
  patch patcher (fieldOf 31) rn

/-- `Encoder::create_mov_reg`. -/
def createMovReg (xd xn : RegisterName) : Option Encoded := do
  let (rdNum, rdIs64) <- parseRegister xd
  let (rnNum, rnIs64) <- parseRegister xn
  if rdIs64 ≠ rnIs64 then none
  some
    { encoding := moveWord rdIs64 rdNum rnNum
      assembly := .mov xd xn }

/-- The register of a wide move: not under a name of the stack pointer. -/
def parseMovedRegister : RegisterName -> Option (Fin 32 × Bool)
  | .sp => none
  | .wsp => none
  | name => parseRegister name

/-- The word of `create_movz_imm` and `create_movk_imm`. -/
def moveWideWord (base : BitVec 32) (is64bit : Bool) (shift : Nat) (immediate : BitVec 16)
    (rdNum : Fin 32) : BitVec 32 :=
  let patcher := withSize base is64bit
  let patcher := patch patcher (BitVec.ofNat 32 (shift / 16)) hw
  let patcher := patch patcher (immediate.setWidth 32) imm16
  patch patcher (fieldOf rdNum) rd

/-- `create_movz_imm` and `create_movk_imm`: the checks and the word. -/
def createMoveWide (base : BitVec 32) (assembly : Assembly) (xd : RegisterName)
    (immediate : BitVec 16) (shift : Nat) : Option Encoded := do
  if shift ≠ 0 ∧ shift ≠ 16 ∧ shift ≠ 32 ∧ shift ≠ 48 then none
  let (rdNum, rdIs64) <- parseMovedRegister xd
  if rdIs64 = false ∧ (shift = 32 ∨ shift = 48) then none
  some
    { encoding := moveWideWord base rdIs64 shift immediate rdNum
      assembly := assembly }

/-- `Encoder::create_movz_imm`; the relocation that it is given is dropped. -/
def createMovzImm (xd : RegisterName) (immediate : BitVec 16) (shift : Nat) : Option Encoded :=
  createMoveWide 0x52800000#32 (.movz xd immediate shift) xd immediate shift

/-- `Encoder::create_movk_imm`; the relocation that it is given is dropped. -/
def createMovkImm (xd : RegisterName) (immediate : BitVec 16) (shift : Nat) : Option Encoded :=
  createMoveWide 0x72800000#32 (.movk xd immediate shift) xd immediate shift

/-- The size of an access in bytes. -/
def accessScale (is64bit : Bool) : Int := if is64bit then 8 else 4

/-- The largest offset of a load or a store. -/
def maxOffset (is64bit : Bool) : Int := if is64bit then 32760 else 16380

/-- The word of `create_ldr_imm`. -/
def ldrWord (is64bit : Bool) (immediate : Int) (rnNum rtNum : Fin 32) : BitVec 32 :=
  (if is64bit then 0xF9400000#32 else 0xB9400000#32) |||
    BitVec.ofInt 32 (immediate.tdiv (accessScale is64bit)) <<< 10 ||| fieldOf rnNum <<< 5 |||
    fieldOf rtNum

/-- `Encoder::create_ldr_imm`. -/
def createLdrImm (xt xn : RegisterName) (immediate : Int) (variableName : String) :
    Option Encoded := do
  let (rtNum, rtIs64) <- parseRegister xt
  let (rnNum, rnIs64) <- parseRegister xn
  if rnIs64 = false then none
  if immediate.tmod (accessScale rtIs64) ≠ 0 ∨ immediate < 0 ∨ immediate > maxOffset rtIs64 then
    none
  some
    { encoding := ldrWord rtIs64 immediate rnNum rtNum
      assembly := .ldr xt xn immediate
      assemblyText := withVariableName (Assembly.ldr xt xn immediate).text variableName }

/-- The word of the other loads and stores. -/
def accessWord (base immediate : BitVec 32) (rnNum rtNum : Fin 32) : BitVec 32 :=
  let patcher := patch base immediate imm12
  let patcher := patch patcher (fieldOf rnNum) rn
  patch patcher (fieldOf rtNum) rd

/-- `Encoder::create_str_imm`. -/
def createStrImm (xt xn : RegisterName) (immediate : Int) (variableName : String) :
    Option Encoded := do
  let (rtNum, rtIs64) <- parseRegister xt
  let (rnNum, rnIs64) <- parseRegister xn
  if rnIs64 = false then none
  if immediate < 0 ∨ immediate > maxOffset rtIs64 ∨ immediate.tmod (accessScale rtIs64) ≠ 0 then
    none
  some
    { encoding := accessWord (if rtIs64 then 0xF9000000#32 else 0xB9000000#32)
        (BitVec.ofInt 32 (immediate.tdiv (accessScale rtIs64))) rnNum rtNum
      assembly := .str xt xn immediate
      assemblyText := withVariableName (Assembly.str xt xn immediate).text variableName }

/-- `Encoder::create_ldr_word_imm`. -/
def createLdrWordImm (wt xn : RegisterName) (immediate : Int) : Option Encoded := do
  if immediate < 0 ∨ immediate > 4095 then none
  let (rtNum, rtIs64) <- parseRegister wt
  let (rnNum, rnIs64) <- parseRegister xn
  if rnIs64 = false then none
  if rtIs64 = true then none
  some
    { encoding := accessWord 0xB9400000#32 (BitVec.ofInt 32 immediate) rnNum rtNum
      assembly := .ldr wt xn immediate }

/-- `Encoder::create_str_word_imm`, which has no checks of its own. -/
def createStrWordImm (wt xn : RegisterName) (immediate : Int) : Option Encoded := do
  let rnNum <- getRegEncoding xn
  let rtNum <- getRegEncoding wt
  some
    { encoding := accessWord 0xB9000000#32 (BitVec.ofInt 32 immediate &&& 0xFFF#32) rnNum rtNum
      assembly := .strWord wt xn immediate }

/-- The smallest offset of a pair. -/
def minPairOffset (is64bit : Bool) : Int := if is64bit then -512 else -256

/-- The largest offset of a pair. -/
def maxPairOffset (is64bit : Bool) : Int := if is64bit then 504 else 252

/-- The word of `create_ldp_post_imm`; the division is one of unsigned numbers. -/
def ldpPostWord (is64bit : Bool) (immediate : Int) (rt1Num rt2Num rnNum : Fin 32) : BitVec 32 :=
  let imm7 := BitVec.ofInt 32 immediate / BitVec.ofInt 32 (accessScale is64bit) &&& 0x7F#32
  (if is64bit then 0xA8400000#32 else 0x28400000#32) ||| imm7 <<< 15 ||| fieldOf rt2Num <<< 10 |||
    fieldOf rnNum <<< 5 ||| fieldOf rt1Num

/-- `Encoder::create_ldp_post_imm`. -/
def createLdpPostImm (xt1 xt2 xn : RegisterName) (immediate : Int) : Option Encoded := do
  let (rt1Num, rt1Is64) <- parseRegister xt1
  let (rt2Num, rt2Is64) <- parseRegister xt2
  let (rnNum, rnIs64) <- parseRegister xn
  if rt1Is64 ≠ rt2Is64 then none
  if rnIs64 = false then none
  if immediate.tmod (accessScale rt1Is64) ≠ 0 ∨ immediate < minPairOffset rt1Is64 ∨
      immediate > maxPairOffset rt1Is64 then none
  some
    { encoding := ldpPostWord rt1Is64 immediate rt1Num rt2Num rnNum
      assembly := .ldpPost xt1 xt2 xn immediate }

/-- The word of `create_stp_pre_imm`. -/
def stpPreWord (is64bit : Bool) (immediate : Int) (rt1Num rt2Num rnNum : Fin 32) : BitVec 32 :=
  let imm7Value := BitVec.ofInt 32 (immediate.tdiv (accessScale is64bit)) &&& 0x7F#32
  let patcher := if is64bit then 0xA9800000#32 else 0x29800000#32
  let patcher := patch patcher imm7Value imm7
  let patcher := patch patcher (fieldOf rt2Num) rt2
  let patcher := patch patcher (fieldOf rnNum) rn
  patch patcher (fieldOf rt1Num) rd

/-- `Encoder::create_stp_pre_imm`. -/
def createStpPreImm (xt1 xt2 xn : RegisterName) (immediate : Int) : Option Encoded := do
  let (rt1Num, rt1Is64) <- parseRegister xt1
  let (rt2Num, rt2Is64) <- parseRegister xt2
  let (rnNum, rnIs64) <- parseRegister xn
  if rt1Is64 ≠ rt2Is64 then none
  if rnIs64 = false then none
  if immediate < minPairOffset rt1Is64 ∨ immediate > maxPairOffset rt1Is64 ∨
      immediate.tmod (accessScale rt1Is64) ≠ 0 then none
  some
    { encoding := stpPreWord rt1Is64 immediate rt1Num rt2Num rnNum
      assembly := .stpPre xt1 xt2 xn immediate }

/-! ## What the text denotes -/

/-- The register that a name names, and whether it has 64 bits. `x31` and `w31` are taken for
the zero register. -/
def registerOf : RegisterName -> Option (Reg × Bool)
  | .x number => (numbered number).map fun reg => (reg, true)
  | .w number => (numbered number).map fun reg => (reg, false)
  | .xzr => some (.zero, true)
  | .wzr => some (.zero, false)
  | .sp => some (.stackPointer, true)
  | .wsp => some (.stackPointer, false)
  | .d _ => none
  | .v _ => none
where
  numbered (number : Nat) : Option Reg :=
    if below : number < 31 then some (.general ⟨number, below⟩)
    else if number = 31 then some .zero
    else none

/-- The register that a load or a store moves. -/
def dataRegister (name : RegisterName) : Option (Reg × Bool) :=
  match registerOf name with
  | some (.stackPointer, _) => none
  | other => other

/-- The base of a load or a store. -/
def baseRegister (name : RegisterName) : Option Reg :=
  match registerOf name with
  | some (.general number, true) => some (.general number)
  | some (.stackPointer, true) => some .stackPointer
  | _ => none

namespace Assembly

/-- Two registers of the same size. -/
def sameSize (first second : RegisterName) : Option (Bool × Reg × Reg) := do
  let (firstReg, wide) <- registerOf first
  let (secondReg, secondWide) <- registerOf second
  if wide = secondWide then some (wide, firstReg, secondReg) else none

/-- The operation that the text denotes. `MOV` with the stack pointer is an addition of zero,
another one an `ORR` with the zero register; `CMP` is a subtraction. -/
def denotes : Assembly -> Option Operation
  | add xd xn immediate => do
      let (wide, target, source) <- sameSize xd xn
      some (.add false wide target source immediate)
  | sub xd xn immediate => do
      let (wide, target, source) <- sameSize xd xn
      some (.sub false wide target source immediate)
  | mov xd xn => do
      let (wide, target, source) <- sameSize xd xn
      if target = .stackPointer ∨ source = .stackPointer then
        some (.add false wide target source 0)
      else some (.orr wide target .zero source)
  | cmp xn immediate => do
      let (source, wide) <- registerOf xn
      some (.sub true wide .zero source immediate)
  | movz xd immediate shift => do
      let (target, wide) <- dataRegister xd
      some (.movz wide target immediate (BitVec.ofNat 2 (shift / 16)))
  | movk xd immediate shift => do
      let (target, wide) <- dataRegister xd
      some (.movk wide target immediate (BitVec.ofNat 2 (shift / 16)))
  | ldr xt xn immediate => do
      let (data, wide) <- dataRegister xt
      let base <- baseRegister xn
      some (.ldr wide data base immediate)
  | str xt xn immediate | strWord xt xn immediate => do
      let (data, wide) <- dataRegister xt
      let base <- baseRegister xn
      some (.str wide data base immediate)
  | ldpPost xt1 xt2 xn immediate => do
      let (first, wide) <- dataRegister xt1
      let (second, secondWide) <- dataRegister xt2
      let base <- baseRegister xn
      if wide ≠ secondWide then none
      some (.ldpPost wide first second base immediate)
  | stpPre xt1 xt2 xn immediate => do
      let (first, wide) <- dataRegister xt1
      let (second, secondWide) <- dataRegister xt2
      let base <- baseRegister xn
      if wide ≠ secondWide then none
      some (.stpPre wide first second base immediate)

end Assembly

/-- The word does what its text says. -/
def Encoded.Faithful (encoded : Encoded) : Prop :=
  exists operation, encoded.assembly.denotes = some operation ∧
    decode encoded.encoding = some operation

end Encoding
end NewBcpl
