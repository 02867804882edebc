import NewBcpl.Peephole.MachineOperations

namespace NewBcpl
namespace Peephole

/-!
# Instructions and the encoder's constructors

An instruction record carries its word and, next to it, the fields that the
peephole patterns decide from. The constructors whose operation type a pattern
asks for are given here with their checks; a constructor that throws yields
nothing. Every other constructor sets an operation type that no pattern asks
for and leaves the branch target empty.
-/

/-- The operation types. -/
inductive OpType where
  | unknown
  | mov | movz | movk | fmov | movFpSp | movSpFp
  | add | sub | subs
  | mul | madd | fadd | fsub | fmul | fmsub | fmadd
  | div | sdiv | fdiv
  | and | orr | eor | bic
  | cmp | fcmp
  | str | ldr | ldur | ldrb | stp | ldp | strFp | ldrFp | strWord | ldrWord | ldrScaled
  | b | bl | br | blr | ret | bCond | adrp | adr
  | nop | dmb | brk | svc | directive
  | lsl | lsr | asr | ubfx | sbfx | bfi
  | cset | csetm | csinv
  | cbz | cbnz
  | scvtf | fcvtzs | fcvtms
  | fmlaVector | fmulVector | addVector | ld1Vector | faddVector | mulVector
  | fsqrt
  deriving DecidableEq, Repr

/-- The segments of a stream. -/
inductive SegmentType where
  | code | rodata | data
  deriving DecidableEq, Repr

/-- An instruction record; the word is given by what it does. -/
structure Instruction where
  operation : Operation
  assemblyText : String
  targetLabel : String := ""
  isDataValue : Bool := false
  isLabelDefinition : Bool := false
  segment : SegmentType := .code
  branchTarget : String := ""
  label : String := ""
  opcode : OpType := .unknown
  destReg : Int := -1
  srcReg1 : Int := -1
  srcReg2 : Int := -1
  baseReg : Int := -1
  immediate : Int := 0
  usesImmediate : Bool := false
  deriving DecidableEq, Repr

namespace Instruction

/-- A label definition. -/
def asLabel (labelName : String) (segment : SegmentType) : Instruction :=
  { operation := .other "", assemblyText := "", isLabelDefinition := true,
    targetLabel := labelName, segment := segment }

/-- A pointer that the linker fills in. -/
def asRelocatableData (targetLabel : String) (segment : SegmentType) : Instruction :=
  { operation := .other "", assemblyText := "", isDataValue := true,
    targetLabel := targetLabel, segment := segment }

end Instruction

/-- A register as its name is spelled, in letters of either case. -/
inductive RegisterName where
  | x (number : Nat)
  | w (number : Nat)
  | d (number : Nat)
  | v (number : Nat)
  | xzr | wzr | sp | wsp
  deriving DecidableEq, Repr

namespace RegisterName

/-- The spelling of a register name. -/
def spelling : RegisterName -> String
  | x number => "x" ++ toString number
  | w number => "w" ++ toString number
  | d number => "d" ++ toString number
  | v number => "v" ++ toString number
  | xzr => "xzr"
  | wzr => "wzr"
  | sp => "sp"
  | wsp => "wsp"

/-- Whether the spelling starts with the letter x. -/
def startsWithX : RegisterName -> Bool
  | x _ => true
  | xzr => true
  | _ => false

end RegisterName

/-- A register number that fits the five bits of its field. -/
def registerNumber (number : Nat) : Option (Fin 32) :=
  if fits : number < 32 then some ⟨number, fits⟩ else none

/-- The number of a general register, and whether it is a 64-bit register. -/
def parseRegister : RegisterName -> Option (Fin 32 × Bool)
  | .wzr => some (31, false)
  | .xzr => some (31, true)
  | .wsp => some (31, false)
  | .sp => some (31, true)
  | .w number => (registerNumber number).map fun n => (n, false)
  | .x number => (registerNumber number).map fun n => (n, true)
  | .d _ => none
  | .v _ => none

/-- Additions of registers take register 31 only under its names. -/
def parseNamedRegister : RegisterName -> Option (Fin 32 × Bool)
  | .w number => if number > 30 then none else parseRegister (.w number)
  | .x number => if number > 30 then none else parseRegister (.x number)
  | name => parseRegister name

/-- Comparisons with an immediate do not take the names of the zero register. -/
def parseComparedRegister : RegisterName -> Option (Fin 32 × Bool)
  | .wzr => none
  | .xzr => none
  | name => parseRegister name

/-- The number of any register. -/
def getRegEncoding : RegisterName -> Option (Fin 32)
  | .wzr => some 31
  | .xzr => some 31
  | .wsp => some 31
  | .sp => some 31
  | .d number => registerNumber number
  | .v number => registerNumber number
  | .w number => registerNumber number
  | .x number => registerNumber number

/-- A register number as it stands in a record. -/
def recorded (number : Fin 32) : Int := number.val

/-- A text with the name of the variable that is accessed. -/
def withVariableName (assemblyText variableName : String) : String :=
  if variableName ≠ "" ∧ ¬ variableName.toList <:+: assemblyText.toList then
    assemblyText ++ " ; " ++ variableName
  else assemblyText

/-- The text of an access with an immediate offset. -/
def accessText (mnemonic : String) (target base : RegisterName) (immediate : Int) : String :=
  mnemonic ++ target.spelling ++ ", [" ++ base.spelling ++
    (if immediate ≠ 0 then ", #" ++ toString immediate else "") ++ "]"

/-- `MOV` of a register: an `ORR` with the zero register. -/
def createMovReg (xd xn : RegisterName) : Option Instruction := do
  let (rd, rdIs64) <- parseRegister xd
  let (rn, rnIs64) <- parseRegister xn
  if rdIs64 ≠ rnIs64 then none
  else
    some
      { operation := .orr rdIs64 rd rn
        assemblyText := "MOV " ++ xd.spelling ++ ", " ++ xn.spelling
        opcode := .mov
        destReg := recorded rd
        srcReg1 := recorded rn }

/-- `MOV X29, SP`: an `ADD` of zero. -/
def createMovFpSp : Instruction :=
  { operation := .addImm true 29 31 0
    assemblyText := "MOV X29, SP"
    opcode := .mov
    destReg := 29
    srcReg1 := 31 }

/-- `MOV SP, X29`: an `ADD` of zero. -/
def createMovSpFp : Instruction :=
  { operation := .addImm true 31 29 0
    assemblyText := "MOV SP, X29"
    opcode := .mov
    destReg := 31
    srcReg1 := 29 }

/-- An addition or subtraction of an immediate. -/
def createImmediateArithmetic (mnemonic : String) (opcode : OpType)
    (operation : Bool -> Fin 32 -> Fin 32 -> Nat -> Operation)
    (xd xn : RegisterName) (immediate : Int) : Option Instruction := do
  if immediate < 0 ∨ immediate > 4095 then none
  else
    let (rd, rdIs64) <- parseRegister xd
    let (rn, rnIs64) <- parseRegister xn
    if rdIs64 ≠ rnIs64 then none
    else
      some
        { operation := operation rdIs64 rd rn immediate.toNat
          assemblyText := mnemonic ++ xd.spelling ++ ", " ++ xn.spelling ++ ", #" ++
            toString immediate
          opcode := opcode
          destReg := recorded rd
          srcReg1 := recorded rn
          immediate := immediate
          usesImmediate := true }

/-- `ADD` of an immediate. -/
def createAddImm : RegisterName -> RegisterName -> Int -> Option Instruction :=
  createImmediateArithmetic "ADD " .add .addImm

/-- `SUB` of an immediate. -/
def createSubImm : RegisterName -> RegisterName -> Int -> Option Instruction :=
  createImmediateArithmetic "SUB " .sub .subImm

/-- `ADD` of the low bits of a label's address, which the linker fills in. -/
def createAddLiteral (xd xn : RegisterName) (labelName : String) : Option Instruction := do
  let (rd, rdIs64) <- parseRegister xd
  let (rn, rnIs64) <- parseRegister xn
  if rdIs64 && rnIs64 then
    let assemblyText := "ADD " ++ xd.spelling ++ ", " ++ xn.spelling ++ ", #:lo12:" ++ labelName
    some
      { operation := .other assemblyText
        assemblyText := assemblyText
        opcode := .add
        destReg := recorded rd
        srcReg1 := recorded rn
        usesImmediate := true
        targetLabel := labelName }
  else none

/-- An addition or subtraction of registers. -/
def createRegisterArithmetic (mnemonic : String) (opcode : OpType)
    (parse : RegisterName -> Option (Fin 32 × Bool))
    (operation : String -> Bool -> Fin 32 -> Fin 32 -> Fin 32 -> Operation)
    (xd xn xm : RegisterName) : Option Instruction := do
  let (rd, rdIs64) <- parse xd
  let (rn, rnIs64) <- parse xn
  let (rm, rmIs64) <- parse xm
  if rdIs64 = rnIs64 ∧ rnIs64 = rmIs64 then
    let assemblyText := mnemonic ++ xd.spelling ++ ", " ++ xn.spelling ++ ", " ++ xm.spelling
    some
      { operation := operation assemblyText rdIs64 rd rn rm
        assemblyText := assemblyText
        opcode := opcode
        destReg := recorded rd
        srcReg1 := recorded rn
        srcReg2 := recorded rm }
  else none

/-- `ADD` of registers. -/
def createAddReg : RegisterName -> RegisterName -> RegisterName -> Option Instruction :=
  createRegisterArithmetic "ADD " .add parseNamedRegister fun _ wide rd rn rm =>
    .addShifted wide rd rn rm .lsl 0

/-- `SUB` of registers. -/
def createSubReg : RegisterName -> RegisterName -> RegisterName -> Option Instruction :=
  createRegisterArithmetic "SUB " .sub parseRegister fun assemblyText _ _ _ _ =>
    .other assemblyText

/-- The spelling of a shift. -/
def Shift.spelling : Shift -> String
  | lsl => "LSL"
  | lsr => "LSR"
  | asr => "ASR"

/-- The largest shift of a register operand. -/
def maxShift (is64bit : Bool) : Int := if is64bit then 63 else 31

/-- `ADD` of a shifted register. Its width is that of the first letter of the
names, and its immediate is the shift amount. -/
def optCreateAddShiftedReg (rd rn rm : RegisterName) (shiftType : Shift)
    (shiftAmount : Int) : Option Instruction := do
  let rdNum <- getRegEncoding rd
  let rnNum <- getRegEncoding rn
  let rmNum <- getRegEncoding rm
  let is64bit := rd.startsWithX
  if is64bit ≠ rn.startsWithX ∨ is64bit ≠ rm.startsWithX then none
  else if shiftAmount < 0 ∨ shiftAmount > maxShift is64bit then none
  else
    some
      { operation := .addShifted is64bit rdNum rnNum rmNum shiftType shiftAmount.toNat
        assemblyText := "ADD " ++ rd.spelling ++ ", " ++ rn.spelling ++ ", " ++ rm.spelling ++
          ", " ++ shiftType.spelling ++ " #" ++ toString shiftAmount
        opcode := .add
        destReg := recorded rdNum
        srcReg1 := recorded rnNum
        srcReg2 := recorded rmNum
        immediate := shiftAmount
        usesImmediate := true }

/-- `CMP` with an immediate. -/
def createCmpImm (xn : RegisterName) (immediate : Int) : Option Instruction := do
  if immediate < 0 ∨ immediate > 4095 then none
  else
    let (rn, _) <- parseComparedRegister xn
    let assemblyText := "CMP " ++ xn.spelling ++ ", #" ++ toString immediate
    some
      { operation := .other assemblyText
        assemblyText := assemblyText
        opcode := .cmp
        srcReg1 := recorded rn
        immediate := immediate
        usesImmediate := true }

/-- `CMP` of registers. -/
def createCmpReg (xn xm : RegisterName) : Option Instruction := do
  let (rn, rnIs64) <- parseRegister xn
  let (rm, rmIs64) <- parseRegister xm
  if rnIs64 ≠ rmIs64 then none
  else
    let assemblyText := "CMP " ++ xn.spelling ++ ", " ++ xm.spelling
    some
      { operation := .other assemblyText
        assemblyText := assemblyText
        opcode := .cmp
        srcReg1 := recorded rn
        srcReg2 := recorded rm }

/-- The offset of an access whose immediate must fit and be aligned. -/
def scaledOffset (wide : Bool) (immediate : Int) : Option Nat :=
  let scale : Int := accessBytes wide
  let maxOffset : Int := if wide then 32760 else 16380
  if immediate < 0 ∨ immediate > maxOffset ∨ immediate % scale ≠ 0 then none
  else some ((immediate / scale).toNat * accessBytes wide)

/-- `LDR` with an immediate offset. -/
def createLdrImm (xt xn : RegisterName) (immediate : Int) (variableName : String) :
    Option Instruction := do
  let (rt, rtIs64) <- parseRegister xt
  let (rn, rnIs64) <- parseRegister xn
  if rnIs64 = false then none
  else
    let offset <- scaledOffset rtIs64 immediate
    some
      { operation := .ldr rtIs64 rt rn (.bytes offset)
        assemblyText := withVariableName (accessText "LDR " xt xn immediate) variableName
        opcode := .ldr
        destReg := recorded rt
        baseReg := recorded rn
        immediate := immediate
        usesImmediate := true }

/-- `LDR` of 32 bits; the immediate goes into the scaled field as it is. -/
def createLdrWordImm (wt xn : RegisterName) (immediate : Int) : Option Instruction := do
  if immediate < 0 ∨ immediate > 4095 then none
  else
    let (rt, rtIs64) <- parseRegister wt
    let (rn, rnIs64) <- parseRegister xn
    if rnIs64 = false ∨ rtIs64 = true then none
    else
      some
        { operation := .ldr false rt rn (.bytes (immediate.toNat * accessBytes false))
          assemblyText := accessText "LDR " wt xn immediate
          opcode := .ldr
          destReg := recorded rt
          baseReg := recorded rn
          immediate := immediate
          usesImmediate := true }

/-- `LDR` with an index register, which is recorded as the first source. -/
def createLdrScaledReg64bit (xt xn xm : RegisterName) (shift : Int) : Option Instruction := do
  if shift ≠ 0 ∧ shift ≠ 3 then none
  else
    let (rt, rtIs64) <- parseRegister xt
    let (rn, rnIs64) <- parseRegister xn
    let (rm, rmIs64) <- parseRegister xm
    if rtIs64 && rnIs64 && rmIs64 then
      some
        { operation := .ldr true rt rn (.indexed rm (shift == 3))
          assemblyText := "LDR " ++ xt.spelling ++ ", [" ++ xn.spelling ++ ", " ++ xm.spelling ++
            (if shift > 0 then ", LSL #" ++ toString shift else "") ++ "]"
          opcode := .ldr
          destReg := recorded rt
          baseReg := recorded rn
          srcReg1 := recorded rm }
    else none

/-- `STR` with an immediate offset. -/
def createStrImm (xt xn : RegisterName) (immediate : Int) (variableName : String) :
    Option Instruction := do
  let (rt, rtIs64) <- parseRegister xt
  let (rn, rnIs64) <- parseRegister xn
  if rnIs64 = false then none
  else
    let offset <- scaledOffset rtIs64 immediate
    some
      { operation := .str rtIs64 rt rn offset
        assemblyText := withVariableName (accessText "STR " xt xn immediate) variableName
        opcode := .str
        srcReg1 := recorded rt
        baseReg := recorded rn
        immediate := immediate
        usesImmediate := true }

/-- `STR` of 32 bits; the low twelve bits of the immediate go into the scaled
field as they are, and no register or immediate is refused. -/
def createStrWordImm (wt xn : RegisterName) (immediate : Int) : Option Instruction := do
  let rt <- getRegEncoding wt
  let rn <- getRegEncoding xn
  some
    { operation := .str false rt rn ((immediate % 4096).toNat * accessBytes false)
      assemblyText := "STR " ++ wt.spelling ++ ", [" ++ xn.spelling ++ ", #" ++
        toString immediate ++ "]"
      opcode := .str
      srcReg1 := recorded rt
      baseReg := recorded rn
      immediate := immediate
      usesImmediate := true }

/-- `ADRP` of a label. -/
def createAdrp (xd : RegisterName) (labelName : String) : Option Instruction :=
  match xd with
  | .x number => do
      if number > 30 then none
      else
        let rd <- registerNumber number
        let assemblyText := "ADRP " ++ xd.spelling ++ ", " ++ labelName
        some
          { operation := .other assemblyText
            assemblyText := assemblyText
            opcode := .adrp
            destReg := recorded rd
            targetLabel := labelName }
  | _ => none

/-- `ADR` of a label. -/
def createAdr (xd : RegisterName) (labelName : String) : Option Instruction := do
  let rd <- getRegEncoding xd
  let assemblyText := "ADR " ++ xd.spelling ++ ", " ++ labelName
  some
    { operation := .other assemblyText
      assemblyText := assemblyText
      opcode := .adr
      destReg := recorded rd
      targetLabel := labelName }

/-- `B` to a label. -/
def createBranchUnconditional (labelName : String) : Instruction :=
  { operation := .other ("B " ++ labelName)
    assemblyText := "B " ++ labelName
    opcode := .b
    targetLabel := labelName }

/-- A conditional branch; the condition is one of those that have a code. -/
def createBranchConditional (upperCondition labelName : String) : Instruction :=
  { operation := .other ("B." ++ upperCondition ++ " " ++ labelName)
    assemblyText := "B." ++ upperCondition ++ " " ++ labelName
    opcode := .bCond
    targetLabel := labelName }

/-- The operation types that a pattern asks for and does not then reject. -/
def OpType.asked : OpType -> Bool
  | mov | add | sub | cmp | str | ldr | b | bCond | adrp => true
  | _ => false

/-- The instructions that the constructors produce. -/
inductive FromEncoder : Instruction -> Prop
  | movReg {i xd xn} : createMovReg xd xn = some i -> FromEncoder i
  | movFpSp : FromEncoder createMovFpSp
  | movSpFp : FromEncoder createMovSpFp
  | addImm {i xd xn immediate} : createAddImm xd xn immediate = some i -> FromEncoder i
  | subImm {i xd xn immediate} : createSubImm xd xn immediate = some i -> FromEncoder i
  | addLiteral {i xd xn name} : createAddLiteral xd xn name = some i -> FromEncoder i
  | addReg {i xd xn xm} : createAddReg xd xn xm = some i -> FromEncoder i
  | subReg {i xd xn xm} : createSubReg xd xn xm = some i -> FromEncoder i
  | addShiftedReg {i rd rn rm shift amount} :
      optCreateAddShiftedReg rd rn rm shift amount = some i -> FromEncoder i
  | cmpImm {i xn immediate} : createCmpImm xn immediate = some i -> FromEncoder i
  | cmpReg {i xn xm} : createCmpReg xn xm = some i -> FromEncoder i
  | ldrImm {i xt xn immediate name} :
      createLdrImm xt xn immediate name = some i -> FromEncoder i
  | ldrWordImm {i wt xn immediate} : createLdrWordImm wt xn immediate = some i -> FromEncoder i
  | ldrScaledReg64bit {i xt xn xm shift} :
      createLdrScaledReg64bit xt xn xm shift = some i -> FromEncoder i
  | strImm {i xt xn immediate name} :
      createStrImm xt xn immediate name = some i -> FromEncoder i
  | strWordImm {i wt xn immediate} : createStrWordImm wt xn immediate = some i -> FromEncoder i
  | adrp {i xd name} : createAdrp xd name = some i -> FromEncoder i
  | branchUnconditional (name : String) : FromEncoder (createBranchUnconditional name)
  | branchConditional (condition name : String) :
      FromEncoder (createBranchConditional condition name)
  | label (name : String) (segment : SegmentType) : FromEncoder (.asLabel name segment)
  | relocatableData (name : String) (segment : SegmentType) :
      FromEncoder (.asRelocatableData name segment)
  | unasked {i : Instruction} : i.opcode.asked = false -> i.branchTarget = "" -> FromEncoder i

end Peephole
end NewBcpl
