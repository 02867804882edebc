import NewBcpl.Ast
import NewBcpl.Foundations.ByteMemory

namespace NewBcpl
namespace Linking

open Foundations

/-!
# The first pass of the linker

`InstructionStream` with the entries that its members add, `LabelManager`, and
`Linker::assignAddressesAndResolveLabels`. An entry has the fields that the pass
reads, the encoding and the opcode; the other fields are copied. Addresses are
the 64-bit `size_t` of the source. The pass has no result where a label is
defined twice.
-/

/-- `SegmentType`. -/
inductive SegmentType where
  | code | rodata | data
  deriving DecidableEq, Repr

/-- `InstructionDecoder::OpType`, as far as it tells directives apart. -/
inductive OpType where
  | directive | other
  deriving DecidableEq, Repr

/-- `Instruction`. -/
structure Instruction where
  encoding : BitVec 32
  assemblyText : String
  address : Word
  targetLabel : String
  isDataValue : Bool
  isLabelDefinition : Bool
  segment : SegmentType
  opcode : OpType
  deriving DecidableEq, Repr

namespace Instruction

/-- `Instruction()` with an encoding and a text. -/
def create (encoding : BitVec 32) (assemblyText : String) : Instruction :=
  { encoding := encoding
    assemblyText := assemblyText
    address := 0#64
    targetLabel := ""
    isDataValue := false
    isLabelDefinition := false
    segment := .code
    opcode := .other }

/-- `Instruction::as_label`. -/
def asLabel (labelName : String) (segment : SegmentType) : Instruction :=
  { create 0#32 "" with
    isLabelDefinition := true
    targetLabel := labelName
    segment := segment }

/-- The digits that `std::hex` prints. -/
def hex (value : Nat) : String := String.ofList (Nat.toDigits 16 value)

/-- `Encoder::create_directive`; the text of the directive is not used. -/
def createDirective (dataValue : Word) (targetLabel : String) (isData : Bool) :
    Instruction :=
  { create (dataValue.setWidth 32)
      (".quad 0x" ++ hex dataValue.toNat ++
        if targetLabel = "" then "" else " ; " ++ targetLabel) with
    targetLabel := targetLabel
    isDataValue := isData
    opcode := .directive }

/-- Whether the second pass over the stream gives the entry four bytes. -/
def emitsDataOrCode (instruction : Instruction) : Bool :=
  instruction.assemblyText != "" || instruction.isDataValue

/-- Whether the entry has four bytes in a segment. -/
def occupies (segment : SegmentType) (instruction : Instruction) : Bool :=
  instruction.emitsDataOrCode && instruction.segment == segment

/-- Whether the first pass over the stream counts four bytes of code. -/
def countsAsCode (instruction : Instruction) : Bool :=
  instruction.segment == .code && !instruction.isLabelDefinition

end Instruction

open Instruction

/-- `InstructionStream`; a vector of instructions is shorter than the bytes that
memory has. -/
structure InstructionStream where
  instructions : List Instruction
  bounded : instructions.length < 2 ^ 56

section Stream

/-- `InstructionStream::add`. -/
def add (instruction : Instruction) : List Instruction :=
  [{ instruction with address := 0#64 }]

/-- `InstructionStream::define_label`. -/
def defineLabel (labelName : String) : List Instruction := [asLabel labelName .code]

/-- `InstructionStream::add_data32`. -/
def addData32 (data : BitVec 32) (labelName : String) (segment : SegmentType) :
    List Instruction :=
  add { create data ("DCD 0x" ++ hex data.toNat) with
    isDataValue := true
    segment := segment
    targetLabel := labelName }

/-- `InstructionStream::add_data64`. -/
def addData64 (data : Word) (labelName : String) (segment : SegmentType) :
    List Instruction :=
  add { create (data.setWidth 32) (".quad 0x" ++ hex data.toNat) with
    isDataValue := true
    segment := segment
    targetLabel := labelName } ++
  add { create ((data >>> 32).setWidth 32) "; (upper half)" with
    isDataValue := true
    segment := segment }

end Stream

/-- `defined_labels_` of `LabelManager`. -/
abbrev LabelManager : Type := String -> Option Word

/-- `LabelManager::define_label`. -/
def LabelManager.defineLabel (manager : LabelManager) (labelName : String)
    (address : Word) : Option LabelManager :=
  if (manager labelName).isSome then none
  else some (Function.update manager labelName (some address))

/-- The cursors of the segments. -/
abbrev Cursors : Type := SegmentType -> Word

/-- The cursors behind an entry. -/
def advance (cursors : Cursors) (instruction : Instruction) : Cursors :=
  if instruction.emitsDataOrCode then
    Function.update cursors instruction.segment (cursors instruction.segment + 4#64)
  else cursors

/-- An entry with its address. -/
def withAddress (cursors : Cursors) (instruction : Instruction) : Instruction :=
  if instruction.emitsDataOrCode then
    { instruction with address := cursors instruction.segment }
  else instruction

/-- The label of an entry, if it defines one. -/
def resolveLabel (cursors : Cursors) (manager : LabelManager) (instruction : Instruction) :
    Option LabelManager :=
  if instruction.isLabelDefinition then
    manager.defineLabel instruction.targetLabel (cursors instruction.segment)
  else some manager

/-- The loop that assigns addresses and defines labels. -/
def assignFrom : Cursors -> LabelManager -> List Instruction ->
    Option (List Instruction × LabelManager)
  | _, manager, [] => some ([], manager)
  | cursors, manager, instruction :: rest => do
      let manager <- resolveLabel cursors manager instruction
      let (placed, manager) <- assignFrom (advance cursors instruction) manager rest
      return (withAddress cursors instruction :: placed, manager)

/-- `code_segment_size`. -/
def codeSegmentSize (instructions : List Instruction) : Word :=
  instructions.foldl
    (fun size instruction => if instruction.countsAsCode then size + 4#64 else size) 0#64

/-- The start of the read-only data. -/
def rodataStart (codeBase codeSize : Word) : Word :=
  (codeBase + codeSize + 0x4000#64 + 0xFFF#64) &&& ~~~0xFFF#64

/-- The start of each segment. -/
def segmentBase (instructions : List Instruction) (codeBase dataBase : Word) : Cursors
  | .code => codeBase
  | .rodata => rodataStart codeBase (codeSegmentSize instructions)
  | .data => dataBase

/-- `Linker::assignAddressesAndResolveLabels`. -/
def assignAddressesAndResolveLabels (stream : InstructionStream) (manager : LabelManager)
    (codeBase dataBase : Word) : Option (List Instruction × LabelManager) :=
  assignFrom (segmentBase stream.instructions codeBase dataBase) manager stream.instructions

end Linking
end NewBcpl
