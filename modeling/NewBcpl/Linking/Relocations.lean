import NewBcpl.Linking.Linker
import NewBcpl.Encoding.Decoder

namespace NewBcpl
namespace Linking

open Encoding
open Foundations.BitFields

/-!
# The second pass of the linker

`Linker::performRelocations` over the entries of a stream that have their addresses, and what
the processor reads from the words that it patches. The entries have the fields that the pass
reads and writes. A difference of addresses wraps around like the 64-bit registers do.
-/

/-- `RelocationType`. -/
inductive RelocationType where
  | none
  | pcRelative19BitOffset | pcRelative26BitOffset
  | page21BitPcRelative | add12BitUnsignedOffset
  | movzMovkImm0 | movzMovkImm16 | movzMovkImm32 | movzMovkImm48
  | absoluteAddressLo32 | absoluteAddressHi32
  | jump | label
  deriving DecidableEq, Repr

/-- `Instruction`, as far as the pass uses it. -/
structure RelocatedInstruction where
  encoding : BitVec 32
  address : Word
  relocation : RelocationType
  targetLabel : String
  relocationApplied : Bool := false
  resolvedSymbolName : String := ""
  resolvedTargetAddress : Word := 0#64
  deriving DecidableEq, Repr

/-- The addresses of `RuntimeManager`, by the names in upper case. -/
abbrev RuntimeManager : Type := String -> Option Word

/-! ## The fields -/

/-- The offset of `B` and `BL`. -/
def offset26 : PatchField 26 := ⟨0, by decide, by decide⟩

/-- The offset of `B.cond`, `CBZ` and `CBNZ`. -/
def offset19 : PatchField 19 := ⟨5, by decide, by decide⟩

/-- The low bits of the page of `ADRP`. -/
def pageLow : PatchField 2 := opc

/-- The high bits of the page of `ADRP`. -/
def pageHigh : PatchField 19 := ⟨5, by decide, by decide⟩

/-- The immediate of `ADD`. -/
def immediate12 : PatchField 12 := imm12

/-- The immediate of `MOVZ` and `MOVK`. -/
def immediate16 : PatchField 16 := imm16

/-! ## The pass -/

/-- The mask of the places in a page. -/
def pageMask : Word := 0xFFF#64

/-- `Linker::apply_pc_relative_relocation`. -/
def applyPcRelativeRelocation (instructionEncoding : BitVec 32)
    (instructionAddress targetAddress : Word) : RelocationType -> Except String (BitVec 32)
  | .pcRelative26BitOffset =>
      let offset := targetAddress - instructionAddress
      let imm26 := (offset.sdiv 4#64 &&& 0x03FFFFFF#64).setWidth 32
      .ok (patch instructionEncoding imm26 offset26)
  | .pcRelative19BitOffset =>
      let offset := targetAddress - instructionAddress
      let imm19 := (offset.sdiv 4#64 &&& 0x0007FFFF#64).setWidth 32
      .ok (patch instructionEncoding imm19 offset19)
  | .page21BitPcRelative =>
      let pcPage := instructionAddress &&& ~~~pageMask
      let targetPage := targetAddress &&& ~~~pageMask
      let pageOffset := targetPage - pcPage
      let imm21 := (pageOffset.sshiftRight 12 &&& 0x1FFFFF#64).setWidth 32
      let patched := patch instructionEncoding (imm21 &&& 0x3#32) pageLow
      .ok (patch patched (imm21.sshiftRight 2) pageHigh)
  | .add12BitUnsignedOffset =>
      let lo12 := (targetAddress &&& pageMask).setWidth 32
      .ok (patch instructionEncoding lo12 immediate12)
  | _ => .error "Unsupported PC-relative relocation type."

/-- `Linker::apply_movz_movk_relocation`. -/
def applyMovzMovkRelocation (instructionEncoding : BitVec 32) (targetAddress : Word) :
    RelocationType -> Except String (BitVec 32)
  | .movzMovkImm0 => .ok (patchSlice 0)
  | .movzMovkImm16 => .ok (patchSlice 16)
  | .movzMovkImm32 => .ok (patchSlice 32)
  | .movzMovkImm48 => .ok (patchSlice 48)
  | _ => .error "Unsupported MOVZ/MOVK relocation type."
where
  patchSlice (shift : Nat) : BitVec 32 :=
    let imm16 := (targetAddress >>> shift &&& 0xFFFF#64).setWidth 16
    patch instructionEncoding (imm16.setWidth 32) immediate16

/-- The switch over the type of the relocation. -/
def patchedEncoding (instruction : RelocatedInstruction) (targetAddress : Word) :
    Except String (BitVec 32) :=
  match instruction.relocation with
  | .pcRelative26BitOffset | .pcRelative19BitOffset | .page21BitPcRelative
  | .add12BitUnsignedOffset =>
      applyPcRelativeRelocation instruction.encoding instruction.address targetAddress
        instruction.relocation
  | .movzMovkImm0 | .movzMovkImm16 | .movzMovkImm32 | .movzMovkImm48 =>
      applyMovzMovkRelocation instruction.encoding targetAddress instruction.relocation
  | .absoluteAddressLo32 => .ok ((targetAddress &&& 0xFFFFFFFF#64).setWidth 32)
  | .absoluteAddressHi32 => .ok ((targetAddress >>> 32).setWidth 32)
  | .none | .jump | .label => .ok instruction.encoding

/-- The address of a target: that of the runtime function of the name, or of the label. -/
def targetAddress (manager : LabelManager) (runtimeManager : RuntimeManager)
    (targetLabel : String) : Option Word :=
  match runtimeManager targetLabel.toUpper with
  | some address => some address
  | none => manager targetLabel

/-- Whether the pass looks at the target of an entry. -/
def needsRelocation (instruction : RelocatedInstruction) : Bool :=
  instruction.relocation != .none && instruction.targetLabel != ""

/-- One round of the loop. -/
def relocate (manager : LabelManager) (runtimeManager : RuntimeManager)
    (instruction : RelocatedInstruction) : Except String RelocatedInstruction :=
  if needsRelocation instruction then
    match targetAddress manager runtimeManager instruction.targetLabel with
    | none => .error ("Error: Undefined label '" ++ instruction.targetLabel ++
        "' encountered during linking.")
    | some address => do
        let encoding <- patchedEncoding instruction address
        return { instruction with
          encoding := encoding
          relocationApplied := true
          resolvedSymbolName := instruction.targetLabel
          resolvedTargetAddress := address }
  else .ok instruction

/-- `Linker::performRelocations`. -/
def performRelocations (manager : LabelManager) (runtimeManager : RuntimeManager) :
    List RelocatedInstruction -> Except String (List RelocatedInstruction)
  | [] => .ok []
  | instruction :: rest => do
      let relocated <- relocate manager runtimeManager instruction
      let others <- performRelocations manager runtimeManager rest
      return relocated :: others

/-! ## What the processor reads -/

/-- The target of a branch whose offset counts words. -/
def branchTarget {length : Nat} (address : Word) (offset : BitVec length) : Word :=
  address + (offset ++ 0#2).signExtend 64

/-- What `ADRP` writes. -/
def pageAddress (address : Word) (encoding : BitVec 32) : Word :=
  (address &&& ~~~pageMask) +
    (pageHigh.read encoding ++ pageLow.read encoding ++ 0#12).signExtend 64

/-- What `ADD` adds, when its immediate is not shifted. -/
def addedImmediate (encoding : BitVec 32) : Word := (immediate12.read encoding).setWidth 64

/-- The target is read from the field, and the rest of the word is as before. -/
def ReadsTarget (instruction : RelocatedInstruction) (target : Word) (encoding : BitVec 32) :
    Prop :=
  match instruction.relocation with
  | .pcRelative26BitOffset =>
      branchTarget instruction.address (offset26.read encoding) = target ∧
        AgreeOutside encoding instruction.encoding 0 26
  | .pcRelative19BitOffset =>
      branchTarget instruction.address (offset19.read encoding) = target ∧
        AgreeOutside encoding instruction.encoding 5 19
  | .page21BitPcRelative =>
      pageAddress instruction.address encoding = target &&& ~~~pageMask ∧
        forall place, place < 32 -> (place < 5 ∨ 24 <= place) -> (place < 29 ∨ 31 <= place) ->
          encoding.getLsbD place = instruction.encoding.getLsbD place
  | .add12BitUnsignedOffset =>
      addedImmediate encoding = target &&& pageMask ∧
        AgreeOutside encoding instruction.encoding 10 12
  | .movzMovkImm0 => ReadsSlice 0
  | .movzMovkImm16 => ReadsSlice 16
  | .movzMovkImm32 => ReadsSlice 32
  | .movzMovkImm48 => ReadsSlice 48
  | .absoluteAddressLo32 => encoding = target.extractLsb' 0 32
  | .absoluteAddressHi32 => encoding = target.extractLsb' 32 32
  | .none | .jump | .label => encoding = instruction.encoding
where
  ReadsSlice (shift : Nat) : Prop :=
    immediate16.read encoding = target.extractLsb' shift 16 ∧
      AgreeOutside encoding instruction.encoding 5 16

/-- An entry is as before, or its target is read from it. -/
def Links (manager : LabelManager) (runtimeManager : RuntimeManager)
    (before after : RelocatedInstruction) : Prop :=
  if needsRelocation before then
    exists target, targetAddress manager runtimeManager before.targetLabel = some target ∧
      ReadsTarget before target after.encoding
  else after = before

/-- The instructions for one label compute its address together: `ADRP` with `ADD`, `MOVZ` with
its `MOVK`, and the two halves of a pointer. -/
structure GroupsCompute (manager : LabelManager) (runtimeManager : RuntimeManager)
    (results : List RelocatedInstruction) : Prop where
  page : forall labelName target adrp add, labelName ≠ "" ->
    targetAddress manager runtimeManager labelName = some target ->
    adrp ∈ results -> adrp.targetLabel = labelName ->
    adrp.relocation = .page21BitPcRelative ->
    add ∈ results -> add.targetLabel = labelName ->
    add.relocation = .add12BitUnsignedOffset ->
      pageAddress adrp.address adrp.encoding + addedImmediate add.encoding = target
  moves : forall labelName target first second third fourth, labelName ≠ "" ->
    targetAddress manager runtimeManager labelName = some target ->
    first ∈ results -> first.targetLabel = labelName -> first.relocation = .movzMovkImm0 ->
    second ∈ results -> second.targetLabel = labelName -> second.relocation = .movzMovkImm16 ->
    third ∈ results -> third.targetLabel = labelName -> third.relocation = .movzMovkImm32 ->
    fourth ∈ results -> fourth.targetLabel = labelName -> fourth.relocation = .movzMovkImm48 ->
      immediate16.read fourth.encoding ++ immediate16.read third.encoding ++
        immediate16.read second.encoding ++ immediate16.read first.encoding = target
  halves : forall labelName target low high, labelName ≠ "" ->
    targetAddress manager runtimeManager labelName = some target ->
    low ∈ results -> low.targetLabel = labelName -> low.relocation = .absoluteAddressLo32 ->
    high ∈ results -> high.targetLabel = labelName -> high.relocation = .absoluteAddressHi32 ->
      high.encoding ++ low.encoding = target

/-- The offset is one that a field of some length can hold: a number of words in its range. -/
def Reaches (length : Nat) (offset : Word) : Prop :=
  offset.toInt % 4 = 0 ∧ -(2 ^ (length + 1)) <= offset.toInt ∧ offset.toInt < 2 ^ (length + 1)

/-- The field of a relocation can represent the target. -/
def Represents (type : RelocationType) (address target : Word) : Prop :=
  match type with
  | .pcRelative26BitOffset => Reaches 26 (target - address)
  | .pcRelative19BitOffset => Reaches 19 (target - address)
  | .page21BitPcRelative =>
      -(2 ^ 32) <= ((target &&& ~~~pageMask) - (address &&& ~~~pageMask)).toInt ∧
        ((target &&& ~~~pageMask) - (address &&& ~~~pageMask)).toInt < 2 ^ 32
  | _ => True

/-- An entry has no target, or one that its field cannot represent. -/
def IsRejected (manager : LabelManager) (runtimeManager : RuntimeManager)
    (instruction : RelocatedInstruction) : Prop :=
  needsRelocation instruction = true ∧
    forall target, targetAddress manager runtimeManager instruction.targetLabel = some target ->
      ¬ Represents instruction.relocation instruction.address target

/-- The pass links all entries, or it fails because one of them cannot be linked. -/
def LinksAll (manager : LabelManager) (runtimeManager : RuntimeManager)
    (instructions : List RelocatedInstruction) : Prop :=
  match performRelocations manager runtimeManager instructions with
  | .ok results =>
      List.Forall₂ (Links manager runtimeManager) instructions results ∧
        GroupsCompute manager runtimeManager results
  | .error _ =>
      exists instruction, instruction ∈ instructions ∧
        IsRejected manager runtimeManager instruction

/-- Some entry has no target, or each target is one that its field can represent. -/
def TargetsFit (manager : LabelManager) (runtimeManager : RuntimeManager)
    (instructions : List RelocatedInstruction) : Prop :=
  (exists instruction, instruction ∈ instructions ∧ needsRelocation instruction = true ∧
    targetAddress manager runtimeManager instruction.targetLabel = none) ∨
  forall instruction, instruction ∈ instructions -> needsRelocation instruction = true ->
    forall target, targetAddress manager runtimeManager instruction.targetLabel = some target ->
      Represents instruction.relocation instruction.address target

end Linking
end NewBcpl
