import NewBcpl.Linking.Linker

namespace NewBcpl
namespace Linking

open Foundations Instruction

/-!
# What the address assignment guarantees

The loop gives the entries that emit something consecutive addresses of their
segment and binds every label to the cursor of its segment, which is where the
next such entry goes. Where the read-only data starts was decided before, from a
count that leaves out all label definitions and no other entry of the code.
-/

/-- The words whose bits 25 to 28 stand for an allocated group of A64 instructions. -/
def allocatedGroup (encoding : BitVec 32) : Bool :=
  encoding.extractLsb' 25 4 != 0#4 && encoding.extractLsb' 25 4 != 1#4 &&
    encoding.extractLsb' 25 4 != 3#4

namespace Instruction

/-- The entry carries an instruction of the processor. -/
def CarriesInstruction (instruction : Instruction) : Prop :=
  instruction.opcode ≠ .directive ∧ instruction.isDataValue = false ∧
    allocatedGroup instruction.encoding = true

end Instruction

/-- The addresses of a segment in the order of the stream. -/
def segmentAddresses (segment : SegmentType) (placed : List Instruction) : List Word :=
  (placed.filter (occupies segment)).map Instruction.address

/-- The number of entries with bytes in a segment. -/
def segmentCount (segment : SegmentType) (instructions : List Instruction) : Nat :=
  instructions.countP (occupies segment)

/-- What is to hold of the addresses and labels after the pass. -/
structure AssignmentSound (stream : InstructionStream) (manager : LabelManager)
    (codeBase dataBase : Word) (placed : List Instruction) (labels : LabelManager) :
    Prop where
  consecutive : forall segment, segmentAddresses segment placed =
    (List.range (segmentCount segment stream.instructions)).map fun index =>
      segmentBase stream.instructions codeBase dataBase segment +
        BitVec.ofNat 64 (4 * index)
  distinct : forall segment, (segmentAddresses segment placed).Nodup
  apart : ByteMemory.Disjoint codeBase (4 * segmentCount .code stream.instructions)
    (segmentBase stream.instructions codeBase dataBase .rodata)
    (4 * segmentCount .rodata stream.instructions)
  kept : forall name address, manager name = some address -> labels name = some address
  bound : forall before instruction after, placed = before ++ instruction :: after ->
    instruction.isLabelDefinition = true ->
    exists address, labels instruction.targetLabel = some address ∧
      forall next,
        (instruction :: after).find? (occupies instruction.segment) = some next ->
          address = next.address
  instructions : forall instruction, instruction ∈ placed -> occupies .code instruction ->
    instruction.CarriesInstruction

/-- The names of the labels that a list of entries defines. -/
def definedNames (instructions : List Instruction) : List String :=
  (instructions.filter Instruction.isLabelDefinition).map Instruction.targetLabel

/-- The bytes up to the next page. -/
def pagePadding (codeBase : Word) (count : Nat) : Nat :=
  (4096 - (codeBase.toNat + 4 * count) % 4096) % 4096

/-- The condition on the stream: its labels are new and distinct, either there is no
read-only data or no code or the entries with bytes exceed the ones that were
counted by at most the gap, and no entry of the code is anything but an instruction. -/
structure StreamFits (stream : InstructionStream) (manager : LabelManager)
    (codeBase : Word) : Prop where
  distinct : (definedNames stream.instructions).Nodup
  new : forall name, name ∈ definedNames stream.instructions -> manager name = none
  apart : segmentCount .code stream.instructions = 0 ∨
    segmentCount .rodata stream.instructions = 0 ∨
    4 * segmentCount .code stream.instructions <=
      4 * stream.instructions.countP countsAsCode + 0x4000 +
        pagePadding codeBase (stream.instructions.countP countsAsCode)
  instructions : forall instruction, instruction ∈ stream.instructions ->
    occupies .code instruction -> instruction.CarriesInstruction

section Placement

/-- The entries with their addresses. -/
def placeAll : Cursors -> List Instruction -> List Instruction
  | _, [] => []
  | cursors, instruction :: rest =>
      withAddress cursors instruction :: placeAll (advance cursors instruction) rest

variable (cursors : Cursors) (instruction : Instruction)

theorem withAddress_occupies (segment : SegmentType) :
    occupies segment (withAddress cursors instruction) = occupies segment instruction := by
  unfold withAddress
  split <;> rfl

theorem withAddress_label :
    (withAddress cursors instruction).isLabelDefinition = instruction.isLabelDefinition ∧
      (withAddress cursors instruction).targetLabel = instruction.targetLabel ∧
      (withAddress cursors instruction).segment = instruction.segment := by
  unfold withAddress
  split <;> exact ⟨rfl, rfl, rfl⟩

theorem withAddress_carries :
    (withAddress cursors instruction).CarriesInstruction <->
      instruction.CarriesInstruction := by
  unfold withAddress
  split <;> exact Iff.rfl

theorem withAddress_address {segment : SegmentType}
    (inSegment : occupies segment instruction = true) :
    (withAddress cursors instruction).address = cursors segment := by
  unfold occupies at inSegment
  rw [Bool.and_eq_true, beq_iff_eq] at inSegment
  unfold withAddress
  rw [if_pos inSegment.1, inSegment.2]

theorem advance_occupies {segment : SegmentType}
    (inSegment : occupies segment instruction = true) :
    advance cursors instruction segment = cursors segment + 4#64 := by
  unfold occupies at inSegment
  rw [Bool.and_eq_true, beq_iff_eq] at inSegment
  unfold advance
  rw [if_pos inSegment.1, inSegment.2, Function.update_self]

theorem advance_skips {segment : SegmentType}
    (skips : occupies segment instruction = false) :
    advance cursors instruction segment = cursors segment := by
  unfold occupies at skips
  unfold advance
  split
  · rename_i emits
    rw [emits, Bool.true_and, beq_eq_false_iff_ne] at skips
    rw [Function.update_of_ne (Ne.symm skips)]
  · rfl

/-- The addresses of a segment start at its cursor. -/
theorem placeAll_addresses (segment : SegmentType) (instructions : List Instruction) :
    segmentAddresses segment (placeAll cursors instructions) =
      (List.range (segmentCount segment instructions)).map fun index =>
        cursors segment + BitVec.ofNat 64 (4 * index) := by
  induction instructions generalizing cursors with
  | nil => rfl
  | cons instruction rest ih =>
      have later := ih (advance cursors instruction)
      unfold segmentAddresses segmentCount at later ⊢
      rw [placeAll, List.filter_cons, withAddress_occupies, List.countP_cons]
      cases inSegment : occupies segment instruction with
      | true =>
          rw [if_pos rfl, if_pos rfl, List.map_cons, later, List.range_succ_eq_map,
            List.map_cons, List.map_map, withAddress_address cursors instruction inSegment,
            advance_occupies cursors instruction inSegment]
          congr 1
          · rw [Nat.mul_zero, BitVec.add_zero]
          · apply List.map_congr_left
            intro index _
            rw [Function.comp_apply, Nat.mul_succ, Nat.add_comm, BitVec.ofNat_add,
              BitVec.add_assoc]
      | false =>
          rw [if_neg Bool.false_ne_true, if_neg Bool.false_ne_true, later,
            advance_skips cursors instruction inSegment, Nat.add_zero]

/-- The next entry of a segment goes where its cursor is. -/
theorem placeAll_next {segment : SegmentType} {instructions : List Instruction}
    {next : Instruction}
    (found : (placeAll cursors instructions).find? (occupies segment) = some next) :
    next.address = cursors segment := by
  induction instructions generalizing cursors with
  | nil => cases found
  | cons instruction rest ih =>
      rw [placeAll, List.find?_cons, withAddress_occupies] at found
      cases inSegment : occupies segment instruction with
      | true =>
          rw [inSegment] at found
          cases found
          exact withAddress_address cursors instruction inSegment
      | false =>
          rw [inSegment] at found
          rw [ih _ found, advance_skips cursors instruction inSegment]

end Placement

section Labels

variable {cursors : Cursors} {manager labels : LabelManager}

theorem assignFrom_cons {instruction : Instruction} {rest placed : List Instruction}
    (assigns : assignFrom cursors manager (instruction :: rest) = some (placed, labels)) :
    exists middle later, resolveLabel cursors manager instruction = some middle ∧
      assignFrom (advance cursors instruction) middle rest = some (later, labels) ∧
      placed = withAddress cursors instruction :: later := by
  simp only [assignFrom, Option.bind_eq_bind, Option.bind_eq_some_iff, Option.pure_def,
    Option.some.injEq, Prod.mk.injEq, Prod.exists] at assigns
  rcases assigns with ⟨middle, resolves, later, last, assigns, equal, rfl⟩
  exact ⟨middle, later, resolves, assigns, equal.symm⟩

/-- A label that is defined stays where it is. -/
theorem resolveLabel_keeps {middle : LabelManager} {instruction : Instruction}
    (resolves : resolveLabel cursors manager instruction = some middle)
    {name : String} {address : Word} (defined : manager name = some address) :
    middle name = some address := by
  unfold resolveLabel at resolves
  split at resolves
  · unfold LabelManager.defineLabel at resolves
    split at resolves
    · cases resolves
    · rename_i new
      cases resolves
      have different : name ≠ instruction.targetLabel := by
        intro same
        rw [<- same, defined] at new
        exact new rfl
      rw [Function.update_of_ne different]
      exact defined
  · cases resolves
    exact defined

theorem assignFrom_keeps {instructions placed : List Instruction}
    (assigns : assignFrom cursors manager instructions = some (placed, labels))
    {name : String} {address : Word} (defined : manager name = some address) :
    labels name = some address := by
  induction instructions generalizing cursors manager placed with
  | nil =>
      cases assigns
      exact defined
  | cons instruction rest ih =>
      rcases assignFrom_cons assigns with ⟨middle, later, resolves, assigns, _⟩
      exact ih assigns (resolveLabel_keeps resolves defined)

/-- The loop places the entries whatever labels there are. -/
theorem assignFrom_placed {instructions placed : List Instruction}
    (assigns : assignFrom cursors manager instructions = some (placed, labels)) :
    placed = placeAll cursors instructions := by
  induction instructions generalizing cursors manager placed with
  | nil =>
      cases assigns
      rfl
  | cons instruction rest ih =>
      rcases assignFrom_cons assigns with ⟨middle, later, _, assigns, equal⟩
      rw [equal, ih assigns]
      rfl

/-- A label is bound to the address of the next entry of its segment. -/
theorem assignFrom_bound {instructions placed : List Instruction}
    (assigns : assignFrom cursors manager instructions = some (placed, labels))
    {before after : List Instruction} {instruction : Instruction}
    (split : placed = before ++ instruction :: after)
    (isLabel : instruction.isLabelDefinition = true) :
    exists address, labels instruction.targetLabel = some address ∧
      forall next, (instruction :: after).find? (occupies instruction.segment) = some next ->
        address = next.address := by
  induction instructions generalizing cursors manager placed before with
  | nil =>
      cases assigns
      simp at split
  | cons first rest ih =>
      have whole := assignFrom_placed assigns
      rcases assignFrom_cons assigns with ⟨middle, later, resolves, assigns, equal⟩
      cases before with
      | nil =>
          rw [List.nil_append, whole] at split
          rw [placeAll, List.cons.injEq] at split
          have parts := withAddress_label cursors first
          rw [split.1] at parts
          unfold resolveLabel at resolves
          rw [if_pos (parts.1 ▸ isLabel)] at resolves
          unfold LabelManager.defineLabel at resolves
          split at resolves
          · cases resolves
          · cases resolves
            refine ⟨cursors first.segment, ?_, ?_⟩
            · apply assignFrom_keeps assigns
              rw [parts.2.1, Function.update_self]
            · intro next found
              rw [<- split.1, <- split.2] at found
              rw [split.1, parts.2.2] at found
              rw [<- split.1] at found
              exact (@placeAll_next cursors _ (first :: rest) _ found).symm
      | cons head before =>
          rw [equal, List.cons_append, List.cons.injEq] at split
          exact ih assigns split.2

theorem definedNames_cons (instruction : Instruction) (rest : List Instruction) :
    definedNames (instruction :: rest) =
      if instruction.isLabelDefinition then instruction.targetLabel :: definedNames rest
      else definedNames rest := by
  unfold definedNames
  rw [List.filter_cons]
  split <;> rfl

/-- The loop succeeds exactly when no label is defined twice. -/
theorem assignFrom_succeeds (cursors : Cursors) (manager : LabelManager)
    (instructions : List Instruction) :
    (exists placed labels, assignFrom cursors manager instructions = some (placed, labels)) <->
      (definedNames instructions).Nodup ∧
        forall name, name ∈ definedNames instructions -> manager name = none := by
  induction instructions generalizing cursors manager with
  | nil => exact ⟨fun _ => ⟨List.nodup_nil, fun _ member => nomatch member⟩,
      fun _ => ⟨[], manager, rfl⟩⟩
  | cons instruction rest ih =>
      have next (middle : LabelManager)
          (resolves : resolveLabel cursors manager instruction = some middle) :
          (exists placed labels,
            assignFrom cursors manager (instruction :: rest) = some (placed, labels)) <->
          exists placed labels,
            assignFrom (advance cursors instruction) middle rest = some (placed, labels) := by
        constructor
        · rintro ⟨placed, labels, assigns⟩
          rcases assignFrom_cons assigns with ⟨other, later, otherResolves, assigns, _⟩
          rw [resolves, Option.some.injEq] at otherResolves
          exact ⟨later, labels, otherResolves ▸ assigns⟩
        · rintro ⟨placed, labels, assigns⟩
          refine ⟨withAddress cursors instruction :: placed, labels, ?_⟩
          simp only [assignFrom, resolves, assigns, Option.bind_eq_bind, Option.bind_some,
            Option.pure_def]
      rw [definedNames_cons]
      cases isLabel : instruction.isLabelDefinition with
      | false =>
          have resolves : resolveLabel cursors manager instruction = some manager := by
            unfold resolveLabel
            rw [if_neg (by rw [isLabel]; exact Bool.false_ne_true)]
          rw [next manager resolves, ih, if_neg Bool.false_ne_true]
      | true =>
          rw [if_pos rfl, List.nodup_cons]
          cases defined : manager instruction.targetLabel with
          | some address =>
              have fails : resolveLabel cursors manager instruction = none := by
                simp [resolveLabel, isLabel, LabelManager.defineLabel, defined]
              constructor
              · rintro ⟨placed, labels, assigns⟩
                rcases assignFrom_cons assigns with ⟨other, later, resolves, _⟩
                rw [fails] at resolves
                cases resolves
              · rintro ⟨_, new⟩
                have none := new instruction.targetLabel List.mem_cons_self
                rw [defined] at none
                cases none
          | none =>
              have resolves : resolveLabel cursors manager instruction =
                  some (Function.update manager instruction.targetLabel
                    (some (cursors instruction.segment))) := by
                simp [resolveLabel, isLabel, LabelManager.defineLabel, defined]
              rw [next _ resolves, ih]
              constructor
              · rintro ⟨nodup, new⟩
                have absent : instruction.targetLabel ∉ definedNames rest := by
                  intro member
                  have none := new _ member
                  rw [Function.update_self] at none
                  cases none
                refine ⟨⟨absent, nodup⟩, ?_⟩
                intro name member
                rcases List.mem_cons.mp member with rfl | inRest
                · exact defined
                · have none := new name inRest
                  have different : name ≠ instruction.targetLabel := by
                    rintro rfl
                    exact absent inRest
                  rw [Function.update_of_ne different] at none
                  exact none
              · rintro ⟨⟨absent, nodup⟩, new⟩
                refine ⟨nodup, ?_⟩
                intro name inRest
                have different : name ≠ instruction.targetLabel := by
                  rintro rfl
                  exact absent inRest
                rw [Function.update_of_ne different]
                exact new name (List.mem_cons_of_mem _ inRest)

end Labels

section Ranges

theorem codeSegmentSize_eq (instructions : List Instruction) :
    codeSegmentSize instructions = BitVec.ofNat 64 (4 * instructions.countP countsAsCode) := by
  have general (size : Word) : instructions.foldl
      (fun size instruction => if instruction.countsAsCode then size + 4#64 else size) size =
        size + BitVec.ofNat 64 (4 * instructions.countP countsAsCode) := by
    induction instructions generalizing size with
    | nil => rw [List.foldl_nil, List.countP_nil, Nat.mul_zero, BitVec.add_zero]
    | cons instruction rest ih =>
        rw [List.foldl_cons, List.countP_cons, ih]
        split
        · rw [Nat.mul_add, BitVec.ofNat_add, BitVec.add_assoc, Nat.mul_one,
            BitVec.add_comm 4#64]
        · rw [Nat.add_zero]
  unfold codeSegmentSize
  rw [general, BitVec.zero_add]

/-- Rounding an address up to a page. -/
theorem page_toNat (address : Word) :
    ((address + 0xFFF#64) &&& ~~~0xFFF#64).toNat =
      (address.toNat + (4096 - address.toNat % 4096) % 4096) % 2 ^ 64 := by
  have mask (value : Word) : (value &&& ~~~0xFFF#64).toNat =
      value.toNat - value.toNat % 4096 := by
    have split : value &&& ~~~0xFFF#64 = (value >>> 12) <<< 12 := by
      ext index inside
      simp only [BitVec.getElem_and, BitVec.getElem_not, BitVec.getElem_shiftLeft,
        BitVec.getElem_ushiftRight]
      have bits : (0xFFF#64)[index] = decide (index < 12) := by
        have all : forall position : Fin 64,
            (0xFFF#64).getLsbD position.val = decide (position.val < 12) := by decide
        rw [<- BitVec.getLsbD_eq_getElem inside]
        exact all ⟨index, inside⟩
      rw [bits]
      by_cases low : index < 12
      · simp [low]
      · simp only [low, decide_false, Bool.not_false, Bool.and_true]
        rw [Nat.add_sub_cancel' (by omega)]
        simp [BitVec.getLsbD_eq_getElem inside]
    rw [split, BitVec.toNat_shiftLeft, BitVec.toNat_ushiftRight, Nat.shiftRight_eq_div_pow,
      Nat.shiftLeft_eq]
    have bound := value.isLt
    omega
  rw [mask, BitVec.toNat_add]
  have bound := address.isLt
  have constant : (0xFFF#64).toNat = 4095 := rfl
  rw [constant]
  omega

variable (stream : InstructionStream) (codeBase dataBase : Word)

/-- The distance from the code to the read-only data. -/
theorem rodata_offset : ByteMemory.offset codeBase
    (segmentBase stream.instructions codeBase dataBase .rodata) =
      4 * stream.instructions.countP countsAsCode + 0x4000 +
        pagePadding codeBase (stream.instructions.countP countsAsCode) := by
  have counted : stream.instructions.countP countsAsCode <= stream.instructions.length :=
    List.countP_le_length
  have bounded := stream.bounded
  have low := codeBase.isLt
  unfold ByteMemory.offset segmentBase rodataStart pagePadding
  rw [codeSegmentSize_eq]
  generalize stream.instructions.countP countsAsCode = count at *
  rw [BitVec.toNat_sub, page_toNat, BitVec.toNat_add, BitVec.toNat_add, BitVec.toNat_ofNat,
    Nat.mod_eq_of_lt (by omega : 4 * count < 2 ^ 64)]
  have constant : (0x4000#64).toNat = 16384 := rfl
  rw [constant]
  omega

theorem segmentCount_lt (segment : SegmentType) :
    segmentCount segment stream.instructions < 2 ^ 56 :=
  Nat.lt_of_le_of_lt List.countP_le_length stream.bounded

/-- The two ranges are apart exactly when the gap holds what the count left out. -/
theorem ranges_apart_iff : ByteMemory.Disjoint codeBase
    (4 * segmentCount .code stream.instructions)
    (segmentBase stream.instructions codeBase dataBase .rodata)
    (4 * segmentCount .rodata stream.instructions) <->
      segmentCount .code stream.instructions = 0 ∨
        segmentCount .rodata stream.instructions = 0 ∨
        4 * segmentCount .code stream.instructions <=
          4 * stream.instructions.countP countsAsCode + 0x4000 +
            pagePadding codeBase (stream.instructions.countP countsAsCode) := by
  have codeBound := segmentCount_lt stream .code
  have rodataBound := segmentCount_lt stream .rodata
  have counted : stream.instructions.countP countsAsCode < 2 ^ 56 :=
    Nat.lt_of_le_of_lt List.countP_le_length stream.bounded
  have distance := rodata_offset stream codeBase dataBase
  have padding : pagePadding codeBase (stream.instructions.countP countsAsCode) < 4096 :=
    Nat.mod_lt _ (by decide)
  -- the way back from the read-only data around the address space is long enough
  have back : 4 * segmentCount .rodata stream.instructions <= ByteMemory.offset
      (segmentBase stream.instructions codeBase dataBase .rodata) codeBase := by
    generalize segmentBase stream.instructions codeBase dataBase .rodata = start at *
    unfold ByteMemory.offset at distance ⊢
    rw [BitVec.toNat_sub] at distance ⊢
    have startBound := start.isLt
    have baseBound := codeBase.isLt
    omega
  rw [ByteMemory.disjoint_iff (by omega) (by omega), distance]
  constructor
  · rintro (noCode | noData | ⟨before, _⟩)
    · exact Or.inl (by omega)
    · exact Or.inr (Or.inl (by omega))
    · exact Or.inr (Or.inr before)
  · rintro (noCode | noData | before)
    · exact Or.inl (by omega)
    · exact Or.inr (Or.inl (by omega))
    · exact Or.inr (Or.inr ⟨before, back⟩)

theorem placeAll_instructions (cursors : Cursors) (instructions : List Instruction) :
    (forall instruction, instruction ∈ placeAll cursors instructions ->
      occupies .code instruction -> instruction.CarriesInstruction) <->
      forall instruction, instruction ∈ instructions ->
        occupies .code instruction -> instruction.CarriesInstruction := by
  induction instructions generalizing cursors with
  | nil => exact Iff.rfl
  | cons first rest ih =>
      rw [placeAll, List.forall_mem_cons, List.forall_mem_cons, ih, withAddress_occupies,
        withAddress_carries]

theorem consecutive_nodup (base : Word) {count : Nat} (bounded : count < 2 ^ 56) :
    ((List.range count).map fun index => base + BitVec.ofNat 64 (4 * index)).Nodup := by
  rw [List.nodup_map_iff_inj_on List.nodup_range]
  intro first firstMember second secondMember equal
  rw [List.mem_range] at firstMember secondMember
  have same := congrArg BitVec.toNat (add_left_cancel equal)
  rw [BitVec.toNat_ofNat, BitVec.toNat_ofNat, Nat.mod_eq_of_lt (by omega),
    Nat.mod_eq_of_lt (by omega)] at same
  omega

end Ranges

/-- The pass assigns addresses and labels as it should exactly when the labels are new
and distinct, the gap holds the entries that were not counted, and the code has no
entries but instructions. -/
theorem assignment_sound_iff (stream : InstructionStream) (manager : LabelManager)
    (codeBase dataBase : Word) :
    (exists placed labels,
      assignAddressesAndResolveLabels stream manager codeBase dataBase =
        some (placed, labels) ∧
      AssignmentSound stream manager codeBase dataBase placed labels) <->
      StreamFits stream manager codeBase := by
  have succeeds := assignFrom_succeeds
    (segmentBase stream.instructions codeBase dataBase) manager stream.instructions
  constructor
  · rintro ⟨placed, labels, assigns, sound⟩
    rcases succeeds.mp ⟨placed, labels, assigns⟩ with ⟨distinct, new⟩
    refine ⟨distinct, new, (ranges_apart_iff stream codeBase dataBase).mp sound.apart, ?_⟩
    have instructions := sound.instructions
    rw [assignFrom_placed assigns] at instructions
    exact (placeAll_instructions _ _).mp instructions
  · intro fits
    rcases succeeds.mpr ⟨fits.distinct, fits.new⟩ with ⟨placed, labels, assigns⟩
    have addresses (segment : SegmentType) : segmentAddresses segment placed =
        (List.range (segmentCount segment stream.instructions)).map fun index =>
          segmentBase stream.instructions codeBase dataBase segment +
            BitVec.ofNat 64 (4 * index) := by
      rw [assignFrom_placed assigns]
      exact placeAll_addresses _ segment stream.instructions
    refine ⟨placed, labels, assigns, addresses, ?_,
      (ranges_apart_iff stream codeBase dataBase).mpr fits.apart,
      fun name address defined => assignFrom_keeps assigns defined,
      fun before instruction after split isLabel => assignFrom_bound assigns split isLabel, ?_⟩
    · intro segment
      rw [addresses]
      exact consecutive_nodup _ (segmentCount_lt stream segment)
    · rw [assignFrom_placed assigns]
      exact (placeAll_instructions _ _).mpr fits.instructions

/-- The directive that the code generator emits in the place of a label gets an address
in the code, and it is no instruction. -/
theorem assignment_unsound : ¬ forall (stream : InstructionStream) (manager : LabelManager)
    (codeBase dataBase : Word), exists placed labels,
      assignAddressesAndResolveLabels stream manager codeBase dataBase =
        some (placed, labels) ∧
      AssignmentSound stream manager codeBase dataBase placed labels := by
  intro sound
  let stream : InstructionStream :=
    { instructions := [createDirective 0#64 "" false]
      bounded := by decide }
  rcases sound stream (fun _ => none) 0x10000#64 0x80000#64 with
    ⟨placed, labels, assigns, assigned⟩
  rw [assignFrom_placed assigns] at assigned
  have carries := assigned.instructions _ List.mem_cons_self (by decide)
  exact carries.1 rfl

end Linking
end NewBcpl
