import NewBcpl.Codegen.FrameExecution

namespace NewBcpl
namespace Codegen

open Foundations Arm64 CallFrameManager

/-!
# The stack pointer after a call

An epilogue that returns does so through its normal path, which moves the stack
pointer 16 bytes above the frame pointer. The prologue has moved it down by the
whole frame, and no frame is that small, since the register of the data segment
is saved by every function. The other registers of the caller are loaded from
where the prologue stored them.
-/

section Words

/-- Registers that an instruction does not write. -/
def Spares (register : Register) : Instruction -> Prop
  | .ldr dest _ _ | .addImm dest _ _ | .subImm dest _ _ | .movz dest _ _
  | .movk dest _ _ => dest ≠ register
  | .str _ _ _ | .cmp _ _ => True
  | _ => False

theorem perform_spares {register : Register} {instruction : Instruction}
    (spares : Spares register instruction) (state : ThreadState) :
    (state.perform instruction).core.read register = state.core.read register := by
  cases instruction <;> first
    | exact Machine.read_write_other _ _ (Ne.symm spares)
    | rfl
    | exact spares.elim

theorem performAll_spares {register : Register} {instructions : List Instruction}
    (spares : forall instruction, instruction ∈ instructions -> Spares register instruction)
    (state : ThreadState) :
    (state.performAll instructions).core.read register = state.core.read register := by
  induction instructions generalizing state with
  | nil => rfl
  | cons instruction rest ih =>
      have first := perform_spares (spares instruction List.mem_cons_self) state
      exact (ih (fun other member => spares other (List.mem_cons_of_mem _ member)) _).trans first

/-- Loading a constant writes its register only. -/
theorem createMovzMovkAbs64_spares {dest register : Register} (different : dest ≠ register)
    (value : Word) {instruction : Instruction}
    (member : instruction ∈ createMovzMovkAbs64 dest value) : Spares register instruction := by
  unfold createMovzMovkAbs64 at member
  split at member
  · rw [List.mem_singleton.mp member]
    exact different
  · dsimp only at member
    split at member
    · cases member
    · rcases List.mem_cons.mp member with rfl | later
      · exact different
      · rcases List.mem_map.mp later with ⟨_, _, rfl⟩
        exact different

theorem saveInstructions_spares {offsets : List (String × Int)} {registers : List (Fin 31)}
    {stores : List PrologueInstruction}
    (saves : saveInstructions offsets registers = some stores) {instruction : Instruction}
    (member : instruction ∈ stores.flatMap PrologueInstruction.words) :
    Spares (.x 29) instruction := by
  induction registers generalizing stores with
  | nil =>
      cases saves
      cases member
  | cons register rest ih =>
      simp only [saveInstructions, Option.bind_eq_bind, Option.bind_eq_some_iff] at saves
      rcases saves with ⟨offset, _, saves⟩
      split at saves
      · rcases Option.bind_eq_some_iff.mp saves with ⟨restStores, restSaves, equal⟩
        cases equal
        rw [List.flatMap_cons, List.mem_append] at member
        rcases member with first | later
        · rw [List.mem_singleton.mp first]
          trivial
        · exact ih restSaves later
      · cases saves

/-- The prologue ends with the frame pointer at the bottom of the frame. -/
theorem runPrologue_framePointer {manager generated : CallFrameManager}
    {prologue : List PrologueInstruction}
    (generates : manager.generatePrologue = some (prologue, generated))
    (entry : ThreadState) :
    (entry.runPrologue prologue).core.read (.x 29) =
      entry.core.read .sp - BitVec.ofNat 64 manager.frameSize.toNat := by
  unfold generatePrologue at generates
  split at generates
  · cases generates
  · simp only [Option.bind_eq_bind, Option.pure_def, Option.bind_eq_some_iff,
      Option.some.injEq, Prod.mk.injEq] at generates
    rcases generates with ⟨stp, encodes, stores, saves, rfl, _⟩
    unfold createStpPreImm at encodes
    split at encodes
    · cases encodes
    · cases encodes
      have rest : forall instruction,
          instruction ∈ (manager.canaryInstructions ++ stores).flatMap
            PrologueInstruction.words -> Spares (.x 29) instruction := by
        intro instruction member
        rw [List.flatMap_append, List.mem_append] at member
        rcases member with canary | save
        · unfold canaryInstructions at canary
          split at canary
          · simp only [List.flatMap_cons, List.flatMap_nil, List.append_nil,
              List.mem_append] at canary
            rcases canary with load | store | load | store
            · exact createMovzMovkAbs64_spares (by decide) _ load
            · rw [List.mem_singleton.mp store]
              trivial
            · exact createMovzMovkAbs64_spares (by decide) _ load
            · rw [List.mem_singleton.mp store]
              trivial
          · cases canary
        · exact saveInstructions_spares saves save
      unfold ThreadState.runPrologue
      rw [List.flatMap_cons, List.flatMap_cons, ThreadState.performAll, List.foldl_append,
        List.foldl_append]
      have kept := performAll_spares rest
        (((entry.performAll (PrologueInstruction.words (.stpPre (-manager.frameSize)))).performAll
          (PrologueInstruction.words .movFpSp)))
      refine kept.trans ?_
      simp only [PrologueInstruction.words, ThreadState.performAll, ThreadState.perform,
        List.foldl_cons, List.foldl_nil, Arm64.perform, neg_neg]
      rw [Machine.read_write_same, Machine.read_store, Machine.read_store,
        Machine.read_write_same, BitVec.add_zero]
      · decide
      · decide

end Words

section Epilogues

/-- An instruction that defines no label. -/
def Unlabelled : EpilogueInstruction -> Prop
  | .label _ => False
  | _ => True

theorem find_unlabelled {before : List EpilogueInstruction}
    (unlabelled : forall instruction, instruction ∈ before -> Unlabelled instruction)
    (rest : List EpilogueInstruction) (sought : Destination) :
    LabelledRuns.find sought (epilogueProgram (before ++ rest)) =
      LabelledRuns.find sought (epilogueProgram rest) := by
  induction before with
  | nil => rfl
  | cons instruction before ih =>
      have later := ih fun other member => unlabelled other (List.mem_cons_of_mem _ member)
      have first := unlabelled instruction List.mem_cons_self
      cases instruction with
      | label name => exact first.elim
      | operation instruction => exact later
      | branchIf condition label => exact later
      | ret => exact later
      | brk immediate => exact later

theorem walk_operations (instructions : List Instruction)
    (rest : List EpilogueInstruction) (state : ThreadState) :
    LabelledRuns.walk (epilogueProgram (instructions.map .operation ++ rest)) state =
      LabelledRuns.walk (epilogueProgram rest) (state.performAll instructions) := by
  induction instructions generalizing state with
  | nil => rfl
  | cons instruction instructions ih => exact ih (state.perform instruction)

/-- The epilogue goes on in a state with the same frame pointer, or it jumps to one of
the labels of a failed check. -/
def Continues (labels : List String) (program rest : List EpilogueInstruction)
    (state : ThreadState) : Prop :=
  exists middle : ThreadState, middle.core.read (.x 29) = state.core.read (.x 29) ∧
    (LabelledRuns.walk (epilogueProgram program) state =
        LabelledRuns.walk (epilogueProgram rest) middle ∨
      exists label, label ∈ labels ∧
        LabelledRuns.walk (epilogueProgram program) state =
          .stopped (.jumped (.name label) middle))

theorem Continues.refl (labels : List String) (program : List EpilogueInstruction)
    (state : ThreadState) : Continues labels program program state :=
  ⟨state, rfl, Or.inl rfl⟩

theorem Continues.trans {labels : List String} {first second third : List EpilogueInstruction}
    {state : ThreadState} (before : Continues labels first second state)
    (after : forall middle, Continues labels second third middle) :
    Continues labels first third state := by
  rcases before with ⟨middle, kept, walks | jumps⟩
  · rcases after middle with ⟨last, restKept, restWalks⟩
    refine ⟨last, restKept.trans kept, ?_⟩
    rw [walks]
    exact restWalks
  · exact ⟨middle, kept, Or.inr jumps⟩

theorem continues_operations {labels : List String} {instructions : List Instruction}
    (spares : forall instruction, instruction ∈ instructions -> Spares (.x 29) instruction)
    (rest : List EpilogueInstruction) (state : ThreadState) :
    Continues labels (instructions.map .operation ++ rest) rest state :=
  ⟨state.performAll instructions, performAll_spares spares state,
    Or.inl (walk_operations instructions rest state)⟩

theorem continues_branch {labels : List String} {label : String} (member : label ∈ labels)
    (condition : Condition) (rest : List EpilogueInstruction) (state : ThreadState) :
    Continues labels (.branchIf condition label :: rest) rest state := by
  refine ⟨state, rfl, ?_⟩
  cases holds : condition.holds state.core.flags with
  | true =>
      refine Or.inr ⟨label, member, ?_⟩
      simp [epilogueProgram, EpilogueInstruction.item, LabelledRuns.walk, holds]
  | false =>
      refine Or.inl ?_
      simp [epilogueProgram, EpilogueInstruction.item, LabelledRuns.walk, holds]

theorem continues_canaryCheck {labels : List String} {label : String}
    (member : label ∈ labels) (offset : Int) (value : Word)
    (rest : List EpilogueInstruction) (state : ThreadState) :
    Continues labels (canaryCheck offset value label ++ rest) rest state := by
  have spares : forall instruction,
      instruction ∈ Instruction.ldr (.x 10) (.x 29) offset ::
        (createMovzMovkAbs64 (.x 11) value ++ [.cmp (.x 10) (.x 11)]) ->
      Spares (.x 29) instruction := by
    intro instruction isWord
    rcases List.mem_cons.mp isWord with rfl | later
    · exact (by decide : Register.x 10 ≠ .x 29)
    · rcases List.mem_append.mp later with load | compare
      · exact createMovzMovkAbs64_spares (by decide) _ load
      · rw [List.mem_singleton.mp compare]
        trivial
  have shape : canaryCheck offset value label ++ rest =
      (Instruction.ldr (.x 10) (.x 29) offset ::
        (createMovzMovkAbs64 (.x 11) value ++ [.cmp (.x 10) (.x 11)])).map .operation ++
        (.branchIf .ne label :: rest) := by
    simp [canaryCheck]
  rw [shape]
  apply (continues_operations spares _ state).trans
  exact fun middle => continues_branch member .ne rest middle

/-- The loads of saved registers. -/
theorem restoreInstructions_operations {offsets : List (String × Int)}
    {registers : List (Fin 31)} (general : forall register, register ∈ registers ->
      19 <= register.val ∧ register.val <= 28)
    {restores : List EpilogueInstruction}
    (generates : restoreInstructions offsets registers = some restores) :
    exists loads : List Instruction, restores = loads.map .operation ∧
      forall instruction, instruction ∈ loads -> Spares (.x 29) instruction := by
  induction registers generalizing restores with
  | nil =>
      cases generates
      exact ⟨[], rfl, fun _ member => nomatch member⟩
  | cons register rest ih =>
      simp only [restoreInstructions, Option.bind_eq_bind, Option.bind_eq_some_iff]
        at generates
      rcases generates with ⟨offset, _, generates⟩
      split at generates
      · rcases Option.bind_eq_some_iff.mp generates with ⟨later, restGenerates, equal⟩
        cases equal
        rcases ih (fun other member => general other (List.mem_cons_of_mem _ member))
          restGenerates with ⟨loads, shape, spares⟩
        refine ⟨.ldr (.x register) (.x 29) offset :: loads, ?_, ?_⟩
        · rw [shape]
          rfl
        · intro instruction member
          rcases List.mem_cons.mp member with rfl | later
          · intro same
            have range := general register List.mem_cons_self
            rw [Register.x.injEq] at same
            rw [same] at range
            exact absurd range.2 (by decide)
          · exact spares instruction later
      · cases generates

/-- The normal return path jumps to the link register with the stack pointer 16 bytes
above the frame pointer. -/
theorem walk_returnPath (rest : List EpilogueInstruction) (state : ThreadState) :
    exists address after,
      LabelledRuns.walk (epilogueProgram (returnPath ++ rest)) state =
        .stopped (.jumped (.address address) after) ∧
      after.core.read .sp = state.core.read (.x 29) + 16#64 := by
  refine ⟨_, _, rfl, ?_⟩
  simp only [ThreadState.perform, Arm64.perform]
  rw [Machine.read_write_same, Machine.read_write_other, Machine.read_write_other,
    Machine.read_write_same, BitVec.add_zero]
  · decide
  · decide
  · decide
  · decide

/-- A jump into the failure handlers ends in the breakpoint. -/
theorem failureHandlers_find {manager : CallFrameManager} {functionName : String}
    {sought : Destination} {part : LabelledRuns.Program Destination ThreadState}
    (found : LabelledRuns.find sought
      (epilogueProgram (manager.failureHandlers functionName)) = some part)
    (state : ThreadState) :
    (LabelledRuns.walk part state).stop = .jumped .breakpoint state := by
  unfold failureHandlers at found
  split at found
  · simp only [epilogueProgram, EpilogueInstruction.item, List.map_cons, List.map_nil,
      LabelledRuns.find] at found
    split at found
    · cases found
      rfl
    · split at found
      · cases found
        rfl
      · cases found
  · cases found

/-- Only names are labels. -/
theorem find_address (epilogue : List EpilogueInstruction) {sought : Destination}
    (unnamed : forall name, sought ≠ .name name) :
    LabelledRuns.find sought (epilogueProgram epilogue) = none := by
  induction epilogue with
  | nil => rfl
  | cons instruction rest ih =>
      cases instruction with
      | label name =>
          exact (if_neg fun equal => unnamed name equal.symm).trans ih
      | operation instruction => exact ih
      | branchIf condition label => exact ih
      | ret => exact ih
      | brk immediate => exact ih

end Epilogues

section Runs

/-- An epilogue that returns leaves the stack pointer 16 bytes above the frame pointer
that it starts with. -/
theorem returns_stackPointer {manager : CallFrameManager} {functionName : String}
    (general : forall register, register ∈ manager.calleeSavedRegisters ->
      19 <= register.val ∧ register.val <= 28)
    {epilogue : List EpilogueInstruction}
    (generates : manager.generateEpilogue functionName = some epilogue)
    {state after : ThreadState} {address : Word}
    (returns : Returns epilogue state address after) :
    after.core.read .sp = state.core.read (.x 29) + 16#64 := by
  unfold generateEpilogue at generates
  split at generates
  · rcases Option.bind_eq_some_iff.mp generates with ⟨restores, restoresGenerate, equal⟩
    rcases restoreInstructions_operations general restoresGenerate with
      ⟨loads, shape, spares⟩
    rw [Option.pure_def, Option.some.injEq] at equal
    let labels := [upperHandler functionName, lowerHandler functionName]
    let handlers := manager.failureHandlers functionName
    have checks (rest : List EpilogueInstruction) (middle : ThreadState) :
        Continues labels (manager.canaryChecks functionName ++ rest) rest middle := by
      unfold canaryChecks
      split
      · rw [List.append_assoc]
        apply (continues_canaryCheck List.mem_cons_self _ _ _ middle).trans
        intro last
        exact continues_canaryCheck (List.mem_cons_of_mem _ List.mem_cons_self) _ _ _ last
      · exact Continues.refl labels rest middle
    have continues : Continues labels epilogue (returnPath ++ handlers) state := by
      rw [<- equal, shape, List.append_assoc, List.append_assoc]
      exact (continues_operations spares _ state).trans fun middle => checks _ middle
    have finds (sought : Destination) : LabelledRuns.find sought (epilogueProgram epilogue) =
        LabelledRuns.find sought (epilogueProgram handlers) := by
      rw [<- equal]
      apply find_unlabelled
      intro instruction member
      rcases List.mem_append.mp member with earlier | inPath
      · rcases List.mem_append.mp earlier with restore | check
        · rw [shape] at restore
          rcases List.mem_map.mp restore with ⟨_, _, rfl⟩
          trivial
        · unfold canaryChecks canaryCheck at check
          split at check
          · simp only [List.mem_append, List.mem_cons, List.mem_map, List.not_mem_nil,
              or_false] at check
            rcases check with (rfl | ⟨_, _, rfl⟩ | rfl | rfl) |
              (rfl | ⟨_, _, rfl⟩ | rfl | rfl) <;> trivial
          · cases check
      · simp only [returnPath, List.mem_cons, List.not_mem_nil, or_false] at inPath
        rcases inPath with rfl | rfl | rfl | rfl | rfl <;> trivial
    rcases returns with ⟨fuel, stops⟩
    rcases continues with ⟨middle, kept, walks | ⟨label, member, jumps⟩⟩
    · rcases walk_returnPath handlers middle with ⟨target, last, path, pointer⟩
      rw [path] at walks
      cases fuel with
      | zero =>
          simp only [LabelledRuns.runFrom, LabelledRuns.run, walks] at stops
          cases stops
      | succ fuel =>
          simp only [LabelledRuns.runFrom, LabelledRuns.run, walks,
            LabelledRuns.Trace.stopped] at stops
          rw [find_address epilogue fun _ equal => Destination.noConfusion equal] at stops
          cases stops
          rw [pointer, kept]
    · exfalso
      cases fuel with
      | zero =>
          simp only [LabelledRuns.runFrom, LabelledRuns.run, jumps] at stops
          cases stops
      | succ fuel =>
          simp only [LabelledRuns.runFrom, LabelledRuns.run, jumps,
            LabelledRuns.Trace.stopped] at stops
          cases found : LabelledRuns.find (.name label) (epilogueProgram epilogue) with
          | none =>
              rw [found] at stops
              cases stops
          | some part =>
              rw [found] at stops
              rw [finds] at found
              have breaks := failureHandlers_find found middle
              cases fuel with
              | zero =>
                  simp only [LabelledRuns.run, LabelledRuns.Trace.behind] at stops
                  rw [breaks] at stops
                  cases stops
              | succ fuel =>
                  simp only [LabelledRuns.run, LabelledRuns.Trace.behind, breaks] at stops
                  rw [find_address epilogue fun _ equal => Destination.noConfusion equal]
                    at stops
                  cases stops
  · cases generates

theorem spillAll_saved (manager : CallFrameManager) (names : List String) :
    (manager.spillAll names).calleeSavedRegisters = manager.calleeSavedRegisters := by
  induction names generalizing manager with
  | nil => rfl
  | cons name rest ih =>
      have same : (manager.getSpillOffset name).2.calleeSavedRegisters =
          manager.calleeSavedRegisters := by
        unfold getSpillOffset
        split <;> rfl
      exact (ih _).trans same

theorem savedRegisters_range {manager : CallFrameManager} (moderate : Moderate manager)
    {register : Fin 31} (member : register ∈ manager.savedRegisters) :
    19 <= register.val ∧ register.val <= 28 := by
  unfold savedRegisters at member
  rw [List.mem_insertionSort] at member
  split at member
  · rcases markSaved_mem.mp member with earlier | rfl
    · rcases markSaved_mem.mp earlier with old | rfl
      · exact moderate.saved register old
      · decide
    · decide
  · exact moderate.saved register member

variable {function : FunctionLike} (run : FunctionRun function)

/-- On return the stack pointer is below its value on entry, by the size of the frame
except 16 bytes. -/
theorem stackPointer_after : run.after.core.read .sp =
    run.entry.core.read .sp - BitVec.ofNat 64 run.prepared.frameSize.toNat + 16#64 := by
  have moderate := (performAll_moderate
    (fun _ member => frameOperations_ordinary function member) (create_moderate function)
    run.frame).1
  have general : forall register,
      register ∈ (run.generated.spillAll run.spills).calleeSavedRegisters ->
        19 <= register.val ∧ register.val <= 28 := by
    intro register member
    rw [spillAll_saved, (generatePrologue_state run.generatesPrologue).1] at member
    exact savedRegisters_range moderate member
  rw [returns_stackPointer general run.generatesEpilogue run.returns, run.keepsFramePointer,
    runPrologue_framePointer run.generatesPrologue]

/-- No run of a function that returns gives the caller its registers back. -/
theorem calleeState_not_restored : ¬ CalleeStateRestored run := by
  intro restored
  have balanced := restored.stackPointer
  rw [stackPointer_after run] at balanced
  have low := frameSize_ge run.frame
  have high := (generatePrologue_state run.generatesPrologue).2
  rcases Int.eq_ofNat_of_zero_le (Int.le_trans (by decide) low) with ⟨size, equal⟩
  rw [equal] at low high balanced
  have small : size < 2 ^ 64 := by omega
  have numbers := congrArg BitVec.toNat balanced
  rw [BitVec.toNat_add, BitVec.toNat_sub, BitVec.toNat_ofNat] at numbers
  have bound := (run.entry.core.read .sp).isLt
  change ((2 ^ 64 - size % 2 ^ 64 + _) % 2 ^ 64 + 16) % 2 ^ 64 = _ at numbers
  omega

end Runs

/-- The function `LET F() = 1`. -/
def constantFunction : FunctionLike :=
  { name := "F"
    parameters := []
    variableTypes := []
    maxLiveVariables := 0
    accessesGlobals := false
    canariesEnabled := false }

/-- A machine with its stack below an address. -/
def stackAt (stackPointer : Word) : ThreadState :=
  { core :=
      { registers := fun register => if register = .sp then stackPointer else 0#64
        flags := { negative := false, zero := false, carry := false, overflow := false }
        memory := fun _ => 0#8
        calls := [] }
    d := fun _ => 0#64 }

/-- The stack pointer of the caller of `F` is 16 bytes lower after the call. -/
theorem calleeState_lost : ¬ forall (function : FunctionLike) (run : FunctionRun function),
    CalleeStateRestored run := by
  intro restored
  let manager := (create false true false).markSaved 28
  let prologue : List PrologueInstruction := [.stpPre (-32), .movFpSp, .storeRegister 28 16]
  let epilogue : List EpilogueInstruction :=
    .operation (.ldr (.x 28) (.x 29) 16) :: returnPath
  let bodyEnd := (stackAt 4096#64).runPrologue prologue
  let after := bodyEnd.performAll [.ldr (.x 28) (.x 29) 16, .addImm .sp (.x 29) 0,
    .ldr (.x 29) .sp 0, .ldr (.x 30) .sp 8, .addImm .sp .sp 16]
  have generates : manager.generatePrologue.map Prod.fst = some prologue := by decide +kernel
  have restores : (manager.withPrologue.spillAll []).generateEpilogue "F" = some epilogue := by
    decide +kernel
  have unbalanced : after.core.read .sp ≠ (stackAt 4096#64).core.read .sp := by decide
  rcases Option.map_eq_some_iff.mp generates with ⟨⟨_, generated⟩, generates, rfl⟩
  have state := (generatePrologue_state generates).1
  let run : FunctionRun constantFunction :=
    { prepared := manager
      prologue := prologue
      generated := generated
      spills := []
      epilogue := epilogue
      entry := stackAt 4096#64
      bodyEnd := bodyEnd
      address := after.core.read (.x 30)
      after := after
      frame := rfl
      generatesPrologue := generates
      generatesEpilogue := state ▸ restores
      keepsFramePointer := rfl
      returns := ⟨1, rfl⟩ }
  exact unbalanced (restored constantFunction run).stackPointer

end Codegen
end NewBcpl
