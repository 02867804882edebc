import NewBcpl.Peephole.RewrittenWindows

namespace NewBcpl
namespace Peephole

open Foundations

/-!
# What a pass does to a stream

A stream of instructions is a program with labels. A pass is followed from
state to state: as long as it rewrites harmless windows only, every state it
reaches holds a stream with the traces of the first one, and every rewrite
leaves less work, so that the pass ends.
-/

section Streams

/-! ## Streams as programs -/

variable {Outside : Type} (processor : Processor Outside)

/-- A label definition is a label; every other instruction executes its word. -/
def Instruction.item (i : Instruction) : LabelledRuns.Item String (Machine Outside) :=
  if i.isLabelDefinition then .label i.targetLabel else .action (perform processor i.operation)

/-- The program of a stream. -/
def program (stream : List Instruction) : LabelledRuns.Program String (Machine Outside) :=
  stream.map (Instruction.item processor)

/-- Two streams have the same registers, flags and memory at every label and at
the end, from every machine and every label, on every processor. -/
def Equivalent (first second : List Instruction) : Prop :=
  forall (Outside : Type) (processor : Processor Outside),
    LabelledRuns.Alike (program processor first) (program processor second)

theorem program_append (first second : List Instruction) :
    program processor (first ++ second) = program processor first ++ program processor second :=
  List.map_append

theorem program_window {window : List Instruction}
    (straight : forall i, i ∈ window -> i.isLabelDefinition = false) :
    program processor window =
      LabelledRuns.stretch ((meanings window).map (perform processor)) := by
  unfold program LabelledRuns.stretch meanings
  rw [List.map_map, List.map_map]
  apply List.map_congr_left
  intro i member
  simp only [Instruction.item, straight i member, Function.comp_apply]
  rfl

/-- A window may be replaced by one with the same effect. -/
theorem Equivalent.replace {before window replacements after : List Instruction}
    (same : SameEffect (meanings window) (meanings replacements))
    (straight : forall i, i ∈ window ∨ i ∈ replacements -> i.isLabelDefinition = false) :
    Equivalent (before ++ (window ++ after)) (before ++ (replacements ++ after)) := by
  intro Outside processor
  simp only [program_append]
  rw [program_window processor fun i member => straight i (Or.inl member),
    program_window processor fun i member => straight i (Or.inr member)]
  apply LabelledRuns.Alike.replace
  intro machine
  exact same Outside processor machine

end Streams

section Passes

/-! ## The states of a pass -/

/-- The states that a pass goes through. -/
inductive Reached (initial : PassState) : PassState -> Prop
  | start : Reached initial initial
  | next {state next : PassState} : Reached initial state ->
      state.pos < state.instructions.length -> round state = .finished next ->
      Reached initial next

/-- What a pass is about to rewrite. -/
def PassState.pending (state : PassState) : Option Rewrite :=
  match state.instructions[state.pos]? with
  | none => none
  | some instr => (rewriteAt state instr).join

/-- The window of a rewrite. -/
def PassState.window (state : PassState) (rewrite : Rewrite) : List Instruction :=
  (state.instructions.drop state.pos).take rewrite.length

/-- The window that is rewritten next, if any, is harmless. -/
def PassState.Harmless (state : PassState) : Prop :=
  forall rewrite, state.pending = some rewrite -> harmless (state.window rewrite) = true

/-- The instructions of a state come from the encoder's constructors. -/
def PassState.Encoded (state : PassState) : Prop :=
  forall i, i ∈ state.instructions -> FromEncoder i

/-- How much work is left from the position on. -/
def PassState.left (state : PassState) : Nat :=
  totalWeight (state.instructions.drop state.pos)

theorem totalWeight_append (first second : List Instruction) :
    totalWeight (first ++ second) = totalWeight first + totalWeight second := by
  unfold totalWeight
  rw [List.map_append, List.sum_append]

theorem firstRewrite_registered {state : PassState} (encoded : state.Encoded) :
    firstRewrite state.instructions state.pos registeredPatterns = some none ∨
      exists window rest rewrite,
        firstRewrite state.instructions state.pos registeredPatterns = some (some rewrite) ∧
        state.instructions.drop state.pos = window ++ rest ∧ rewrite.length = window.length ∧
        Window window rewrite.replacements :=
  firstRewrite_cases fun _ member matched => registered_fires encoded member matched

/-- A round moves on, or it replaces one of the windows. -/
theorem round_cases {state : PassState} (encoded : state.Encoded)
    (inside : state.pos < state.instructions.length) :
    state.pending = none ∧ round state = .finished state.advance ∨
      exists rest rewrite, state.pending = some rewrite ∧
        round state = .finished (state.replace rewrite) ∧
        state.instructions.drop state.pos = state.window rewrite ++ rest ∧
        rewrite.length = (state.window rewrite).length ∧
        Window (state.window rewrite) rewrite.replacements := by
  have here : state.instructions[state.pos]? = some state.instructions[state.pos] :=
    List.getElem?_eq_getElem inside
  have quiet : forall instr, rewriteAt state state.instructions[state.pos] = some instr ->
      state.pending = instr ∧ round state = match instr with
        | none => .finished state.advance
        | some rewrite => .finished (state.replace rewrite) := by
    intro instr result
    constructor
    · simp only [PassState.pending, here, result]
      rfl
    · simp only [round, here, result]
      cases instr <;> rfl
  unfold rewriteAt at quiet
  by_cases code : state.instructions[state.pos].segment ≠ .code
  · exact Or.inl (quiet none (if_pos code))
  by_cases special : isSpecialInstruction state.instructions[state.pos] = true
  · exact Or.inl (quiet none ((if_neg code).trans (if_pos special)))
  rw [if_neg code, if_neg special] at quiet
  rcases firstRewrite_registered encoded with none_ | ⟨window, rest, rewrite, found, split,
      length, rewritten⟩
  · exact Or.inl (quiet none none_)
  · have window_eq : state.window rewrite = window := by
      unfold PassState.window
      rw [split, length, List.take_left' rfl]
    obtain ⟨pending, rounded⟩ := quiet (some rewrite) found
    rw [<- window_eq] at split length rewritten
    exact Or.inr ⟨rest, rewrite, pending, rounded, split, length, rewritten⟩

/-- What a round does is what is pending. -/
theorem round_pending {state : PassState} (encoded : state.Encoded)
    (inside : state.pos < state.instructions.length) {pending : Option Rewrite}
    (next : state.pending = pending) :
    round state = .finished (pending.elim state.advance state.replace) := by
  rcases round_cases encoded inside with ⟨none_, advanced⟩ | ⟨_, rewrite, some_,
      replaced, _⟩
  · rw [<- next, none_]
    exact advanced
  · rw [<- next, some_]
    exact replaced

theorem iterate_inside {state next : PassState}
    (within : state.pos < state.instructions.length) (rounded : round state = .finished next)
    (fuel : Nat) :
    FueledLoop.iterate inside round (fuel + 1) state =
      FueledLoop.iterate inside round fuel next := by
  simp only [FueledLoop.iterate, FueledLoop.computing, inside, decide_eq_true within, if_true,
    FueledLoop.sequence, rounded, FueledLoop.Outcome.andThen]

theorem iterate_outside {state : PassState}
    (outside : ¬ state.pos < state.instructions.length) (fuel : Nat) :
    FueledLoop.iterate inside round fuel state = .finished state := by
  cases fuel <;> simp only [FueledLoop.iterate, FueledLoop.computing, inside,
    decide_eq_false outside, Bool.false_eq_true, if_false]

theorem drop_replaced {state : PassState} {rewrite : Rewrite} {rest : List Instruction}
    (split : state.instructions.drop state.pos = state.window rewrite ++ rest)
    (length : rewrite.length = (state.window rewrite).length) :
    state.instructions.drop (state.pos + rewrite.length) = rest := by
  rw [<- List.drop_drop, split, length, List.drop_left' rfl]

/-- The instructions before the position, the window and the rest. -/
theorem instructions_split {state : PassState} {rewrite : Rewrite} {rest : List Instruction}
    (split : state.instructions.drop state.pos = state.window rewrite ++ rest) :
    state.instructions = state.instructions.take state.pos ++ (state.window rewrite ++ rest) := by
  rw [<- split, List.take_append_drop]

/-- What every state of a pass over encoded instructions keeps. -/
structure PassState.Faithful (code : List Instruction) (state : PassState) : Prop where
  encoded : state.Encoded
  equivalent : Equivalent code state.instructions

/-- Replacing a window leaves encoded instructions. -/
theorem replace_encoded {state : PassState} (encoded : state.Encoded) {rewrite : Rewrite}
    {rest : List Instruction}
    (split : state.instructions.drop state.pos = state.window rewrite ++ rest)
    (length : rewrite.length = (state.window rewrite).length)
    (rewritten : Window (state.window rewrite) rewrite.replacements) :
    (state.replace rewrite).Encoded := by
  intro i member
  have inWindow : forall j, j ∈ state.window rewrite -> FromEncoder j :=
    fun j inside => encoded j (mem_of_drop split inside)
  simp only [PassState.replace, drop_replaced split length, List.mem_append] at member
  rcases member with before | inside | after
  · exact encoded i (List.mem_of_mem_take before)
  · exact rewritten.encoded inWindow inside
  · apply encoded
    rw [instructions_split split]
    exact List.mem_append_right _ (List.mem_append_right _ after)

/-- A round keeps the instructions encoded. -/
theorem round_encoded {state next : PassState} (encoded : state.Encoded)
    (inside : state.pos < state.instructions.length) (rounded : round state = .finished next) :
    next.Encoded := by
  rcases round_cases encoded inside with ⟨_, advanced⟩ | ⟨rest, rewrite, _, replaced, split,
      length, rewritten⟩
  · rw [advanced] at rounded
    injection rounded with equal
    exact equal ▸ encoded
  · rw [replaced] at rounded
    injection rounded with equal
    exact equal ▸ replace_encoded encoded split length rewritten

theorem Reached.encoded {initial state : PassState} (reached : Reached initial state)
    (encoded : initial.Encoded) : state.Encoded := by
  induction reached with
  | start => exact encoded
  | next _ inside rounded ih => exact round_encoded ih inside rounded

/-- A round that rewrites nothing or a harmless window keeps the traces. -/
theorem round_faithful {code : List Instruction} {state next : PassState}
    (faithful : state.Faithful code) (harmlessNext : state.Harmless)
    (inside : state.pos < state.instructions.length) (rounded : round state = .finished next) :
    next.Faithful code := by
  refine ⟨round_encoded faithful.encoded inside rounded, ?_⟩
  rcases round_cases faithful.encoded inside with ⟨_, advanced⟩ | ⟨rest, rewrite, pending,
      replaced, split, length, rewritten⟩
  · rw [advanced] at rounded
    injection rounded with equal
    exact equal ▸ faithful.equivalent
  · rw [replaced] at rounded
    injection rounded with equal
    have inWindow : forall j, j ∈ state.window rewrite -> FromEncoder j :=
      fun j member => faithful.encoded j (mem_of_drop split member)
    have same := (rewritten.harmless_iff.mp (harmlessNext rewrite pending)).1
    have straight : forall i, i ∈ state.window rewrite ∨ i ∈ rewrite.replacements ->
        i.isLabelDefinition = false := by
      intro i member
      have encoded : FromEncoder i := by
        rcases member with inner | outer
        · exact inWindow i inner
        · exact rewritten.encoded inWindow outer
      exact encoded.plain.2 (rewritten.asked member)
    have kept : Equivalent state.instructions (state.replace rewrite).instructions := by
      have swap : Equivalent
          (state.instructions.take state.pos ++ (state.window rewrite ++ rest))
          (state.instructions.take state.pos ++ (rewrite.replacements ++ rest)) :=
        Equivalent.replace same straight
      rw [<- instructions_split split] at swap
      simp only [PassState.replace, drop_replaced split length]
      exact swap
    rw [<- equal]
    intro Outside processor
    exact (faithful.equivalent Outside processor).trans (kept Outside processor)

theorem totalWeight_drop {instrs : List Instruction} {pos : Nat} (inside : pos < instrs.length) :
    totalWeight (instrs.drop (pos + 1)) < totalWeight (instrs.drop pos) := by
  have positive := weight_positive instrs[pos]
  rw [List.drop_eq_getElem_cons inside]
  simp only [totalWeight, List.map_cons, List.sum_cons]
  omega

/-- A round that rewrites nothing or a harmless window leaves less work. -/
theorem round_left {state : PassState} (encoded : state.Encoded) (harmlessNext : state.Harmless)
    (inside : state.pos < state.instructions.length) :
    exists next, round state = .finished next ∧ next.left < state.left := by
  rcases round_cases encoded inside with ⟨_, advanced⟩ | ⟨rest, rewrite, pending, replaced,
      split, length, rewritten⟩
  · exact ⟨_, advanced, totalWeight_drop inside⟩
  · refine ⟨_, replaced, ?_⟩
    have less : totalWeight rewrite.replacements < totalWeight (state.window rewrite) := by
      rcases rewritten.progress with less | ⟨_, harmful⟩
      · exact less
      · rw [harmlessNext rewrite pending] at harmful
        cases harmful
    have taken : (state.instructions.take state.pos).length = state.pos :=
      List.length_take_of_le (Nat.le_of_lt inside)
    simp only [PassState.left, PassState.replace, drop_replaced split length]
    rw [List.drop_left' taken, split, totalWeight_append, totalWeight_append]
    omega

/-- From a state whose work is bounded, a pass that meets harmless windows only
ends, with any fuel that covers the work. -/
theorem pass_ends {initial : PassState} (encoded : initial.Encoded)
    (harmlessRun : forall state, Reached initial state -> state.Harmless) (work : Nat)
    {state : PassState} (reached : Reached initial state) (bounded : state.left <= work) :
    exists final, Reached initial final ∧ forall fuel, work <= fuel ->
      FueledLoop.iterate inside round fuel state = .finished final := by
  induction work generalizing state with
  | zero =>
      refine ⟨state, reached, fun fuel _ => ?_⟩
      have outside : ¬ state.pos < state.instructions.length := by
        intro within
        have less := totalWeight_drop within
        unfold PassState.left at bounded
        omega
      exact iterate_outside outside fuel
  | succ work ih =>
      by_cases within : state.pos < state.instructions.length
      · obtain ⟨next, rounded, less⟩ :=
          round_left (reached.encoded encoded) (harmlessRun state reached) within
        obtain ⟨final, atEnd, ends⟩ := ih (reached.next within rounded) (by omega)
        refine ⟨final, atEnd, fun fuel enough => ?_⟩
        obtain ⟨rest, rfl⟩ : exists rest, fuel = rest + 1 := ⟨fuel - 1, by omega⟩
        rw [iterate_inside within rounded]
        exact ends rest (by omega)
      · exact ⟨state, reached, fun fuel _ => iterate_outside within fuel⟩

/-- Every state that a pass over harmless windows reaches holds an equivalent
stream. -/
theorem Reached.faithful {initial state : PassState} (reached : Reached initial state)
    (encoded : initial.Encoded)
    (harmlessRun : forall state, Reached initial state -> state.Harmless) :
    state.Faithful initial.instructions := by
  induction reached with
  | start => exact ⟨encoded, fun _ _ => LabelledRuns.Alike.refl _⟩
  | next before within rounded ih =>
      exact round_faithful ih (harmlessRun _ before) within rounded

end Passes

section Results

/-! ## One pass -/

/-- A store of X1 to a slot of the frame that is loaded back at once. -/
def storedSlot : Instruction :=
  { operation := .str true 1 31 8, assemblyText := "STR x1, [sp, #8]", opcode := .str,
    srcReg1 := 1, baseReg := 31, immediate := 8, usesImmediate := true }

/-- The load of the slot. -/
def loadedSlot : Instruction :=
  { operation := .ldr true 1 31 (.bytes 8), assemblyText := "LDR x1, [sp, #8]", opcode := .ldr,
    destReg := 1, baseReg := 31, immediate := 8, usesImmediate := true }

/-- Two loads from one base with different index registers. -/
def indexedLoads : List Instruction :=
  [{ operation := .ldr true 1 2 (.indexed 3 true), assemblyText := "LDR x1, [x2, x3, LSL #3]",
     opcode := .ldr, destReg := 1, baseReg := 2, srcReg1 := 3 },
    { operation := .ldr true 4 2 (.indexed 5 true), assemblyText := "LDR x4, [x2, x5, LSL #3]",
      opcode := .ldr, destReg := 4, baseReg := 2, srcReg1 := 5 }]

theorem indexedLoads_encoded (i : Instruction) (member : i ∈ indexedLoads) : FromEncoder i := by
  simp only [indexedLoads, List.mem_cons, List.not_mem_nil, or_false] at member
  rcases member with rfl | rfl
  · exact @FromEncoder.ldrScaledReg64bit _ (.x 1) (.x 2) (.x 3) 3 (by decide)
  · exact @FromEncoder.ldrScaledReg64bit _ (.x 4) (.x 2) (.x 5) 3 (by decide)

theorem slot_encoded (i : Instruction) (member : i ∈ [storedSlot, loadedSlot]) :
    FromEncoder i := by
  simp only [List.mem_cons, List.not_mem_nil, or_false] at member
  rcases member with rfl | rfl
  · exact @FromEncoder.strImm _ (.x 1) .sp 8 "" (by decide)
  · exact @FromEncoder.ldrImm _ (.x 1) .sp 8 "" (by decide)

/-- The pass over the store and its load. -/
def slotStart : PassState := .start [storedSlot, loadedSlot] 0 fun _ => 0

/-- The rewrite that removes the load. -/
def slotRewrite : Rewrite :=
  { description := "Load-after-store elimination (STR+LDR to STR)", length := 2,
    replacements := [storedSlot] }

theorem slot_reached {state : PassState} (reached : Reached slotStart state) :
    state = slotStart ∨ state = slotStart.replace slotRewrite ∨
      state = (slotStart.replace slotRewrite).advance := by
  have first : round slotStart = .finished (slotStart.replace slotRewrite) :=
    @round_pending slotStart slot_encoded (by decide) (some slotRewrite) (by decide)
  have single : (slotStart.replace slotRewrite).Encoded :=
    @round_encoded slotStart _ slot_encoded (by decide) first
  have second : round (slotStart.replace slotRewrite) =
      .finished (slotStart.replace slotRewrite).advance :=
    @round_pending _ single (by decide) none (by decide)
  induction reached with
  | start => exact Or.inl rfl
  | next _ within rounded ih =>
      rcases ih with rfl | rfl | rfl
      · rw [first] at rounded
        injection rounded with equal
        exact Or.inr (Or.inl equal.symm)
      · rw [second] at rounded
        injection rounded with equal
        exact Or.inr (Or.inr equal.symm)
      · exact absurd within (by decide)

theorem slot_harmless (state : PassState) (reached : Reached slotStart state) :
    state.Harmless := by
  intro rewrite pending
  rcases slot_reached reached with rfl | rfl | rfl
  · have only : slotStart.pending = some slotRewrite := by decide
    rw [only] at pending
    injection pending with equal
    rw [<- equal]
    decide
  · have nothing : (slotStart.replace slotRewrite).pending = none := by decide
    rw [nothing] at pending
    cases pending
  · have nothing : (slotStart.replace slotRewrite).advance.pending = none := by decide
    rw [nothing] at pending
    cases pending

/-- What the second load of the pair ends with. -/
def finalX4 (trace : LabelledRuns.Trace String (Machine Unit)) : Option (BitVec 64) :=
  match trace.stop with
  | .ended machine => some (machine.registers 4)
  | _ => none

/-- The pass over the two loads. -/
def loadsStart : PassState := .start indexedLoads 0 fun _ => 0

/-- The rewrite that makes the second load a move. -/
def loadsRewrite : Rewrite :=
  { description := "Redundant load elimination (LDR Rd, [..]; LDR Rd, [..] => LDR Rd, [..])"
    length := 2
    replacements := indexedLoads.take 1 ++ [wideMove 4 1] }

end Results

end Peephole
end NewBcpl
