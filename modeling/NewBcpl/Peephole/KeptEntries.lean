import NewBcpl.Foundations.InPlaceEdits
import NewBcpl.Peephole.PassTermination

namespace NewBcpl
namespace Peephole

open Foundations
open InPlaceEdits

/-!
# What the optimizer leaves in place

The optimizer runs passes over a copy of the stream until one changes nothing or their
number is used up. Labels, data, directives, comments and every entry with a target label
are fixed: at every moment of every pass the copy is an edit of the stream in place, which
leaves out or exchanges other instructions only.
-/

/-- A stream, with entries that the encoder and the stream itself produce. -/
structure InstructionStream where
  instructions : List Instruction
  produced : forall i, i ∈ instructions -> FromEncoder i

/-- The passes, up to a number of them; a pass that changes nothing is the last one. -/
def passes (fuel : Nat) : Nat -> FueledLoop.Command PassState
  | 0 => .finished
  | maxPasses + 1 => fun state =>
      (applyOptimizationPass fuel
        (.start state.instructions state.optimizationsApplied state.patternMatches)).andThen
        fun reached =>
          if reached.anyChanges then passes fuel maxPasses reached else .finished reached

/-- The optimizer; its statistics start empty, the fuel bounds the rounds of each pass, and
the instructions that it ends with replace those of the stream. -/
def optimize (fuel : Nat) (instructionStream : InstructionStream) (maxPasses : Int) :
    FueledLoop.Outcome PassState :=
  passes fuel maxPasses.toNat (.start instructionStream.instructions 0 fun _ => 0)

/-- Label definitions, entries of the data segments, data values, directives, comments and
entries with a target label. -/
def Instruction.fixed (i : Instruction) : Bool :=
  isSpecialInstruction i || i.segment != .code || i.opcode == .directive || i.targetLabel != ""

/-- The moves that a pattern creates. -/
def createdMove (i : Instruction) : Prop :=
  exists rd rn, i = wideMove rd rn

/-- What one list of entries keeps of another: the fixed entries in their order, and for
each of them what stands before it and what stands behind it. -/
structure KeepsEntries (before after : List Instruction) : Prop where
  fixedEntries : after.filter Instruction.fixed = before.filter Instruction.fixed
  inPlace : InPlace Instruction.fixed createdMove before after
  around : forall front entry behind, before = front ++ entry :: behind ->
    entry.fixed = true ->
      exists front' behind', after = front' ++ entry :: behind' ∧
        InPlace Instruction.fixed createdMove front front' ∧
        InPlace Instruction.fixed createdMove behind behind'

theorem KeepsEntries.of_inPlace {before after : List Instruction}
    (edit : InPlace Instruction.fixed createdMove before after) : KeepsEntries before after := by
  refine ⟨edit.filter_fixed, edit, ?_⟩
  rintro front entry behind rfl isFixed
  exact edit.around_fixed isFixed

section Loose

/-! ## Instructions that are not fixed -/

/-- The first letter of a text. -/
def Opens (letter : Char) (text : String) : Prop :=
  text.toList.head? = some letter

theorem Opens.append {letter : Char} {text : String} (opens : Opens letter text)
    (other : String) : Opens letter (text ++ other) := by
  unfold Opens at *
  rw [String.toList_append, List.head?_append, opens]
  rfl

theorem Opens.withVariableName {letter : Char} {text : String} (opens : Opens letter text)
    (name : String) : Opens letter (withVariableName text name) := by
  unfold Peephole.withVariableName
  split
  · exact (opens.append _).append _
  · exact opens

theorem Opens.accessText {letter : Char} {mnemonic : String} (opens : Opens letter mnemonic)
    (target base : RegisterName) (immediate : Int) :
    Opens letter (accessText mnemonic target base immediate) :=
  ((((opens.append _).append _).append _).append _).append _

/-- An instruction of the code segment without a target label and with a text that starts
with the letter of a mnemonic is not fixed. -/
theorem Opens.loose {i : Instruction} {letter : Char} (opens : Opens letter i.assemblyText)
    (apart : letter ≠ ';' ∧ letter ≠ '.')
    (plain : i.isLabelDefinition = false ∧ i.isDataValue = false) (code : i.segment = .code)
    (opcode : i.opcode ≠ .directive) (unlabelled : i.targetLabel = "") : i.fixed = false := by
  unfold Opens at opens
  have notDirective : (i.opcode == .directive) = false := beq_eq_false_iff_ne.mpr opcode
  cases text : i.assemblyText.toList with
  | nil =>
      rw [text] at opens
      cases opens
  | cons first letters =>
      rw [text] at opens
      injection opens with same
      simp [Instruction.fixed, isSpecialInstruction, text, same, apart.1, apart.2, plain.1,
        plain.2, code, notDirective, unlabelled]

theorem opens_mov : Opens 'M' "MOV " := rfl

theorem opens_ldr : Opens 'L' "LDR " := rfl

theorem opens_str : Opens 'S' "STR " := rfl

theorem wideMove_loose (rd rn : Fin 32) : (wideMove rd rn).fixed = false := by
  have opens : Opens 'M' (wideMove rd rn).assemblyText :=
    ((opens_mov.append _).append _).append _
  apply opens.loose
  · decide
  · exact ⟨rfl, rfl⟩
  · rfl
  · exact OpType.noConfusion
  · rfl

theorem createLdrImm_opens {xt xn : RegisterName} {immediate : Int} {name : String}
    {i : Instruction} (made : createLdrImm xt xn immediate name = some i) :
    Opens 'L' i.assemblyText := by
  simp only [createLdrImm, Option.bind_eq_bind, Option.bind_eq_some_iff] at made
  rcases made with ⟨⟨rt, wide⟩, _, ⟨rn, _⟩, _, made⟩
  split at made
  · cases made
  · rcases Option.bind_eq_some_iff.mp made with ⟨offset, _, made⟩
    injection made with equal
    rw [<- equal]
    exact (opens_ldr.accessText _ _ _).withVariableName _

theorem createStrImm_opens {xt xn : RegisterName} {immediate : Int} {name : String}
    {i : Instruction} (made : createStrImm xt xn immediate name = some i) :
    Opens 'S' i.assemblyText := by
  simp only [createStrImm, Option.bind_eq_bind, Option.bind_eq_some_iff] at made
  rcases made with ⟨⟨rt, wide⟩, _, ⟨rn, _⟩, _, made⟩
  split at made
  · cases made
  · rcases Option.bind_eq_some_iff.mp made with ⟨offset, _, made⟩
    injection made with equal
    rw [<- equal]
    exact (opens_str.accessText _ _ _).withVariableName _

theorem createLdrWordImm_opens {wt xn : RegisterName} {immediate : Int} {i : Instruction}
    (made : createLdrWordImm wt xn immediate = some i) : Opens 'L' i.assemblyText := by
  unfold createLdrWordImm at made
  split at made
  · cases made
  · simp only [Option.bind_eq_bind, Option.bind_eq_some_iff] at made
    rcases made with ⟨⟨rt, _⟩, _, ⟨rn, _⟩, _, made⟩
    split at made
    · cases made
    · injection made with equal
      rw [<- equal]
      exact opens_ldr.accessText _ _ _

theorem createLdrScaledReg64bit_opens {xt xn xm : RegisterName} {shift : Int} {i : Instruction}
    (made : createLdrScaledReg64bit xt xn xm shift = some i) : Opens 'L' i.assemblyText := by
  unfold createLdrScaledReg64bit at made
  split at made
  · cases made
  · simp only [Option.bind_eq_bind, Option.bind_eq_some_iff] at made
    rcases made with ⟨⟨rt, _⟩, _, ⟨rn, _⟩, _, ⟨rm, _⟩, _, made⟩
    split at made
    · injection made with equal
      rw [<- equal]
      exact ((((((opens_ldr.append _).append _).append _).append _).append _).append _).append _
    · cases made

theorem createStrWordImm_opens {wt xn : RegisterName} {immediate : Int} {i : Instruction}
    (made : createStrWordImm wt xn immediate = some i) : Opens 'S' i.assemblyText := by
  simp only [createStrWordImm, Option.bind_eq_bind, Option.bind_eq_some_iff] at made
  rcases made with ⟨rt, _, rn, _, made⟩
  injection made with equal
  rw [<- equal]
  exact (((((opens_str.append _).append _).append _).append _).append _).append _

/-- A load or a store is not fixed. -/
theorem FromEncoder.access_loose {i : Instruction} (encoded : FromEncoder i)
    (opcode : i.opcode = .ldr ∨ i.opcode = .str) : i.fixed = false := by
  have asked : i.opcode.asked = true := by
    rcases opcode with opcode | opcode <;> rw [opcode] <;> rfl
  cases encoded with
  | ldrImm made =>
      have opens := createLdrImm_opens made
      rcases createLdrImm_some made with ⟨_, _, _, _, _, _, rfl⟩
      exact opens.loose (by decide) ⟨rfl, rfl⟩ rfl OpType.noConfusion rfl
  | ldrWordImm made =>
      have opens := createLdrWordImm_opens made
      rcases createLdrWordImm_some made with ⟨_, _, _, _, rfl⟩
      exact opens.loose (by decide) ⟨rfl, rfl⟩ rfl OpType.noConfusion rfl
  | ldrScaledReg64bit made =>
      have opens := createLdrScaledReg64bit_opens made
      rcases createLdrScaledReg64bit_some made with ⟨_, _, _, _, _, rfl⟩
      exact opens.loose (by decide) ⟨rfl, rfl⟩ rfl OpType.noConfusion rfl
  | strImm made =>
      have opens := createStrImm_opens made
      rcases createStrImm_some made with ⟨_, _, _, _, _, _, rfl⟩
      exact opens.loose (by decide) ⟨rfl, rfl⟩ rfl OpType.noConfusion rfl
  | strWordImm made =>
      have opens := createStrWordImm_opens made
      rcases createStrWordImm_some made with ⟨_, _, _, rfl⟩
      exact opens.loose (by decide) ⟨rfl, rfl⟩ rfl OpType.noConfusion rfl
  | movReg made =>
      rcases createMovReg_some made with ⟨_, _, _, _, rfl⟩
      simp at opcode
  | movFpSp => simp [createMovFpSp] at opcode
  | movSpFp => simp [createMovSpFp] at opcode
  | addImm made =>
      rcases createImmediateArithmetic_some made with ⟨_, _, _, _, rfl⟩
      simp at opcode
  | subImm made =>
      rcases createImmediateArithmetic_some made with ⟨_, _, _, _, rfl⟩
      simp at opcode
  | addLiteral made =>
      rcases createAddLiteral_some made with ⟨_, _, _, rfl⟩
      simp at opcode
  | addReg made =>
      rcases createRegisterArithmetic_some made with ⟨_, _, _, _, _, rfl⟩
      simp at opcode
  | subReg made =>
      rcases createRegisterArithmetic_some made with ⟨_, _, _, _, _, rfl⟩
      simp at opcode
  | addShiftedReg made =>
      rcases optCreateAddShiftedReg_some made with ⟨_, _, _, _, _, rfl⟩
      simp at opcode
  | cmpImm made =>
      rcases createCmpImm_some made with ⟨_, _, rfl⟩
      simp at opcode
  | cmpReg made =>
      rcases createCmpReg_some made with ⟨_, _, _, rfl⟩
      simp at opcode
  | adrp made =>
      rcases createAdrp_some made with ⟨_, _, rfl⟩
      simp at opcode
  | branchUnconditional name => simp [createBranchUnconditional] at opcode
  | branchConditional condition name => simp [createBranchConditional] at opcode
  | label name segment => simp [Instruction.asLabel] at opcode
  | relocatableData name segment => simp [Instruction.asRelocatableData] at opcode
  | unasked quiet _ =>
      rw [quiet] at asked
      cases asked

/-- In a window without target labels the first instruction is not fixed. -/
theorem first_loose {i : Instruction} (code : i.segment = .code)
    (plain : isSpecialInstruction i = false) (asked : i.opcode.asked = true)
    (unlabelled : i.targetLabel = "") : i.fixed = false := by
  have notDirective : (i.opcode == .directive) = false := by
    rw [beq_eq_false_iff_ne]
    intro directive
    rw [directive] at asked
    cases asked
  simp [Instruction.fixed, code, plain, notDirective, unlabelled]

end Loose

section Runs

/-! ## Rounds, passes and the whole run -/

/-- The replacement of a window without target labels edits it in place. -/
theorem Window.inPlace {window replacements : List Instruction}
    (rewritten : Window window replacements)
    (encoded : forall i, i ∈ window -> FromEncoder i)
    (unlabelled : forall i, i ∈ window -> i.targetLabel = "")
    (first : forall i others, window = i :: others ->
      i.segment = .code ∧ isSpecialInstruction i = false) :
    InPlace Instruction.fixed createdMove window replacements := by
  have looseFirst (i : Instruction) (others : List Instruction) (isWindow : window = i :: others) :
      i.fixed = false := by
    have member : i ∈ window := isWindow ▸ List.mem_cons_self
    rcases first i others isWindow with ⟨code, plain⟩
    exact first_loose code plain (rewritten.asked (Or.inl member)) (unlabelled i member)
  cases rewritten with
  | identity _ _ =>
      exact .exchange (looseFirst _ _ rfl) (wideMove_loose _ _) ⟨_, _, rfl⟩ .nil
  | selfMove _ _ => exact .remove (looseFirst _ _ rfl) .nil
  | loadAfterStore _ isLoad _ _ _ _ =>
      have loose := (encoded _ mem_second).access_loose (Or.inl isLoad)
      exact .keep _ (.remove loose .nil)
  | redundantLoad _ isLoad _ _ _ _ _ =>
      have loose := (encoded _ mem_second).access_loose (Or.inl isLoad)
      exact .keep _ (.exchange loose (wideMove_loose _ _) ⟨_, _, rfl⟩ .nil)
  | deadStore _ _ _ _ _ _ => exact .remove (looseFirst _ _ rfl) (.keep _ .nil)
  | comparison _ _ _ => exact .refl _

/-- A round edits the instructions in place. -/
theorem round_inPlace {state next : PassState} (encoded : state.Encoded)
    (inside : state.pos < state.instructions.length) (rounded : round state = .finished next) :
    InPlace Instruction.fixed createdMove state.instructions next.instructions := by
  rcases round_cases encoded inside with ⟨_, advanced⟩ | ⟨rest, rewrite, pending, replaced,
      split, length, rewritten⟩
  · rw [advanced] at rounded
    injection rounded with equal
    rw [<- equal]
    exact .refl _
  · rw [replaced] at rounded
    injection rounded with equal
    have windowed : exists other, state.Replaces rewrite other := by
      rcases round_outcomes inside with stuck | ⟨quiet, _⟩ | ⟨other, behind, replaces⟩
      · rw [replaced] at stuck
        cases stuck
      · rw [pending] at quiet
        cases quiet
      · have same : rewrite = other := Option.some.inj (pending.symm.trans replaces.pending)
        exact ⟨behind, same ▸ replaces⟩
    rcases windowed with ⟨_, replaces⟩
    have inWindow (i : Instruction) (member : i ∈ state.window rewrite) : FromEncoder i :=
      encoded i (mem_of_drop split member)
    have edit := rewritten.inPlace inWindow replaces.unlabelled replaces.first
    rw [<- equal]
    simp only [PassState.replace, drop_replaced split length]
    have around := (InPlace.refl (state.instructions.take state.pos)).append
      (edit.append (InPlace.refl rest))
    rw [<- instructions_split split] at around
    exact around

/-- Every state in which a run ends or is cut off has the property, and no run throws. -/
def Stays (property : PassState -> Prop) : FueledLoop.Outcome PassState -> Prop
  | .finished state => property state
  | .unfinished state => property state
  | .stuck => False

/-- The state holds encoded instructions, and they are the given ones edited in place. -/
structure PassState.Edits (state : PassState) (code : List Instruction) : Prop where
  encoded : state.Encoded
  inPlace : InPlace Instruction.fixed createdMove code state.instructions

/-- A round does not throw and edits on. -/
theorem round_edits {state : PassState} {code : List Instruction} (edits : state.Edits code)
    (inside : state.pos < state.instructions.length) :
    exists next, round state = .finished next ∧ next.Edits code := by
  have comes : exists next, round state = .finished next := by
    rcases round_cases edits.encoded inside with ⟨_, advanced⟩ | ⟨_, _, _, replaced, _⟩
    · exact ⟨_, advanced⟩
    · exact ⟨_, replaced⟩
  rcases comes with ⟨next, rounded⟩
  exact ⟨next, rounded, round_encoded edits.encoded inside rounded,
    edits.inPlace.trans (round_inPlace edits.encoded inside rounded)⟩

/-- A pass edits in place, at every fuel. -/
theorem applyOptimizationPass_edits {code : List Instruction} (fuel : Nat) {state : PassState}
    (edits : state.Edits code) :
    Stays (fun reached => reached.Edits code) (applyOptimizationPass fuel state) := by
  induction fuel generalizing state with
  | zero =>
      by_cases inside : state.pos < state.instructions.length
      · rcases round_edits edits inside with ⟨next, rounded, editsNext⟩
        simp only [applyOptimizationPass, FueledLoop.iterate, FueledLoop.computing,
          Peephole.inside, decide_eq_true inside, if_true, FueledLoop.sequence, rounded,
          FueledLoop.Outcome.andThen]
        exact editsNext
      · rw [applyOptimizationPass, iterate_outside inside]
        exact edits
  | succ fuel stays =>
      by_cases inside : state.pos < state.instructions.length
      · rcases round_edits edits inside with ⟨next, rounded, editsNext⟩
        rw [applyOptimizationPass, iterate_inside inside rounded]
        exact stays editsNext
      · rw [applyOptimizationPass, iterate_outside inside]
        exact edits

/-- The passes edit in place, at every fuel. -/
theorem passes_edits {code : List Instruction} (fuel maxPasses : Nat) {state : PassState}
    (edits : state.Edits code) :
    Stays (fun reached => reached.Edits code) (passes fuel maxPasses state) := by
  induction maxPasses generalizing state with
  | zero => exact edits
  | succ maxPasses stays =>
      have begun : (PassState.start state.instructions state.optimizationsApplied
          state.patternMatches).Edits code := ⟨edits.encoded, edits.inPlace⟩
      have pass := applyOptimizationPass_edits fuel begun
      simp only [passes]
      cases outcome : applyOptimizationPass fuel
          (.start state.instructions state.optimizationsApplied state.patternMatches) with
      | stuck =>
          rw [outcome] at pass
          exact pass
      | unfinished reached =>
          rw [outcome] at pass
          exact pass
      | finished reached =>
          rw [outcome] at pass
          simp only [FueledLoop.Outcome.andThen]
          split
          · exact stays pass
          · exact pass

end Runs

section Ending

/-! ## Streams whose branches have a label -/

/-- More fuel does not change a pass that finished. -/
theorem applyOptimizationPass_more {fuel : Nat} (extra : Nat) {state final : PassState}
    (finished : applyOptimizationPass fuel state = .finished final) :
    applyOptimizationPass (fuel + extra) state = .finished final := by
  induction fuel generalizing state with
  | zero =>
      by_cases inside : state.pos < state.instructions.length
      · simp only [applyOptimizationPass, FueledLoop.iterate, FueledLoop.computing,
          Peephole.inside, decide_eq_true inside, if_true, FueledLoop.sequence] at finished
        cases rounded : round state <;> rw [rounded] at finished <;> cases finished
      · rw [applyOptimizationPass, iterate_outside inside] at finished
        rw [applyOptimizationPass, iterate_outside inside, finished]
  | succ fuel more =>
      rw [Nat.succ_add]
      by_cases inside : state.pos < state.instructions.length
      · cases rounded : round state with
        | finished next =>
            rw [applyOptimizationPass, iterate_inside inside rounded] at finished
            rw [applyOptimizationPass, iterate_inside inside rounded]
            exact more finished
        | unfinished next =>
            simp only [applyOptimizationPass, FueledLoop.iterate, FueledLoop.computing,
              Peephole.inside, decide_eq_true inside, if_true, FueledLoop.sequence, rounded,
              FueledLoop.Outcome.andThen] at finished
            cases finished
        | stuck =>
            simp only [applyOptimizationPass, FueledLoop.iterate, FueledLoop.computing,
              Peephole.inside, decide_eq_true inside, if_true, FueledLoop.sequence, rounded,
              FueledLoop.Outcome.andThen] at finished
            cases finished
      · rw [applyOptimizationPass, iterate_outside inside] at finished
        rw [applyOptimizationPass, iterate_outside inside, finished]

theorem Reached.edits {code : List Instruction} {initial state : PassState}
    (reached : Reached initial state) (edits : initial.Edits code) : state.Edits code := by
  induction reached with
  | start => exact edits
  | next _ inside rounded before =>
      rcases round_edits before inside with ⟨next, comes, editsNext⟩
      rw [comes] at rounded
      injection rounded with same
      exact same ▸ editsNext

/-- In an edit of a stream whose conditional branches have a label, the pass stays nowhere
for ever. -/
theorem PassState.Edits.moves {state : PassState} {code : List Instruction}
    (edits : state.Edits code)
    (labelled : forall i, i ∈ code -> i.opcode = .bCond -> i.targetLabel ≠ "") :
    ¬ state.Spins := by
  rintro (⟨cmp, branch, stands⟩ | ⟨branch, stands, endless⟩)
  · have member : branch ∈ state.instructions := List.mem_of_getElem? stands.next
    rcases edits.inPlace.mem member with inCode | ⟨rd, rn, isMove⟩
    · exact labelled branch inCode stands.isBranch stands.unlabelled.2
    · have opcode := stands.isBranch
      rw [isMove] at opcode
      cases opcode
  · have member : branch ∈ state.instructions := List.mem_of_getElem? stands.here
    have noTarget := (edits.encoded branch member).plain.1
    exact endless (.stop (if_pos noTarget))

/-- With enough fuel a pass over such a stream finishes. -/
theorem PassState.Edits.finishes {state : PassState} {code : List Instruction}
    (edits : state.Edits code)
    (labelled : forall i, i ∈ code -> i.opcode = .bCond -> i.targetLabel ≠ "") :
    exists enough final, forall fuel, enough ≤ fuel ->
      applyOptimizationPass fuel (.start state.instructions state.optimizationsApplied
        state.patternMatches) = .finished final := by
  have begun : (PassState.start state.instructions state.optimizationsApplied
      state.patternMatches).Edits code := ⟨edits.encoded, edits.inPlace⟩
  have ends := ((applyOptimizationPass_ends_iff state.instructions state.optimizationsApplied
    state.patternMatches).mpr fun other reached => (reached.edits begun).moves labelled).1
  rcases ends with ⟨enough, ends⟩
  have stays := applyOptimizationPass_edits enough begun
  cases outcome : applyOptimizationPass enough
      (.start state.instructions state.optimizationsApplied state.patternMatches) with
  | stuck =>
      rw [outcome] at stays
      exact stays.elim
  | unfinished reached => exact absurd outcome (ends reached)
  | finished final =>
      refine ⟨enough, final, ?_⟩
      intro fuel bounded
      rw [<- Nat.add_sub_cancel' bounded]
      exact applyOptimizationPass_more _ outcome

/-- With enough fuel the passes over such a stream finish. -/
theorem passes_finish {code : List Instruction} (maxPasses : Nat) {state : PassState}
    (edits : state.Edits code)
    (labelled : forall i, i ∈ code -> i.opcode = .bCond -> i.targetLabel ≠ "") :
    exists enough final, forall fuel, enough ≤ fuel ->
      passes fuel maxPasses state = .finished final := by
  induction maxPasses generalizing state with
  | zero => exact ⟨0, state, fun _ _ => rfl⟩
  | succ maxPasses finish =>
      rcases edits.finishes labelled with ⟨enough, final, finishes⟩
      have begun : (PassState.start state.instructions state.optimizationsApplied
          state.patternMatches).Edits code := ⟨edits.encoded, edits.inPlace⟩
      have editsFinal := applyOptimizationPass_edits enough begun
      rw [finishes enough (Nat.le_refl enough)] at editsFinal
      rcases finish editsFinal with ⟨more, last, ends⟩
      by_cases changed : final.anyChanges = true
      · refine ⟨max enough more, last, ?_⟩
        intro fuel bounded
        simp only [passes, finishes fuel (Nat.le_trans (Nat.le_max_left _ _) bounded),
          FueledLoop.Outcome.andThen, if_pos changed]
        exact ends fuel (Nat.le_trans (Nat.le_max_right _ _) bounded)
      · refine ⟨enough, final, ?_⟩
        intro fuel bounded
        simp only [passes, finishes fuel bounded, FueledLoop.Outcome.andThen, if_neg changed]

end Ending

section Results

/-! ## Any stream -/

end Results

end Peephole
end NewBcpl
