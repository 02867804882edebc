import Mathlib.Logic.Relation
import NewBcpl.Peephole.RewritingRounds

namespace NewBcpl
namespace Peephole

open Foundations

/-!
# Whether a pass ends

The position of a pass stays where it is after a rewrite, and nothing bounds the number
of rounds. Five of the replacements leave less work, and so does moving on. A comparison
with zero that is put back with its branch comes back for ever; a branch to a branch
follows the targets behind the labels, which ends unless they lead around in a circle or
a label is not followed at once by its branch. A pass over any records ends if and only
if it comes to neither.
-/

/-- The pass ends from a state: with enough fuel it finishes or throws. -/
def PassState.Ends (state : PassState) : Prop :=
  exists fuel, forall reached,
    applyOptimizationPass fuel state ≠ FueledLoop.Outcome.unfinished reached

/-- At the position stands a comparison with zero without a label reference, and behind
it a conditional branch without one. -/
structure PassState.AtComparison (state : PassState) (cmp branch : Instruction) : Prop where
  here : state.instructions[state.pos]? = some cmp
  next : state.instructions[state.pos + 1]? = some branch
  code : cmp.segment = .code
  plain : isSpecialInstruction cmp = false
  isCmp : cmp.opcode = .cmp
  isBranch : branch.opcode = .bCond
  uses : cmp.usesImmediate = true
  zero : cmp.immediate = 0
  unlabelled : cmp.targetLabel = "" ∧ branch.targetLabel = ""

/-- At the position stands an unconditional branch without a label reference. -/
structure PassState.AtBranch (state : PassState) (branch : Instruction) : Prop where
  here : state.instructions[state.pos]? = some branch
  code : branch.segment = .code
  plain : isSpecialInstruction branch = false
  isBranch : branch.opcode = .b
  unlabelled : branch.targetLabel = ""

/-- The targets that are taken over, one after the other, come to one behind which no
branch stands. -/
inductive ChainEnds (instrs : List Instruction) : String -> Prop
  | stop {target : String} (last : takenTarget instrs target = none) : ChainEnds instrs target
  | follow {target next : String} (taken : takenTarget instrs target = some next)
      (ends : ChainEnds instrs next) : ChainEnds instrs target

/-- The pass stays at this position for ever: a comparison with zero is put back with its
branch, or a branch takes over targets without an end. -/
def PassState.Spins (state : PassState) : Prop :=
  (exists cmp branch, state.AtComparison cmp branch) ∨
    exists branch, state.AtBranch branch ∧
      ¬ ChainEnds state.instructions branch.branchTarget

section Patterns

/-! ## The patterns at comparisons and branches -/

variable {instrs : List Instruction} {pos : Nat}

theorem firstRewrite_quiet {before after : List InstructionPattern}
    (quiet : forall pattern, pattern ∈ before ->
      (pattern.matcher instrs pos).matched ≠ true) :
    firstRewrite instrs pos (before ++ after) = firstRewrite instrs pos after := by
  induction before with
  | nil => rfl
  | cons pattern before skips =>
      rw [List.cons_append, firstRewrite]
      simp only [if_neg (quiet pattern List.mem_cons_self)]
      exact skips fun other member => quiet other (List.mem_cons_of_mem pattern member)

/-- A pattern on one instruction that does not take an operation type is quiet on it. -/
theorem onOne_quiet {test : Instruction -> Bool}
    {replacements : Instruction -> Option (List Instruction)} {description : String}
    {i : Instruction} (here : instrs[pos]? = some i) (fails : test i = false) :
    ((InstructionPattern.onOne test replacements description).matcher instrs pos).matched ≠
      true := by
  simp only [InstructionPattern.onOne, here, fails]
  exact Bool.false_ne_true

theorem onTwo_quiet {test : Instruction -> Instruction -> Bool}
    {replacements : Instruction -> Instruction -> Option (List Instruction)}
    {description : String} {first : Instruction} (here : instrs[pos]? = some first)
    (fails : forall second, test first second = false) :
    ((InstructionPattern.onTwo test replacements description).matcher instrs pos).matched ≠
      true := by
  simp only [InstructionPattern.onTwo, here]
  cases instrs[pos + 1]? with
  | none => exact Bool.false_ne_true
  | some second =>
      simp only [fails second]
      exact Bool.false_ne_true

/-- The patterns before the two for branches. -/
theorem registered_quiet {i : Instruction} (here : instrs[pos]? = some i)
    (opcode : i.opcode = .cmp ∨ i.opcode = .b) (pattern : InstructionPattern)
    (member : pattern ∈ registeredPatterns.take 12) :
    (pattern.matcher instrs pos).matched ≠ true := by
  simp only [registeredPatterns, List.take_succ_cons, List.take_zero, List.mem_cons,
    List.not_mem_nil, or_false] at member
  have others : (i.opcode == .add || i.opcode == .sub) = false ∧ (i.opcode == .mov) = false ∧
      (i.opcode == .adrp) = false ∧ (i.opcode == .str) = false ∧
      (i.opcode == .ldr) = false := by
    rcases opcode with opcode | opcode <;> rw [opcode] <;> decide
  rcases others with ⟨notSum, notMov, notAdrp, notStr, notLdr⟩
  rcases member with rfl | rfl | rfl | rfl | rfl | rfl | rfl | rfl | rfl | rfl | rfl | rfl
  · exact placeholder_silent _
  · exact onOne_quiet here (by simp only [notSum, Bool.false_and])
  · exact onOne_quiet here (by simp only [notMov, Bool.false_and])
  · exact onOne_quiet here (by simp only [notMov, Bool.false_and])
  · exact onTwo_quiet here fun _ => by simp only [notAdrp, Bool.false_and]
  · exact placeholder_silent _
  · exact placeholder_silent _
  · exact placeholder_silent _
  · exact onTwo_quiet here fun _ => by simp only [notStr, Bool.false_and]
  · exact onTwo_quiet here fun _ => by simp only [notLdr, Bool.false_and]
  · exact onTwo_quiet here fun _ => by simp only [notStr, Bool.false_and]
  · exact onTwo_quiet here fun _ => by simp only [notStr, Bool.false_and]

/-- The rewrite that puts a comparison and its branch back. -/
def comparisonRewrite (cmp branch : Instruction) : Rewrite :=
  { description := createCompareZeroBranchPattern.description
    length := 2
    replacements := [cmp, branch] }

theorem round_comparison {state : PassState} {cmp branch : Instruction}
    (stands : state.AtComparison cmp branch) :
    round state = .finished (state.replace (comparisonRewrite cmp branch)) := by
  have matches_ : createCompareZeroBranchPattern.matcher state.instructions state.pos =
      { matched := true, length := 2 } := by
    simp only [createCompareZeroBranchPattern, InstructionPattern.onTwo, stands.here,
      stands.next, stands.isCmp, stands.isBranch, stands.uses, stands.zero]
    rfl
  have transforms : createCompareZeroBranchPattern.transformer state.instructions state.pos =
      some [cmp, branch] := by
    simp only [createCompareZeroBranchPattern, InstructionPattern.onTwo, stands.here,
      stands.next]
  have unbroken : wouldBreakLabelReferences state.instructions state.pos 2
      [cmp, branch] = false := by
    rw [wouldBreakLabelReferences, drop_of_getElem? stands.here,
      drop_of_getElem? stands.next]
    simp only [List.take_succ_cons, List.take_zero, List.any_cons, List.any_nil,
      stands.unlabelled.1, stands.unlabelled.2]
    rfl
  have found : firstRewrite state.instructions state.pos registeredPatterns =
      some (some (comparisonRewrite cmp branch)) := by
    change firstRewrite _ _ (registeredPatterns.take 12 ++
      [createCompareZeroBranchPattern, createBranchChainingPattern]) = _
    rw [firstRewrite_quiet (registered_quiet stands.here (Or.inl stands.isCmp)), firstRewrite]
    simp only [matches_, transforms, unbroken, if_true, Bool.false_eq_true, if_false]
    rfl
  have code : ¬ cmp.segment ≠ .code := fun other => other stands.code
  have plain : ¬ isSpecialInstruction cmp = true := by
    rw [stands.plain]
    exact Bool.false_ne_true
  exact (round_of_rewriteAt stands.here
    ((if_neg code).trans ((if_neg plain).trans found))).2

/-- The rewrite that gives a branch another target. -/
def chainRewrite (branch : Instruction) (target : String) : Rewrite :=
  { description := createBranchChainingPattern.description
    length := 1
    replacements := [{ branch with branchTarget := target }] }

/-- What the pass does at a branch. -/
theorem round_branch {state : PassState} {branch : Instruction}
    (stands : state.AtBranch branch) :
    round state =
      match takenTarget state.instructions branch.branchTarget with
      | none => .finished state.advance
      | some target => .finished (state.replace (chainRewrite branch target)) := by
  have code : ¬ branch.segment ≠ .code := fun other => other stands.code
  have plain : ¬ isSpecialInstruction branch = true := by
    rw [stands.plain]
    exact Bool.false_ne_true
  have quiet : forall pattern, pattern ∈ registeredPatterns.take 13 ->
      (pattern.matcher state.instructions state.pos).matched ≠ true := by
    intro pattern member
    change pattern ∈ registeredPatterns.take 12 ++ [createCompareZeroBranchPattern] at member
    rcases List.mem_append.mp member with early | last
    · exact registered_quiet stands.here (Or.inr stands.isBranch) pattern early
    · rw [List.mem_singleton.mp last]
      exact onTwo_quiet stands.here fun _ => by
        simp only [stands.isBranch]
        rfl
  have chains : firstRewrite state.instructions state.pos registeredPatterns =
      firstRewrite state.instructions state.pos [createBranchChainingPattern] :=
    firstRewrite_quiet quiet
  have spec := branchChaining_spec stands.here stands.isBranch
  have rewriting : rewriteAt state branch =
      firstRewrite state.instructions state.pos [createBranchChainingPattern] :=
    (if_neg code).trans ((if_neg plain).trans chains)
  cases taken : takenTarget state.instructions branch.branchTarget with
  | none =>
      rw [taken] at spec
      rw [firstRewrite, spec] at rewriting
      exact (round_of_rewriteAt stands.here rewriting).2
  | some target =>
      rw [taken] at spec
      have unbroken : wouldBreakLabelReferences state.instructions state.pos 1
          [{ branch with branchTarget := target }] = false := by
        rw [wouldBreakLabelReferences, drop_of_getElem? stands.here]
        simp only [List.take_succ_cons, List.take_zero, List.any_cons, List.any_nil,
          stands.unlabelled]
        rfl
      rw [firstRewrite] at rewriting
      simp only [spec.1, spec.2, unbroken, if_true, Bool.false_eq_true, if_false] at rewriting
      exact (round_of_rewriteAt stands.here rewriting).2

end Patterns

section Ending

/-! ## States from which the pass ends -/

theorem ends_of_outside {state : PassState}
    (outside : ¬ state.pos < state.instructions.length) : state.Ends := by
  refine ⟨0, ?_⟩
  intro reached unfinished
  rw [applyOptimizationPass, iterate_outside outside] at unfinished
  cases unfinished

theorem ends_of_stuck {state : PassState} (inside : state.pos < state.instructions.length)
    (throws : round state = .stuck) : state.Ends := by
  refine ⟨0, ?_⟩
  intro reached unfinished
  simp only [applyOptimizationPass, FueledLoop.iterate, FueledLoop.computing, Peephole.inside,
    decide_eq_true inside, if_true, FueledLoop.sequence, throws,
    FueledLoop.Outcome.andThen] at unfinished
  cases unfinished

/-- A pass ends from a state exactly if it ends from the next one. -/
theorem ends_iff_next {state next : PassState}
    (inside : state.pos < state.instructions.length) (rounded : round state = .finished next) :
    state.Ends <-> next.Ends := by
  constructor
  · rintro ⟨fuel, ends⟩
    cases fuel with
    | zero =>
        apply absurd _ (ends next)
        simp only [applyOptimizationPass, FueledLoop.iterate, FueledLoop.computing,
          Peephole.inside, decide_eq_true inside, if_true, FueledLoop.sequence, rounded,
          FueledLoop.Outcome.andThen]
    | succ fuel =>
        refine ⟨fuel, ?_⟩
        intro reached unfinished
        apply ends reached
        rw [applyOptimizationPass, iterate_inside inside rounded]
        exact unfinished
  · rintro ⟨fuel, ends⟩
    refine ⟨fuel + 1, ?_⟩
    intro reached unfinished
    apply ends reached
    rw [applyOptimizationPass, iterate_inside inside rounded] at unfinished
    exact unfinished

theorem Reached.ends_iff {initial state : PassState} (reached : Reached initial state) :
    initial.Ends <-> state.Ends := by
  induction reached with
  | start => exact Iff.rfl
  | next _ inside rounded same => exact same.trans (ends_iff_next inside rounded)

theorem Reached.trans {initial middle state : PassState} (first : Reached initial middle)
    (second : Reached middle state) : Reached initial state := by
  induction second with
  | start => exact first
  | next _ inside rounded reached => exact .next reached inside rounded

/-- A pass that comes from states of a kind to states of the kind again does not end. -/
theorem not_ends (kind : PassState -> Prop)
    (again : forall state, kind state -> state.pos < state.instructions.length ∧
      exists next, round state = .finished next ∧ kind next)
    {state : PassState} (isKind : kind state) : ¬ state.Ends := by
  rintro ⟨fuel, ends⟩
  induction fuel generalizing state with
  | zero =>
      rcases again state isKind with ⟨inside, next, rounded, _⟩
      apply ends next
      simp only [applyOptimizationPass, FueledLoop.iterate, FueledLoop.computing,
        Peephole.inside, decide_eq_true inside, if_true, FueledLoop.sequence, rounded,
        FueledLoop.Outcome.andThen]
  | succ fuel notSo =>
      rcases again state isKind with ⟨inside, next, rounded, isNext⟩
      apply notSo isNext
      intro reached unfinished
      apply ends reached
      rw [applyOptimizationPass, iterate_inside inside rounded]
      exact unfinished

end Ending

section Comparisons

/-! ## Comparisons that come back -/

theorem PassState.AtComparison.inside {state : PassState} {cmp branch : Instruction}
    (stands : state.AtComparison cmp branch) : state.pos < state.instructions.length :=
  (List.getElem?_eq_some_iff.mp stands.here).1

/-- The list is as it was when a comparison has been put back. -/
theorem instructions_comparison {state : PassState} {cmp branch : Instruction}
    (stands : state.AtComparison cmp branch) :
    (state.replace (comparisonRewrite cmp branch)).instructions = state.instructions := by
  calc
    state.instructions.take state.pos ++
          ([cmp, branch] ++ state.instructions.drop (state.pos + 2)) =
        state.instructions.take state.pos ++ state.instructions.drop state.pos := by
        rw [drop_of_getElem? stands.here, drop_of_getElem? stands.next]
        rfl
    _ = state.instructions := List.take_append_drop _ _

theorem comparison_not_ends {state : PassState} {cmp branch : Instruction}
    (stands : state.AtComparison cmp branch) : ¬ state.Ends := by
  apply not_ends fun state => exists cmp branch, state.AtComparison cmp branch
  · rintro state ⟨cmp, branch, stands⟩
    refine ⟨stands.inside, _, round_comparison stands, cmp, branch, ?_⟩
    have same := instructions_comparison stands
    exact { stands with
      here := by
        rw [same]
        exact stands.here
      next := by
        rw [same]
        exact stands.next }
  · exact ⟨cmp, branch, stands⟩

end Comparisons

section Chains

/-! ## Branches that take over targets -/

/-- Two records that agree but for the target of one branch. -/
def Retargeted (branch : Instruction) (target : String) (first second : Instruction) : Prop :=
  first = second ∨ first = branch ∧ second = { branch with branchTarget := target }

variable {branch : Instruction} {target : String}

theorem Retargeted.fields {first second : Instruction}
    (retargeted : Retargeted branch target first second) :
    second.isLabelDefinition = first.isLabelDefinition ∧ second.label = first.label ∧
      second.opcode = first.opcode ∧
      isSpecialInstruction second = isSpecialInstruction first := by
  rcases retargeted with rfl | ⟨rfl, rfl⟩
  · exact ⟨rfl, rfl, rfl, rfl⟩
  · exact ⟨rfl, rfl, rfl, rfl⟩

theorem dropWhile_retargeted {instrs others : List Instruction} (label : String)
    (retargeted : List.Forall₂ (Retargeted branch target) instrs others) :
    List.Forall₂ (Retargeted branch target)
      (instrs.dropWhile fun instr => !(instr.isLabelDefinition && instr.label == label))
      (others.dropWhile fun instr => !(instr.isLabelDefinition && instr.label == label)) := by
  induction retargeted with
  | nil => exact .nil
  | cons same rest drops =>
      rw [List.dropWhile_cons, List.dropWhile_cons, same.fields.1, same.fields.2.1]
      split
      · exact drops
      · exact .cons same rest

theorem find_retargeted {instrs others : List Instruction}
    (retargeted : List.Forall₂ (Retargeted branch target) instrs others) :
    Option.map Instruction.opcode (others.find? fun instr => !isSpecialInstruction instr) =
      Option.map Instruction.opcode (instrs.find? fun instr => !isSpecialInstruction instr) := by
  induction retargeted with
  | nil => rfl
  | cons same rest found =>
      rw [List.find?_cons, List.find?_cons, same.fields.2.2.2]
      split
      · exact congrArg some same.fields.2.2.1
      · exact found

/-- Giving one branch another target changes only what is taken over from that branch. -/
theorem takenTarget_retargeted {instrs others : List Instruction} (isBranch : branch.opcode = .b)
    (retargeted : List.Forall₂ (Retargeted branch target) instrs others) (label : String) :
    takenTarget others label = takenTarget instrs label ∨
      takenTarget instrs label = some branch.branchTarget ∧
        takenTarget others label = some target := by
  rw [takenTarget, takenTarget]
  by_cases isEmpty : label = ""
  · exact Or.inl (by rw [if_pos isEmpty, if_pos isEmpty])
  rw [if_neg isEmpty, if_neg isEmpty, behindLabel, behindLabel]
  have drops := dropWhile_retargeted label retargeted
  generalize (instrs.dropWhile fun instr =>
    !(instr.isLabelDefinition && instr.label == label)) = firsts at drops ⊢
  generalize (others.dropWhile fun instr =>
    !(instr.isLabelDefinition && instr.label == label)) = seconds at drops ⊢
  cases drops with
  | nil => exact Or.inl rfl
  | @cons _ _ behind othersBehind _ rest =>
      dsimp only
      have found := find_retargeted rest
      cases first : behind.find? fun instr => !isSpecialInstruction instr with
      | none =>
          rw [first, Option.map_none, Option.map_eq_none_iff] at found
          exact Or.inl (by rw [found])
      | some instr =>
          rw [first, Option.map_some, Option.map_eq_some_iff] at found
          rcases found with ⟨other, isFirst, sameOpcode⟩
          rw [isFirst]
          dsimp only
          rw [sameOpcode]
          by_cases isB : instr.opcode = .b
          · rw [if_pos isB, if_pos isB]
            cases rest with
            | nil => exact Or.inl rfl
            | cons same _ =>
                dsimp only
                rw [same.fields.2.2.1]
                rcases same with equal | ⟨isSelf, isNew⟩
                · exact Or.inl (by rw [equal])
                · subst isSelf isNew
                  rw [if_pos isBranch, if_pos isBranch]
                  exact Or.inr ⟨rfl, rfl⟩
          · exact Or.inl (by rw [if_neg isB, if_neg isB])

/-- One target is taken over for another. -/
def Taken (instrs : List Instruction) (first second : String) : Prop :=
  takenTarget instrs first = some second

/-- Targets that end do not lead around in a circle. -/
theorem ChainEnds.acyclic {instrs : List Instruction} {target : String}
    (ends : ChainEnds instrs target) : ¬ Relation.TransGen (Taken instrs) target target := by
  induction ends with
  | @stop target last =>
      intro circle
      rcases Relation.TransGen.head'_iff.mp circle with ⟨next, taken, _⟩
      rw [Taken, last] at taken
      cases taken
  | @follow target next taken _ acyclic =>
      intro circle
      apply acyclic
      rcases Relation.TransGen.head'_iff.mp circle with ⟨other, takenOther, back⟩
      rw [Taken, taken, Option.some.injEq] at takenOther
      rw [← takenOther] at back
      exact Relation.TransGen.tail' back taken

/-- The state while the branch at the position of the first one has a target. -/
structure Retargets (first : PassState) (branch : Instruction) (target : String)
    (state : PassState) : Prop where
  pos : state.pos = first.pos
  instructions : state.instructions = first.instructions.take first.pos ++
    ({ branch with branchTarget := target } :: first.instructions.drop (first.pos + 1))

variable {first state : PassState}

theorem PassState.AtBranch.inside (stands : first.AtBranch branch) :
    first.pos < first.instructions.length :=
  (List.getElem?_eq_some_iff.mp stands.here).1

theorem PassState.AtBranch.retargets (stands : first.AtBranch branch) :
    Retargets first branch branch.branchTarget first := by
  refine ⟨rfl, ?_⟩
  calc
    first.instructions =
        first.instructions.take first.pos ++ first.instructions.drop first.pos :=
      (List.take_append_drop _ _).symm
    _ = _ := by rw [drop_of_getElem? stands.here]

theorem Retargets.length_taken (stands : first.AtBranch branch) :
    (first.instructions.take first.pos).length = first.pos :=
  List.length_take_of_le (Nat.le_of_lt stands.inside)

theorem Retargets.here (stands : first.AtBranch branch)
    (retargets : Retargets first branch target state) :
    state.AtBranch { branch with branchTarget := target } where
  here := by
    rw [retargets.pos, retargets.instructions, List.getElem?_append_right
      (Nat.le_of_eq (Retargets.length_taken stands)), Retargets.length_taken stands,
      Nat.sub_self]
    rfl
  code := stands.code
  plain := stands.plain
  isBranch := stands.isBranch
  unlabelled := stands.unlabelled

/-- The records of the first state, with another target of the branch. -/
theorem Retargets.related (stands : first.AtBranch branch)
    (retargets : Retargets first branch target state) :
    List.Forall₂ (Retargeted branch target) first.instructions state.instructions := by
  have refl (instrs : List Instruction) :
      List.Forall₂ (Retargeted branch target) instrs instrs :=
    List.forall₂_same.mpr fun _ _ => Or.inl rfl
  have split : first.instructions = first.instructions.take first.pos ++
      (branch :: first.instructions.drop (first.pos + 1)) := stands.retargets.instructions
  rw [retargets.instructions]
  nth_rewrite 1 [split]
  exact List.rel_append (refl _) (.cons (Or.inr ⟨rfl, rfl⟩) (refl _))

/-- What stands behind the branch stays. -/
theorem Retargets.drop_eq (stands : first.AtBranch branch)
    (retargets : Retargets first branch target state) :
    state.instructions.drop state.pos =
      { branch with branchTarget := target } :: first.instructions.drop (first.pos + 1) := by
  rw [retargets.pos, retargets.instructions,
    List.drop_left' (Retargets.length_taken stands)]

/-- Taking over a target. -/
theorem Retargets.chain (stands : first.AtBranch branch)
    (retargets : Retargets first branch target state) (next : String) :
    Retargets first branch next
      (state.replace (chainRewrite { branch with branchTarget := target } next)) := by
  have behind : state.instructions.drop (state.pos + 1) =
      first.instructions.drop (first.pos + 1) := by
    have drops := drop_of_getElem? (retargets.here stands).here
    rw [retargets.drop_eq stands] at drops
    injection drops with _ same
    exact same.symm
  have before : state.instructions.take state.pos = first.instructions.take first.pos := by
    rw [retargets.pos, retargets.instructions,
      List.take_left' (Retargets.length_taken stands)]
  refine ⟨retargets.pos, ?_⟩
  change state.instructions.take state.pos ++
    ([{ branch with branchTarget := next }] ++ state.instructions.drop (state.pos + 1)) = _
  rw [behind, before]
  rfl

/-- The work that is left does not depend on the target. -/
theorem Retargets.left (stands : first.AtBranch branch)
    (retargets : Retargets first branch target state) : state.left = first.left := by
  rw [PassState.left, PassState.left, retargets.drop_eq stands,
    drop_of_getElem? stands.here]
  rfl

/-- If the targets end, the pass comes to a state with less work. -/
theorem chain_leaves (stands : first.AtBranch branch)
    (ends : ChainEnds first.instructions target)
    (comes : Relation.ReflTransGen (Taken first.instructions) branch.branchTarget target)
    (reached : Reached first state) (retargets : Retargets first branch target state) :
    exists final, Reached first final ∧ final.left < first.left := by
  induction ends generalizing state with
  | @stop target last =>
      have here := retargets.here stands
      have quiet : takenTarget state.instructions target = none := by
        rcases takenTarget_retargeted stands.isBranch (retargets.related stands) target with
          same | ⟨taken, _⟩
        · exact same.trans last
        · rw [last] at taken
          cases taken
      have rounded := round_branch here
      rw [quiet] at rounded
      refine ⟨state.advance, .next reached here.inside rounded, ?_⟩
      rw [← retargets.left stands]
      exact totalWeight_drop here.inside
  | @follow target next taken ends leaves =>
      have here := retargets.here stands
      have rounded := round_branch here
      rcases takenTarget_retargeted stands.isBranch (retargets.related stands) target with
        same | ⟨back, _⟩
      · rw [same.trans taken] at rounded
        exact leaves (comes.tail taken) (.next reached here.inside rounded)
          (retargets.chain stands next)
      · exfalso
        apply (ChainEnds.follow taken ends).acyclic
        exact Relation.TransGen.head' back comes

/-- If the targets do not end, neither does the pass. -/
theorem chain_not_ends (stands : first.AtBranch branch)
    (endless : ¬ ChainEnds first.instructions branch.branchTarget) : ¬ first.Ends := by
  apply not_ends fun state => exists target,
    ¬ ChainEnds first.instructions target ∧ Retargets first branch target state
  · rintro state ⟨target, endless, retargets⟩
    have here := retargets.here stands
    refine ⟨here.inside, ?_⟩
    have rounded := round_branch here
    have taken : exists next, takenTarget first.instructions target = some next := by
      apply Option.ne_none_iff_exists'.mp
      intro last
      exact endless (.stop last)
    rcases taken with ⟨next, taken⟩
    rcases takenTarget_retargeted stands.isBranch (retargets.related stands) target with
      same | ⟨_, stays⟩
    · rw [same.trans taken] at rounded
      refine ⟨_, rounded, next, ?_, retargets.chain stands next⟩
      intro ends
      exact endless (.follow taken ends)
    · rw [stays] at rounded
      exact ⟨_, rounded, target, endless, retargets.chain stands target⟩
  · exact ⟨branch.branchTarget, endless, stands.retargets⟩

end Chains

section Results

/-! ## Whether a pass ends -/

/-- From a position where the pass does not stay for ever it throws or comes to a state
with less work. -/
theorem round_descends {state : PassState} (inside : state.pos < state.instructions.length)
    (moves : ¬ state.Spins) :
    round state = .stuck ∨ exists next, Reached state next ∧ next.left < state.left := by
  rcases round_outcomes inside with throws | ⟨_, advanced⟩ | ⟨rewrite, rest, replaces⟩
  · exact Or.inl throws
  · exact Or.inr ⟨_, .next .start inside advanced, totalWeight_drop inside⟩
  · have atWindow {i : Instruction} {others : List Instruction}
        (isWindow : state.window rewrite = i :: others) :
        state.instructions[state.pos]? = some i ∧
          state.instructions.drop (state.pos + 1) = others ++ rest := by
      have split := replaces.split
      rw [isWindow, List.drop_eq_getElem_cons inside] at split
      injection split with same behind
      refine ⟨?_, behind⟩
      rw [List.getElem?_eq_getElem inside, same]
    rcases replaces.replaced.lighter with
      lighter | ⟨cmp, branch, isWindow, isCmp, isBranch, uses, zero⟩ | ⟨branch, isWindow,
        isBranch⟩
    · refine Or.inr ⟨_, .next .start inside replaces.rounded, ?_⟩
      rw [(replaces.left inside).1, (replaces.left inside).2]
      exact Nat.add_lt_add_right lighter _
    · apply absurd _ moves
      have behind := (atWindow isWindow).2
      have next : state.instructions[state.pos + 1]? = some branch := by
        rw [← Nat.add_zero (state.pos + 1), ← List.getElem?_drop, behind]
        rfl
      refine Or.inl ⟨cmp, branch, (atWindow isWindow).1, next, ?_, ?_, isCmp, isBranch, uses,
        zero, ?_⟩
      · exact (replaces.first cmp _ isWindow).1
      · exact (replaces.first cmp _ isWindow).2
      · constructor
        · apply replaces.unlabelled
          rw [isWindow]
          exact mem_first
        · apply replaces.unlabelled
          rw [isWindow]
          exact mem_second
    · have stands : state.AtBranch branch :=
        { here := (atWindow isWindow).1
          code := (replaces.first branch _ isWindow).1
          plain := (replaces.first branch _ isWindow).2
          isBranch := isBranch
          unlabelled := replaces.unlabelled branch (by
            rw [isWindow]
            exact List.mem_singleton_self branch) }
      have ends : ChainEnds state.instructions branch.branchTarget := by
        by_contra endless
        exact moves (Or.inr ⟨branch, stands, endless⟩)
      exact Or.inr (chain_leaves stands ends .refl .start stands.retargets)

/-- Some measure of the states becomes less in every round of the pass, whether it
rewrites or moves on. -/
def PassState.Descends (initial : PassState) : Prop :=
  exists measure : PassState -> Nat, forall state next, Reached initial state ->
    state.pos < state.instructions.length -> round state = .finished next ->
      measure next < measure state

open Classical in
/-- The rounds that are left are a measure of a pass that ends. -/
theorem PassState.Ends.descends {initial : PassState} (ends : initial.Ends) :
    initial.Descends := by
  refine ⟨fun state => if endsHere : state.Ends then Nat.find endsHere else 0, ?_⟩
  intro state next reached inside rounded
  have endsHere : state.Ends := reached.ends_iff.mp ends
  have endsNext : next.Ends := (ends_iff_next inside rounded).mp endsHere
  dsimp only
  rw [dif_pos endsHere, dif_pos endsNext]
  apply (Nat.lt_find_iff (p := fun fuel => forall reached,
    applyOptimizationPass fuel state ≠ .unfinished reached) endsHere _).mpr
  intro fuel bounded enough
  cases fuel with
  | zero =>
      apply enough next
      simp only [applyOptimizationPass, FueledLoop.iterate, FueledLoop.computing,
        Peephole.inside, decide_eq_true inside, if_true, FueledLoop.sequence, rounded,
        FueledLoop.Outcome.andThen]
  | succ fuel =>
      apply Nat.find_min endsNext (Nat.lt_of_succ_le bounded)
      intro other unfinished
      apply enough other
      rw [applyOptimizationPass, iterate_inside inside rounded]
      exact unfinished

/-- A pass over any records ends, with a result or because a pattern throws, and all its
rounds decrease a measure, if and only if it comes to no position where it stays for
ever. -/
theorem applyOptimizationPass_ends_iff (code : List Instruction) (applied : Nat)
    (matches_ : String -> Nat) :
    ((PassState.start code applied matches_).Ends ∧
        (PassState.start code applied matches_).Descends) <->
      forall state, Reached (.start code applied matches_) state -> ¬ state.Spins := by
  constructor
  · rintro ⟨ends, _⟩ state reached spins
    have endsHere := reached.ends_iff.mp ends
    rcases spins with ⟨cmp, branch, stands⟩ | ⟨branch, stands, endless⟩
    · exact comparison_not_ends stands endsHere
    · exact chain_not_ends stands endless endsHere
  · intro moves
    have fromWork (work : Nat) : forall state,
        Reached (.start code applied matches_) state -> state.left ≤ work -> state.Ends := by
      induction work with
      | zero =>
          intro state reached bounded
          apply ends_of_outside
          intro inside
          have less := totalWeight_drop inside
          unfold PassState.left at bounded
          omega
      | succ work fromLess =>
          intro state reached bounded
          by_cases inside : state.pos < state.instructions.length
          · rcases round_descends inside (moves state reached) with
              throws | ⟨next, comes, less⟩
            · exact ends_of_stuck inside throws
            · exact comes.ends_iff.mpr (fromLess next (reached.trans comes) (by omega))
          · exact ends_of_outside inside
    have ends := fromWork _ _ .start (Nat.le_refl _)
    exact ⟨ends, ends.descends⟩

/-- `CMP X0, #0` and a conditional branch to the label with the empty name. -/
def emptyLabelBranch : List Instruction :=
  [{ operation := .other "CMP x0, #0", assemblyText := "CMP x0, #0", opcode := .cmp,
     srcReg1 := 0, immediate := 0, usesImmediate := true },
    createBranchConditional "EQ" ""]

/-- The encoder makes the two instructions, and the pass over them does not end. -/
theorem emptyLabelBranch_not_ends :
    emptyLabelBranch.map some = [createCmpImm (.x 0) 0, some (createBranchConditional "EQ" "")] ∧
      ¬ (PassState.start emptyLabelBranch 0 fun _ => 0).Ends := by
  refine ⟨by decide, ?_⟩
  exact comparison_not_ends
    { here := rfl, next := rfl, code := rfl, plain := rfl, isCmp := rfl, isBranch := rfl,
      uses := rfl, zero := rfl, unlabelled := ⟨rfl, rfl⟩ }

end Results

end Peephole
end NewBcpl
