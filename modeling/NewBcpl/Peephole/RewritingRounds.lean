import NewBcpl.Peephole.OptimizedStreams

namespace NewBcpl
namespace Peephole

open Foundations

/-!
# Rounds over any records

What a round of a pass can do when nothing is known about where the records come from:
it moves on, it throws, or it replaces a window by one of seven replacements. Five of
them leave less work than the window. A comparison with zero is put back with its branch,
and a branch to a branch takes over the target of the other one.
-/

/-- A window of any records and what replaces it. -/
inductive Replaced : List Instruction -> List Instruction -> Prop
  | toMove {i mov : Instruction} {xd xn : RegisterName}
      (opcode : i.opcode = .add ∨ i.opcode = .sub) (made : createMovReg xd xn = some mov) :
      Replaced [i] [mov]
  | selfMove {i : Instruction} (opcode : i.opcode = .mov) : Replaced [i] []
  | loadAfterStore {str ldr : Instruction} (opcode : str.opcode = .str)
      (opcode' : ldr.opcode = .ldr) : Replaced [str, ldr] [str]
  | redundantLoad {first second mov : Instruction} {xd xn : RegisterName}
      (opcode : first.opcode = .ldr) (opcode' : second.opcode = .ldr)
      (made : createMovReg xd xn = some mov) : Replaced [first, second] [first, mov]
  | deadStore {first second : Instruction} (opcode : first.opcode = .str)
      (opcode' : second.opcode = .str) : Replaced [first, second] [second]
  | comparison {cmp branch : Instruction} (opcode : cmp.opcode = .cmp)
      (opcode' : branch.opcode = .bCond) (uses : cmp.usesImmediate = true)
      (zero : cmp.immediate = 0) : Replaced [cmp, branch] [cmp, branch]
  | chained {branch : Instruction} (opcode : branch.opcode = .b) (target : String) :
      Replaced [branch] [{ branch with branchTarget := target }]

section Patterns

/-! ## From patterns to windows -/

/-- What a matching pattern does at a position: it throws, it replaces a window, or its
window carries a label reference. -/
def Acts (pattern : InstructionPattern) (instrs : List Instruction) (pos : Nat) : Prop :=
  pattern.transformer instrs pos = none ∨
    exists window rest replacements, instrs.drop pos = window ++ rest ∧
      (pattern.matcher instrs pos).length = window.length ∧
      pattern.transformer instrs pos = some replacements ∧
      (Replaced window replacements ∨
        wouldBreakLabelReferences instrs pos window.length replacements = true)

variable {instrs : List Instruction} {pos : Nat}

/-- What a pattern on one instruction does. -/
theorem onOne_acts {test : Instruction -> Bool}
    {replacements : Instruction -> Option (List Instruction)} {description : String}
    (replaces : forall i made, test i = true -> replacements i = some made ->
      Replaced [i] made)
    (matched : ((InstructionPattern.onOne test replacements description).matcher
      instrs pos).matched = true) :
    Acts (.onOne test replacements description) instrs pos := by
  rcases onOne_matched matched with ⟨i, rest, here, holds, length, transformed⟩
  cases made : replacements i with
  | none => exact Or.inl (transformed.trans made)
  | some window =>
      exact Or.inr ⟨[i], rest, window, here, length, transformed.trans made,
        Or.inl (replaces i window holds made)⟩

/-- What a pattern on two instructions does. -/
theorem onTwo_acts {test : Instruction -> Instruction -> Bool}
    {replacements : Instruction -> Instruction -> Option (List Instruction)}
    {description : String}
    (replaces : forall first second made, test first second = true ->
      replacements first second = some made ->
        Replaced [first, second] made ∨ (first.targetLabel == "") = false)
    (matched : ((InstructionPattern.onTwo test replacements description).matcher
      instrs pos).matched = true) :
    Acts (.onTwo test replacements description) instrs pos := by
  rcases onTwo_matched matched with ⟨first, second, rest, here, holds, length, transformed⟩
  cases made : replacements first second with
  | none => exact Or.inl (transformed.trans made)
  | some window =>
      refine Or.inr ⟨[first, second], rest, window, here, length, transformed.trans made, ?_⟩
      rcases replaces first second window holds made with replaced | labelled
      · exact Or.inl replaced
      · apply Or.inr
        rw [wouldBreakLabelReferences, here, List.take_left' rfl, List.any_cons, labelled]
        rfl

theorem identity_replaces {i : Instruction} {made : List Instruction}
    (opcode : i.opcode = .add ∨ i.opcode = .sub)
    (transformed : (do
      let xd <- getRegisterName i.destReg
      let xn <- getRegisterName i.srcReg1
      let mov <- createMovReg xd xn
      some [mov]) = some made) : Replaced [i] made := by
  simp only [Option.bind_eq_bind, Option.bind_eq_some_iff, Option.some.injEq] at transformed
  rcases transformed with ⟨xd, _, xn, _, mov, isMove, rfl⟩
  exact .toMove opcode isMove

theorem redundantLoad_replaces {first second : Instruction} {made : List Instruction}
    (opcode : first.opcode = .ldr) (opcode' : second.opcode = .ldr)
    (transformed : (do
      let xd <- getRegisterName second.destReg
      let xn <- getRegisterName first.destReg
      let newMov <- createMovReg xd xn
      some [first, newMov]) = some made) : Replaced [first, second] made := by
  simp only [Option.bind_eq_bind, Option.bind_eq_some_iff, Option.some.injEq] at transformed
  rcases transformed with ⟨xd, _, xn, _, mov, isMove, rfl⟩
  exact .redundantLoad opcode opcode' isMove

/-- The target that a branch to a target takes over: none if no branch is the first
instruction behind the label, and its own target again if that branch does not follow the
label at once. -/
def takenTarget (instrs : List Instruction) (target : String) : Option String :=
  if target = "" then none
  else
    match behindLabel target instrs with
    | none => none
    | some rest =>
        match rest.find? fun instr => !isSpecialInstruction instr with
        | none => none
        | some first =>
            if first.opcode = .b then
              match rest with
              | [] => none
              | next :: _ => if next.opcode = .b then some next.branchTarget else some target
            else none

/-- Branch chaining matches a branch that takes over a target, and replaces it by the
branch to that target. -/
theorem branchChaining_spec {branch : Instruction} (here : instrs[pos]? = some branch)
    (opcode : branch.opcode = .b) :
    match takenTarget instrs branch.branchTarget with
    | none => createBranchChainingPattern.matcher instrs pos = .failure
    | some target =>
        createBranchChainingPattern.matcher instrs pos = { matched := true, length := 1 } ∧
          createBranchChainingPattern.transformer instrs pos =
            some [{ branch with branchTarget := target }] := by
  have notOther : ¬ branch.opcode ≠ .b := fun other => other opcode
  simp only [createBranchChainingPattern, here, takenTarget, if_neg notOther]
  by_cases isEmpty : branch.branchTarget = ""
  · simp only [if_pos isEmpty]
  · simp only [if_neg isEmpty]
    cases behind : behindLabel branch.branchTarget instrs with
    | none => rfl
    | some rest =>
        dsimp only
        cases found : rest.find? fun instr => !isSpecialInstruction instr with
        | none => rfl
        | some first =>
            dsimp only
            by_cases isBranch : first.opcode = .b
            · cases rest with
              | nil => cases found
              | cons next others =>
                  by_cases atOnce : next.opcode = .b
                  · simp only [isBranch, atOnce, if_true]
                    exact ⟨rfl, trivial⟩
                  · simp only [isBranch, atOnce, if_true, if_false]
                    exact ⟨rfl, trivial⟩
            · have silent : (first.opcode == .b) = false := beq_eq_false_iff_ne.mpr isBranch
              simp only [if_neg isBranch, silent]
              rfl

theorem branchChaining_acts
    (matched : (createBranchChainingPattern.matcher instrs pos).matched = true) :
    Acts createBranchChainingPattern instrs pos := by
  cases here : instrs[pos]? with
  | none =>
      simp only [createBranchChainingPattern, here] at matched
      cases matched
  | some branch =>
      by_cases opcode : branch.opcode = .b
      · have spec := branchChaining_spec here opcode
        cases taken : takenTarget instrs branch.branchTarget with
        | none =>
            rw [taken] at spec
            rw [spec] at matched
            cases matched
        | some target =>
            rw [taken] at spec
            exact Or.inr ⟨[branch], _, _, drop_of_getElem? here,
              congrArg MatchResult.length spec.1, spec.2, Or.inl (.chained opcode target)⟩
      · simp only [createBranchChainingPattern, here, if_pos opcode] at matched
        cases matched

/-- Every registered pattern that matches acts. -/
theorem registered_acts {pattern : InstructionPattern} (member : pattern ∈ registeredPatterns)
    (matched : (pattern.matcher instrs pos).matched = true) : Acts pattern instrs pos := by
  simp only [registeredPatterns, List.mem_cons, List.not_mem_nil, or_false] at member
  rcases member with rfl | rfl | rfl | rfl | rfl | rfl | rfl | rfl | rfl | rfl | rfl | rfl |
    rfl | rfl
  · exact absurd matched (placeholder_silent _)
  · apply onOne_acts _ matched
    intro i made test transformed
    simp only [Bool.and_eq_true, Bool.or_eq_true, beq_iff_eq] at test
    exact identity_replaces test.1.1 transformed
  · apply onOne_acts _ matched
    intro i made test transformed
    simp only [Bool.and_eq_true, beq_iff_eq] at test
    cases transformed
    exact .selfMove test.1
  · apply onOne_acts _ matched
    intro i made test transformed
    simp only [Bool.and_eq_true, beq_iff_eq] at test
    cases transformed
    exact .selfMove test.1
  · apply onTwo_acts _ matched
    intro adrp add made test _
    simp only [Bool.and_eq_true, Bool.not_eq_true', Bool.or_eq_false_iff] at test
    exact Or.inr test.1.2.1
  · exact absurd matched (placeholder_silent _)
  · exact absurd matched (placeholder_silent _)
  · exact absurd matched (placeholder_silent _)
  · apply onTwo_acts _ matched
    intro str ldr made test transformed
    simp only [Bool.and_eq_true, beq_iff_eq] at test
    cases transformed
    exact Or.inl (.loadAfterStore test.1.1.1 test.1.1.2)
  · apply onTwo_acts _ matched
    intro first second made test transformed
    simp only [Bool.and_eq_true, beq_iff_eq] at test
    exact Or.inl (redundantLoad_replaces test.1.1.1 test.1.1.2 transformed)
  · apply onTwo_acts _ matched
    intro first second made test transformed
    simp only [Bool.and_eq_true, beq_iff_eq] at test
    cases transformed
    exact Or.inl (.deadStore test.1.1 test.1.2)
  · apply onTwo_acts _ matched
    intro first second made test transformed
    simp only [Bool.and_eq_true, beq_iff_eq] at test
    cases transformed
    exact Or.inl (.deadStore test.1.1.1 test.1.1.2)
  · apply onTwo_acts _ matched
    intro cmp branch made test transformed
    simp only [Bool.and_eq_true, beq_iff_eq] at test
    cases transformed
    exact Or.inl (.comparison test.1.1.1 test.1.1.2 test.1.2 test.2)
  · exact branchChaining_acts matched

/-- The patterns throw, none of them may be applied, or the first one that may replaces
a window that carries no label reference. -/
theorem firstRewrite_outcomes {patterns : List InstructionPattern}
    (acts : forall pattern, pattern ∈ patterns ->
      (pattern.matcher instrs pos).matched = true -> Acts pattern instrs pos) :
    firstRewrite instrs pos patterns = none ∨ firstRewrite instrs pos patterns = some none ∨
      exists window rest rewrite, firstRewrite instrs pos patterns = some (some rewrite) ∧
        instrs.drop pos = window ++ rest ∧ rewrite.length = window.length ∧
        (forall i, i ∈ window -> i.targetLabel = "") ∧
        Replaced window rewrite.replacements := by
  induction patterns with
  | nil => exact Or.inr (Or.inl rfl)
  | cons pattern patterns outcomes =>
      have rest := outcomes fun other member => acts other (List.mem_cons_of_mem _ member)
      by_cases matched : (pattern.matcher instrs pos).matched = true
      · rcases acts pattern List.mem_cons_self matched with
          throws | ⟨window, after, replacements, here, length, transformed, outcome⟩
        · simp only [firstRewrite, if_pos matched, throws]
          exact Or.inl trivial
        · simp only [firstRewrite, if_pos matched, transformed, length]
          by_cases breaks :
              wouldBreakLabelReferences instrs pos window.length replacements = true
          · rw [if_pos breaks]
            exact rest
          · rw [if_neg breaks]
            refine Or.inr (Or.inr ⟨window, after, _, rfl, here, rfl, ?_,
              outcome.resolve_right breaks⟩)
            intro i member
            rw [wouldBreakLabelReferences, here, List.take_left' rfl, List.any_eq_true] at breaks
            by_contra labelled
            exact breaks ⟨i, member, by simp [labelled]⟩
      · simp only [firstRewrite, if_neg matched]
        exact rest

end Patterns

section Rounds

/-! ## What a round does -/

/-- A round whose instruction the pass rewrites is what the patterns say. -/
theorem round_of_rewriteAt {state : PassState} {instr : Instruction}
    (here : state.instructions[state.pos]? = some instr) {result : Option (Option Rewrite)}
    (rewriting : rewriteAt state instr = result) :
    state.pending = result.join ∧ round state =
      match result with
      | none => .stuck
      | some none => .finished state.advance
      | some (some rewrite) => .finished (state.replace rewrite) := by
  constructor
  · simp only [PassState.pending, here, rewriting]
  · simp only [round, here, rewriting]
    rcases result with _ | _ | rewrite <;> rfl

/-- A window that a round replaces. -/
structure PassState.Replaces (state : PassState) (rewrite : Rewrite)
    (rest : List Instruction) : Prop where
  pending : state.pending = some rewrite
  rounded : round state = .finished (state.replace rewrite)
  split : state.instructions.drop state.pos = state.window rewrite ++ rest
  length : rewrite.length = (state.window rewrite).length
  unlabelled : forall i, i ∈ state.window rewrite -> i.targetLabel = ""
  first : forall i others, state.window rewrite = i :: others ->
    i.segment = .code ∧ isSpecialInstruction i = false
  replaced : Replaced (state.window rewrite) rewrite.replacements

/-- A round over any records throws, moves on, or replaces a window. -/
theorem round_outcomes {state : PassState}
    (inside : state.pos < state.instructions.length) :
    round state = .stuck ∨
      (state.pending = none ∧ round state = .finished state.advance) ∨
      exists rewrite rest, state.Replaces rewrite rest := by
  have here : state.instructions[state.pos]? = some state.instructions[state.pos] :=
    List.getElem?_eq_getElem inside
  by_cases other : state.instructions[state.pos].segment ≠ .code
  · exact Or.inr (Or.inl (round_of_rewriteAt here (if_pos other)))
  by_cases special : isSpecialInstruction state.instructions[state.pos] = true
  · exact Or.inr (Or.inl (round_of_rewriteAt here ((if_neg other).trans (if_pos special))))
  have rewriting : rewriteAt state state.instructions[state.pos] =
      firstRewrite state.instructions state.pos registeredPatterns :=
    (if_neg other).trans (if_neg special)
  have acts (pattern : InstructionPattern) (member : pattern ∈ registeredPatterns)
      (matched : (pattern.matcher state.instructions state.pos).matched = true) :
      Acts pattern state.instructions state.pos := registered_acts member matched
  have outcomes := firstRewrite_outcomes acts
  rcases outcomes with throws | quiet | ⟨window, rest, rewrite, found, split, length,
      unlabelled, replaced⟩
  · exact Or.inl (round_of_rewriteAt here (rewriting.trans throws)).2
  · exact Or.inr (Or.inl (round_of_rewriteAt here (rewriting.trans quiet)))
  · have isWindow : state.window rewrite = window := by
      rw [PassState.window, split, length, List.take_left' rfl]
    rcases round_of_rewriteAt here (rewriting.trans found) with ⟨pending, rounded⟩
    refine Or.inr (Or.inr ⟨rewrite, rest, pending, rounded, ?_, ?_, ?_, ?_, ?_⟩)
    · rw [isWindow]
      exact split
    · rw [isWindow]
      exact length
    · rw [isWindow]
      exact unlabelled
    · intro i others isFirst
      rw [isWindow] at isFirst
      rw [isFirst, List.cons_append, List.drop_eq_getElem_cons inside] at split
      injection split with same _
      rw [← same]
      exact ⟨not_not.mp other, Bool.not_eq_true _ ▸ special⟩
    · rw [isWindow]
      exact replaced

theorem weight_createMovReg {xd xn : RegisterName} {mov : Instruction}
    (made : createMovReg xd xn = some mov) : weight mov = 1 := by
  rcases createMovReg_some made with ⟨_, _, _, _, rfl⟩
  rfl

/-- A replacement that is not less work than its window is that of a comparison or of a
branch. -/
theorem Replaced.lighter {window replacements : List Instruction}
    (replaced : Replaced window replacements) :
    totalWeight replacements < totalWeight window ∨
      (exists cmp branch, window = [cmp, branch] ∧ cmp.opcode = .cmp ∧
        branch.opcode = .bCond ∧ cmp.usesImmediate = true ∧ cmp.immediate = 0) ∨
      exists branch, window = [branch] ∧ branch.opcode = .b := by
  cases replaced with
  | toMove opcode made =>
      left
      have heavy : weight _ = 2 := if_pos (opcode.elim Or.inl fun sub => Or.inr (Or.inl sub))
      simp [totalWeight, heavy, weight_createMovReg made]
  | selfMove _ =>
      left
      simpa [totalWeight] using weight_positive _
  | loadAfterStore _ _ =>
      left
      simpa [totalWeight] using weight_positive _
  | redundantLoad _ opcode' made =>
      left
      have heavy : weight _ = 2 := if_pos (Or.inr (Or.inr opcode'))
      simp [totalWeight, heavy, weight_createMovReg made]
  | deadStore _ _ =>
      left
      simpa [totalWeight] using weight_positive _
  | comparison opcode opcode' uses zero =>
      exact Or.inr (Or.inl ⟨_, _, rfl, opcode, opcode', uses, zero⟩)
  | chained opcode _ => exact Or.inr (Or.inr ⟨_, rfl, opcode⟩)

/-- The work that is left after a window was replaced. -/
theorem PassState.Replaces.left {state : PassState} {rewrite : Rewrite}
    {rest : List Instruction} (replaces : state.Replaces rewrite rest)
    (inside : state.pos < state.instructions.length) :
    (state.replace rewrite).left = totalWeight rewrite.replacements + totalWeight rest ∧
      state.left = totalWeight (state.window rewrite) + totalWeight rest := by
  have taken : (state.instructions.take state.pos).length = state.pos :=
    List.length_take_of_le (Nat.le_of_lt inside)
  constructor
  · simp only [PassState.left, PassState.replace,
      drop_replaced replaces.split replaces.length]
    rw [List.drop_left' taken, totalWeight_append]
  · rw [PassState.left, replaces.split, totalWeight_append]

end Rounds

end Peephole
end NewBcpl
