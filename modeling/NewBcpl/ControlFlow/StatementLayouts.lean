import NewBcpl.ControlFlow.GraphExecution
import NewBcpl.Foundations.LongRuns

namespace NewBcpl
namespace ControlFlow

open StateTransition
open Foundations.LongRuns

/-!
# Statements laid out in a graph

A statement is laid out in a graph between a point and the point behind it, if there is one:
this says which blocks the statement has there, not how they came to be. Wherever a structured
statement is laid out, the graph runs as the meaning of the statement says, through all rounds
of its loops, and goes on where its outcome leads.
-/

/-- What is laid out: a statement, or statements in turn. -/
inductive Part where
  | statement (statement : Statement)
  | sequence (statements : List Statement)

/-- The code of the statements that have no branches. -/
def straightCode : Statement -> Option (List Statement)
  | .letDeclaration names initializers => some (initializations names initializers)
  | .assignment lhs rhs => some [.assignment lhs rhs]
  | .routineCall routine arguments => some [.routineCall routine arguments]
  | .stringStatement size => some [.stringStatement size]
  | .brk => some [.brk]
  | _ => none

/-- The statements that leave a routine. -/
def isLeaving : Statement -> Bool
  | .returnStatement | .resultis _ => true
  | _ => false

/-- The target of a jump out of a construct. -/
def Targets.ofJump (targets : Targets) : Statement -> Option Nat
  | .breakStatement => targets.breaks.head?
  | .loop => targets.loops.head?
  | .endcase => targets.endcases.head?
  | _ => none

section Layouts

variable (graph : Nat -> BasicBlock)

/-- The code from a point to the end of its block, and the successors there. -/
def Ends (point : Point) (code : List Statement) (successors : List Nat) : Prop :=
  (graph point.block).statements.drop point.index = code ∧
    (graph point.block).successors = successors

/-- Control that comes to the end of a part goes on to a block. -/
def Joins (last : Option Point) (target : Nat) : Prop :=
  forall point, last = some point -> Ends graph point [] [target]

/-- A part of a routine in the graph, from a point to the point behind it. Nothing is said of
statements that control does not reach. -/
inductive Laid (exit : Option Nat) : Targets -> Part -> Point -> Option Point -> Prop where
  | straight {targets : Targets} {statement : Statement} {code : List Statement}
      (point : Point) : straightCode statement = some code ->
      code <+: (graph point.block).statements.drop point.index ->
      Laid exit targets (.statement statement) point
        (some ⟨point.block, point.index + code.length⟩)
  | ifStatement {targets : Targets} {condition : Expression} {thenBranch : Statement}
      {point : Point} {first join : Nat} {last : Option Point} :
      Ends graph point [.ifStatement condition thenBranch] [first, join] ->
      Laid exit targets (.statement thenBranch) (.head first) last ->
      Joins graph last join ->
      Laid exit targets (.statement (.ifStatement condition thenBranch)) point
        (some (.head join))
  | forStatement {targets : Targets} {loopVariable uniqueName : String}
      {startExpr endExpr : Expression} {stepExpr : Option Expression} {body : Statement}
      {point : Point} {header first advance exitBlock : Nat} {last : Option Point} :
      Ends graph point [assignVariable uniqueName startExpr] [header] ->
      Ends graph (.head header)
        [.forStatement loopVariable uniqueName startExpr endExpr stepExpr body]
        [first, exitBlock] ->
      Laid exit (targets.insideLoop exitBlock advance) (.statement body) (.head first) last ->
      Joins graph last advance ->
      Ends graph (.head advance) [increment uniqueName stepExpr] [header] ->
      Laid exit targets (.statement
        (.forStatement loopVariable uniqueName startExpr endExpr stepExpr body)) point
        (some (.head exitBlock))
  | switchon {targets : Targets} {expression : Expression} {cases : List CaseStatement}
      {defaultCase : Option Statement} {point : Point} {header first join : Nat}
      (last : Nat -> Option Point) :
      (forall branch, branch ∈ cases -> isComparable branch = true) ->
      Ends graph point [] [header] ->
      Ends graph (.head header) [.switchon expression cases defaultCase]
        (List.range' first cases.length ++
          (if defaultCase.isSome then [first + cases.length] else []) ++ [join]) ->
      (forall (index : Nat) branch, cases[index]? = some branch ->
        Laid exit (targets.insideSwitch join) (.statement branch.command)
          (.head (first + index)) (last index)) ->
      (forall command, defaultCase = some command ->
        Laid exit (targets.insideSwitch join) (.statement command)
          (.head (first + cases.length)) (last cases.length)) ->
      (forall index, Joins graph (last index) join) ->
      Laid exit targets (.statement (.switchon expression cases defaultCase)) point
        (some (.head join))
  | jump {targets : Targets} {statement : Statement} {point : Point} {target : Nat} :
      targets.ofJump statement = some target -> Ends graph point [statement] [target] ->
      Laid exit targets (.statement statement) point none
  | leave {targets : Targets} {statement : Statement} {point : Point} {target : Nat} :
      isLeaving statement = true -> exit = some target ->
      Ends graph point [statement] [target] ->
      Laid exit targets (.statement statement) point none
  | finish {targets : Targets} {point : Point} : Ends graph point [.finish] [] ->
      Laid exit targets (.statement .finish) point none
  | compound {targets : Targets} {statements : List Statement} {point : Point}
      {last : Option Point} : Laid exit targets (.sequence statements) point last ->
      Laid exit targets (.statement (.compound statements)) point last
  | block {targets : Targets} {declarations : List Declaration}
      {statements : List Statement} {point : Point} {last : Option Point} :
      Laid exit targets (.sequence statements) point last ->
      Laid exit targets (.statement (.block declarations statements)) point last
  | nil {targets : Targets} (point : Point) :
      Laid exit targets (.sequence []) point (some point)
  | cons {targets : Targets} {first : Statement} {rest : List Statement}
      {point middle : Point} {last : Option Point} :
      Laid exit targets (.statement first) point (some middle) ->
      Laid exit targets (.sequence rest) middle last ->
      Laid exit targets (.sequence (first :: rest)) point last
  | unreached {targets : Targets} {first : Statement} {rest : List Statement} {point : Point}
      {last : Option Point} : Laid exit targets (.statement first) point none ->
      Laid exit targets (.sequence (first :: rest)) point last

/-- Where an outcome leads. -/
def Leads (exit : Option Nat) (targets : Targets) (last : Option Point) (outcome : Outcome)
    (point : Point) : Prop :=
  match outcome with
  | .normal => last = some point
  | .broken => targets.breaks.head?.map Point.head = some point
  | .looped => targets.loops.head?.map Point.head = some point
  | .endcased => targets.endcases.head?.map Point.head = some point
  | .left => exit.map Point.head = some point
  | .finished => Ends graph point [] [] ∧
      (graph point.block).statements.getLast? = some .finish

/-- A part that does not end normally leads to the same place whatever comes behind it. -/
theorem Leads.elsewhere {graph : Nat -> BasicBlock} {exit : Option Nat} {targets : Targets}
    {last : Option Point} {outcome : Outcome} {point : Point}
    (led : Leads graph exit targets last outcome point) (other : outcome ≠ .normal)
    (behind : Option Point) : Leads graph exit targets behind outcome point := by
  cases outcome with
  | normal => exact absurd rfl other
  | broken | looped | endcased | left | finished => exact led

end Layouts

section Execution

variable {State : Type} {meaning : Meaning State} {graph : Nat -> BasicBlock}
  {point : Point} {state : State} {statement : Statement} {target : Nat}

theorem step_at (found : (graph point.block).statements[point.index]? = some statement) :
    meaning.step graph (point, state) =
      some (⟨point.block, point.index + 1⟩, meaning.effect statement state) := by
  unfold Meaning.step
  rw [found]

theorem step_end {successors : List Nat} (ends : Ends graph point [] successors) :
    meaning.step graph (point, state) =
      (meaning.leaveBlock (graph point.block) state).map fun next =>
        (Point.head next.1, next.2) := by
  unfold Meaning.step
  rw [List.getElem?_eq_none (List.drop_eq_nil_iff.mp ends.1)]

theorem step_join (ends : Ends graph point [] [target]) :
    meaning.step graph (point, state) = some (.head target, state) := by
  rw [step_end ends]
  unfold Meaning.leaveBlock
  rw [ends.2]
  rfl

/-- The last statement of a block. -/
theorem Ends.one {successors : List Nat} (ends : Ends graph point [statement] successors) :
    (graph point.block).statements[point.index]? = some statement ∧
      Ends graph ⟨point.block, point.index + 1⟩ [] successors ∧
      (graph point.block).statements.getLast? = some statement := by
  have split := List.take_append_drop point.index (graph point.block).statements
  rw [ends.1] at split
  refine ⟨?_, ⟨?_, ends.2⟩, ?_⟩
  · rw [<- List.head?_drop, ends.1]
    rfl
  · rw [<- List.drop_drop, ends.1]
    rfl
  · rw [<- split, List.getLast?_concat]

/-- A last statement and the branch behind it. -/
theorem Ends.reaches (ends : Ends graph point [statement] [target]) :
    Reaches (meaning.step graph) (point, state)
      (.head target, meaning.effect statement state) :=
  .head (step_at ends.one.1) (.single (step_join ends.one.2.1))

/-- A statement that decides between the successors of its block. -/
theorem Ends.decides {successors : List Nat} {next : Nat × State}
    (ends : Ends graph point [statement] successors) (nothing : emitsNothing statement = true)
    (leaves : meaning.leaveBlock (graph point.block) state = some next) :
    meaning.step graph (point, state) = some (⟨point.block, point.index + 1⟩, state) ∧
      Reaches (meaning.step graph) (⟨point.block, point.index + 1⟩, state)
        (.head next.1, next.2) := by
  constructor
  · rw [step_at ends.one.1]
    unfold Meaning.effect
    rw [if_pos nothing]
  · apply Relation.ReflTransGen.single
    rw [step_end ends.one.2.1]
    change Option.map _ (meaning.leaveBlock (graph point.block) state) = _
    rw [leaves]
    rfl

/-- Statements that emit code in turn. -/
theorem reaches_straight {code : List Statement}
    (emits : forall statement, statement ∈ code -> emitsNothing statement = false)
    (laid : code <+: (graph point.block).statements.drop point.index) :
    Reaches (meaning.step graph) (point, state)
      (⟨point.block, point.index + code.length⟩, meaning.performAll code state) := by
  induction code generalizing point state with
  | nil => exact .refl
  | cons first rest ih =>
      rcases laid with ⟨others, same⟩
      have found : (graph point.block).statements[point.index]? = some first := by
        rw [<- List.head?_drop, <- same]
        rfl
      have later : rest <+: (graph point.block).statements.drop (point.index + 1) := by
        rw [<- List.drop_drop, <- same]
        exact ⟨others, rfl⟩
      have onward := @ih ⟨point.block, point.index + 1⟩ (meaning.perform first state)
        (fun statement member => emits statement (List.mem_cons_of_mem _ member)) later
      have taken : meaning.step graph (point, state) =
          some (⟨point.block, point.index + 1⟩, meaning.perform first state) := by
        rw [step_at found]
        unfold Meaning.effect
        rw [if_neg (by rw [emits first List.mem_cons_self]; exact Bool.false_ne_true)]
      rw [List.length_cons, Nat.add_comm rest.length, <- Nat.add_assoc]
      exact .head taken onward

theorem straightCode_emits {code : List Statement} (straight : straightCode statement = some code) :
    forall other, other ∈ code -> emitsNothing other = false := by
  intro other member
  unfold straightCode at straight
  split at straight <;> cases straight
  case h_1 =>
    rcases List.mem_map.mp member with ⟨_, _, rfl⟩
    rfl
  all_goals
    rw [List.mem_singleton.mp member]
    rfl

theorem run_straight {code : List Statement} (straight : straightCode statement = some code)
    (fuel : Nat) : meaning.run fuel statement state =
      some (.normal, meaning.performAll code state) := by
  unfold straightCode at straight
  split at straight
  all_goals first
    | (cases straight; simp [Meaning.run, Meaning.performAll])
    | cases straight

/-- The graph runs from a configuration as a result says, for a number of steps at least where
there is no result. -/
def Follows (meaning : Meaning State) (graph : Nat -> BasicBlock) (count : Nat)
    (leads : Outcome -> Point -> Prop) (config : Point × State)
    (result : Option (Outcome × State)) : Prop :=
  match result with
  | none => Lasts (meaning.step graph) count config
  | some (outcome, final) =>
      exists last, leads outcome last ∧ Reaches (meaning.step graph) config (last, final)

namespace Follows

variable {count : Nat} {leads others : Outcome -> Point -> Prop} {config next : Point × State}
  {result : Option (Outcome × State)}

theorem after (reaches : Reaches (meaning.step graph) config next)
    (follows : Follows meaning graph count leads next result) :
    Follows meaning graph count leads config result := by
  cases result with
  | none => exact Lasts.after reaches follows
  | some pair =>
      rcases follows with ⟨last, led, onward⟩
      exact ⟨last, led, reaches.trans onward⟩

/-- One step more. -/
theorem step (taken : meaning.step graph config = some next)
    (follows : Follows meaning graph count leads next result) :
    Follows meaning graph (count + 1) leads config result := by
  cases result with
  | none => exact ⟨next, taken, follows⟩
  | some pair =>
      rcases follows with ⟨last, led, onward⟩
      exact ⟨last, led, .head taken onward⟩

/-- The ways on from where a part has led. -/
theorem onward (rename : Outcome -> Outcome)
    (follows : Follows meaning graph count leads config result)
    (goesOn : forall outcome last, leads outcome last -> forall final : State,
      exists end_, others (rename outcome) end_ ∧
        Reaches (meaning.step graph) (last, final) (end_, final)) :
    Follows meaning graph count others config
      (result.map fun pair => (rename pair.1, pair.2)) := by
  cases result with
  | none => exact follows
  | some pair =>
      rcases follows with ⟨last, led, reaches⟩
      rcases goesOn pair.1 last led pair.2 with ⟨end_, ledOn, further⟩
      exact ⟨end_, ledOn, reaches.trans further⟩

/-- One statement and, if it ends normally, the statements behind it. -/
theorem sequence {exit : Option Nat} {targets : Targets} {middle behind : Option Point}
    {first : Statement} {rest : List Statement}
    (follows : Follows meaning graph count (Leads graph exit targets middle) config
      (meaning.run count first state))
    (goesOn : forall point final, middle = some point ->
      Follows meaning graph count (Leads graph exit targets behind) (point, final)
        (meaning.runAll count rest final)) :
    Follows meaning graph count (Leads graph exit targets behind) config
      (meaning.runAll count (first :: rest) state) := by
  simp only [Meaning.runAll]
  cases result : meaning.run count first state with
  | none =>
      rw [result] at follows
      exact follows
  | some pair =>
      rcases pair with ⟨outcome, final⟩
      rw [result] at follows
      rcases follows with ⟨led, leads, reaches⟩
      cases outcome with
      | normal => exact Follows.after reaches (goesOn led final leads)
      | broken | looped | endcased | left | finished => exact ⟨led, leads, reaches⟩

end Follows

/-- The rounds of a `FOR`: every round takes a step at least, so a loop that uses up its fuel
lasts as long. -/
theorem follows_rounds {exit : Option Nat} {header first advance exitBlock fuel : Nat}
    {targets : Targets} {loopVariable uniqueName : String} {startExpr endExpr : Expression}
    {stepExpr : Option Expression} {body : Statement} {last : Option Point}
    (tests : Ends graph (.head header)
      [.forStatement loopVariable uniqueName startExpr endExpr stepExpr body]
      [first, exitBlock])
    (follows : forall state, Follows meaning graph fuel
      (Leads graph exit (targets.insideLoop exitBlock advance) last) (.head first, state)
      (meaning.run fuel body state))
    (joins : Joins graph last advance)
    (advances : Ends graph (.head advance) [increment uniqueName stepExpr] [header])
    (rounds : Nat) (le : rounds ≤ fuel) (state : State) :
    Follows meaning graph rounds (Leads graph exit targets (some (.head exitBlock)))
      (.head header, state)
      (meaning.runRounds uniqueName endExpr stepExpr (fun state => meaning.run fuel body state)
        rounds state) := by
  induction rounds generalizing state with
  | zero => trivial
  | succ rounds ih =>
      have leaves : meaning.leaveBlock (graph header) state =
          some (if (meaning.evaluate endExpr state).1.slt (meaning.load uniqueName state)
            then exitBlock else first, (meaning.evaluate endExpr state).2) := by
        have isLast : (graph header).statements.getLast? = _ := tests.one.2.2
        have decides : (graph header).successors = _ := tests.2
        unfold Meaning.leaveBlock
        rw [decides, isLast]
      rcases tests.decides rfl leaves with ⟨taken, branches⟩
      apply Follows.step taken
      apply Follows.after branches
      unfold Meaning.runRounds
      dsimp only
      split
      · exact ⟨_, rfl, .refl⟩
      · have bodyFollows := follows (meaning.evaluate endExpr state).2
        -- the block of the increment leads back to the header
        have again : forall final : State, Follows meaning graph rounds
            (Leads graph exit targets (some (.head exitBlock))) (.head advance, final)
            (meaning.runRounds uniqueName endExpr stepExpr
              (fun state => meaning.run fuel body state) rounds
              (meaning.perform (increment uniqueName stepExpr) final)) :=
          fun final => Follows.after advances.reaches (ih (Nat.le_of_succ_le le) _)
        cases result : meaning.run fuel body (meaning.evaluate endExpr state).2 with
        | none =>
            rw [result] at bodyFollows
            exact Lasts.of_le bodyFollows (Nat.le_of_succ_le le)
        | some pair =>
            rw [result] at bodyFollows
            rcases pair with ⟨outcome, final⟩
            rcases bodyFollows with ⟨point, led, reaches⟩
            cases outcome with
            | normal =>
                refine Follows.after (reaches.trans ?_) (again final)
                exact .single (step_join (joins point led))
            | looped =>
                cases led
                exact Follows.after reaches (again final)
            | broken =>
                cases led
                exact ⟨_, rfl, reaches⟩
            | endcased | left | finished => exact ⟨point, led, reaches⟩

theorem comparedWith_of_comparable {branch : CaseStatement}
    (comparable : isComparable branch = true) :
    exists constant, branch.resolvedConstantValue = some constant ∧
      comparedWith constant = some constant := by
  rcases Option.any_eq_true .. |>.mp comparable with ⟨constant, found, small⟩
  refine ⟨constant, found, ?_⟩
  have low : constant.toNat < 4096 := by simpa [BitVec.ult] using small
  have immediate : (constant.setWidth 32).ult 4096#32 = true := by
    simp [BitVec.ult]
    omega
  unfold comparedWith
  rw [if_pos immediate, Option.some.injEq]
  apply BitVec.eq_of_toNat_eq
  simp
  omega

/-- The comparisons find the case that is run. -/
theorem chosen_case {fuel : Nat} {otherwise : State -> Option (Outcome × State)} {value : Word}
    {cases : List CaseStatement}
    (comparable : forall branch, branch ∈ cases -> isComparable branch = true) :
    exists constants, cases.mapM (fun branch =>
        branch.resolvedConstantValue.bind comparedWith) = some constants ∧
      ((constants.findIdx? (· == value) = none ∧
          meaning.runCases fuel value otherwise cases state = otherwise state) ∨
        exists index branch, constants.findIdx? (· == value) = some index ∧
          cases[index]? = some branch ∧
          meaning.runCases fuel value otherwise cases state =
            meaning.run fuel branch.command state) := by
  induction cases with
  | nil => exact ⟨[], rfl, Or.inl ⟨rfl, by simp [Meaning.runCases]⟩⟩
  | cons branch rest ih =>
      rcases branch with ⟨constantExpr, resolved, command⟩
      rcases comparedWith_of_comparable (comparable _ List.mem_cons_self) with
        ⟨constant, isResolved, compares⟩
      rcases ih fun branch member => comparable branch (List.mem_cons_of_mem _ member) with
        ⟨constants, mapped, chosen⟩
      change resolved = some constant at isResolved
      subst isResolved
      refine ⟨constant :: constants, ?_, ?_⟩
      · rw [List.mapM_cons, mapped]
        change (comparedWith constant).bind _ = _
        rw [compares]
        rfl
      · rw [List.findIdx?_cons]
        by_cases same : constant = value
        · refine Or.inr ⟨0, .mk constantExpr (some constant) command, ?_, rfl, ?_⟩
          · simp [same]
          · simp [Meaning.runCases, same, CaseStatement.command]
        · have notFirst : (constant == value) = false := beq_false_of_ne same
          have skips : meaning.runCases fuel value otherwise
              (.mk constantExpr (some constant) command :: rest) state =
              meaning.runCases fuel value otherwise rest state := by
            simp [Meaning.runCases, same]
          rw [notFirst, if_neg Bool.false_ne_true, skips]
          rcases chosen with ⟨missing, runs⟩ | ⟨index, branch, found, isBranch, runs⟩
          · exact Or.inl ⟨by rw [missing]; rfl, runs⟩
          · exact Or.inr ⟨index + 1, branch, by rw [found]; rfl, isBranch, runs⟩

theorem leaveBlock_switchon {block : BasicBlock} {expression : Expression}
    {cases : List CaseStatement} {defaultCase : Option Statement}
    (isLast : block.statements.getLast? = some (.switchon expression cases defaultCase))
    (several : 2 ≤ block.successors.length) :
    meaning.leaveBlock block state =
      (chooseCase (meaning.evaluate expression state).1 cases defaultCase.isSome
        block.successors).map (·, (meaning.evaluate expression state).2) := by
  unfold Meaning.leaveBlock
  rw [isLast]
  rcases shape : block.successors with - | ⟨first, - | ⟨second, - | ⟨third, rest⟩⟩⟩
  · rw [shape] at several
    cases several
  · rw [shape] at several
    simp at several
  · rfl
  · rfl

/-- The successors of a header: the blocks of the cases, of the default case and behind. -/
theorem caseSuccessors_getElem? {first join index count : Nat} {hasDefault : Bool}
    (isCase : index < count) :
    (List.range' first count ++ (if hasDefault then [first + count] else []) ++
      [join])[index]? = some (first + index) := by
  rw [List.append_assoc, List.getElem?_append_left (by simpa using isCase)]
  simp [isCase]

/-- What `SWITCHON` does when no case has the value. -/
def otherwise (meaning : Meaning State) (fuel : Nat) :
    Option Statement -> State -> Option (Outcome × State)
  | none, state => some (.normal, state)
  | some defaultCase, state => meaning.run fuel defaultCase state

theorem run_switchon {fuel : Nat} {expression : Expression} {cases : List CaseStatement}
    {defaultCase : Option Statement} (some_ : cases ≠ [] ∨ defaultCase.isSome = true) :
    meaning.run fuel (.switchon expression cases defaultCase) state =
      (meaning.runCases fuel (meaning.evaluate expression state).1
        (otherwise meaning fuel defaultCase) cases (meaning.evaluate expression state).2).map
          fun pair => (pair.1.ofCase, pair.2) := by
  cases defaultCase with
  | some defaultCase => simp only [Meaning.run]; rfl
  | none =>
      cases cases with
      | nil => simp at some_
      | cons first rest => simp only [Meaning.run]; rfl

section Switchon

variable {exit : Option Nat} {header first join fuel : Nat} {targets : Targets}
  {expression : Expression} {cases : List CaseStatement} {defaultCase : Option Statement} {last : Nat -> Option Point}

/-- Behind a case control comes to the end of the `SWITCHON`. -/
theorem leads_ofCase (joins : forall index, Joins graph (last index) join) (index : Nat)
    (outcome : Outcome) (point : Point)
    (led : Leads graph exit (targets.insideSwitch join) (last index) outcome point)
    (final : State) :
    exists end_, Leads graph exit targets (some (.head join)) outcome.ofCase end_ ∧
      Reaches (meaning.step graph) (point, final) (end_, final) := by
  cases outcome with
  | normal => exact ⟨_, rfl, .single (step_join (joins index point led))⟩
  | endcased =>
      cases led
      exact ⟨_, rfl, .refl⟩
  | broken | looped | left | finished => exact ⟨point, led, .refl⟩

theorem follows_switchon
    (comparable : forall branch, branch ∈ cases -> isComparable branch = true)
    (tests : Ends graph (.head header) [.switchon expression cases defaultCase]
      (List.range' first cases.length ++
        (if defaultCase.isSome then [first + cases.length] else []) ++ [join]))
    (caseFollows : forall (index : Nat) branch, cases[index]? = some branch -> forall state,
      Follows meaning graph fuel (Leads graph exit (targets.insideSwitch join) (last index))
        (.head (first + index), state) (meaning.run fuel branch.command state))
    (defaultFollows : forall command, defaultCase = some command -> forall state,
      Follows meaning graph fuel
        (Leads graph exit (targets.insideSwitch join) (last cases.length))
        (.head (first + cases.length), state) (meaning.run fuel command state))
    (joins : forall index, Joins graph (last index) join) :
    Follows meaning graph fuel (Leads graph exit targets (some (.head join)))
      (.head header, state)
      (meaning.run fuel (.switchon expression cases defaultCase) state) := by
  have isLast : (graph header).statements.getLast? = _ := tests.one.2.2
  have decides : (graph header).successors = _ := tests.2
  by_cases some_ : cases ≠ [] ∨ defaultCase.isSome = true
  · have several : 2 ≤ (graph header).successors.length := by
      rw [decides]
      rcases some_ with notEmpty | hasDefault
      · have positive := List.length_pos_iff.mpr notEmpty
        simp
        omega
      · simp [hasDefault]
    rw [run_switchon some_]
    rcases @chosen_case _ meaning (meaning.evaluate expression state).2 fuel
      (otherwise meaning fuel defaultCase) (meaning.evaluate expression state).1 _ comparable with
      ⟨constants, mapped, ⟨missing, runs⟩ | ⟨index, branch, found, isBranch, runs⟩⟩
    · rw [runs]
      -- no case has the value: the default case, or the end
      cases defaultCase with
      | none =>
          have leaves : meaning.leaveBlock (graph header) state =
              some (join, (meaning.evaluate expression state).2) := by
            rw [leaveBlock_switchon isLast several, decides]
            unfold chooseCase
            rw [mapped, Option.bind_eq_bind, Option.bind_some, missing]
            simp
          rcases tests.decides rfl leaves with ⟨taken, branches⟩
          exact Follows.after (.head taken branches) ⟨_, rfl, .refl⟩
      | some command =>
          have leaves : meaning.leaveBlock (graph header) state =
              some (first + cases.length, (meaning.evaluate expression state).2) := by
            rw [leaveBlock_switchon isLast several, decides]
            unfold chooseCase
            rw [mapped, Option.bind_eq_bind, Option.bind_some, missing]
            simp
          rcases tests.decides rfl leaves with ⟨taken, branches⟩
          apply Follows.after (.head taken branches)
          exact (defaultFollows command rfl _).onward Outcome.ofCase (leads_ofCase joins _)
    · have isCase : index < cases.length := (List.getElem?_eq_some_iff.mp isBranch).1
      have leaves : meaning.leaveBlock (graph header) state =
          some (first + index, (meaning.evaluate expression state).2) := by
        rw [leaveBlock_switchon isLast several, decides]
        unfold chooseCase
        rw [mapped, Option.bind_eq_bind, Option.bind_some, found]
        dsimp only
        rw [caseSuccessors_getElem? isCase]
        rfl
      rw [runs]
      rcases tests.decides rfl leaves with ⟨taken, branches⟩
      apply Follows.after (.head taken branches)
      exact (caseFollows index branch isBranch _).onward Outcome.ofCase (leads_ofCase joins _)
  · -- without cases the expression is not even evaluated
    have empty : cases = [] ∧ defaultCase = none := by simpa using some_
    rcases empty with ⟨rfl, rfl⟩
    have leaves : meaning.leaveBlock (graph header) state = some (join, state) := by
      unfold Meaning.leaveBlock
      rw [decides]
      rfl
    rcases tests.decides rfl leaves with ⟨taken, branches⟩
    have runs : meaning.run fuel (.switchon expression [] none) state =
        some (.normal, state) := by simp only [Meaning.run]
    rw [runs]
    exact Follows.after (.head taken branches) ⟨_, rfl, .refl⟩

end Switchon

/-- The meaning of a part. -/
def Part.run (meaning : Meaning State) (fuel : Nat) : Part -> State -> Option (Outcome × State)
  | .statement statement, state => meaning.run fuel statement state
  | .sequence statements, state => meaning.runAll fuel statements state

/-- Wherever a part is laid out, the graph runs as its meaning says. -/
theorem Laid.follows {exit : Option Nat} {targets : Targets} {part : Part} {first : Point}
    {last : Option Point} (laid : Laid graph exit targets part first last)
    (meaning : Meaning State) (fuel : Nat) (state : State) :
    Follows meaning graph fuel (Leads graph exit targets last) (first, state)
      (part.run meaning fuel state) := by
  induction laid generalizing state with
  | straight point isStraight prefix_ =>
      change Follows _ _ _ _ _ (meaning.run fuel _ state)
      rw [run_straight isStraight]
      exact ⟨_, rfl, reaches_straight (straightCode_emits isStraight) prefix_⟩
  | @ifStatement targets condition thenBranch point first join last ends _ joins ih =>
      have leaves : meaning.leaveBlock (graph point.block) state =
          some (if (meaning.evaluate condition state).1 = 0#64 then join else first,
            (meaning.evaluate condition state).2) := by
        unfold Meaning.leaveBlock
        rw [ends.2, ends.one.2.2]
      rcases ends.decides rfl leaves with ⟨taken, branches⟩
      apply Follows.after (.head taken branches)
      change Follows _ _ _ _ _ (meaning.run fuel _ state)
      simp only [Meaning.run]
      split
      · exact ⟨_, rfl, .refl⟩
      · have branch := ih (meaning.evaluate condition state).2
        refine cast (congrArg _ (Option.map_id' ..)) (branch.onward id ?_)
        intro outcome point led final
        by_cases isNormal : outcome = .normal
        · subst isNormal
          exact ⟨_, rfl, .single (step_join (joins point led))⟩
        · exact ⟨point, led.elsewhere isNormal _, .refl⟩
  | forStatement enters tests _ joins advances ih =>
      change Follows _ _ _ _ _ (meaning.run fuel _ state)
      simp only [Meaning.run]
      apply Follows.after enters.reaches
      exact follows_rounds tests ih joins advances fuel (Nat.le_refl fuel) _
  | switchon last comparable enters tests _ _ joins caseIh defaultIh =>
      apply Follows.after (.single (step_join enters))
      exact follows_switchon comparable tests (fun index branch found => caseIh index branch found)
        (fun command isDefault => defaultIh command isDefault) joins
  | @jump targets statement point target isJump ends =>
      have reaches := @Ends.reaches _ meaning _ _ state _ _ ends
      have led := congrArg (Option.map Point.head) isJump
      change Follows _ _ _ _ _ (meaning.run fuel statement state)
      cases statement with
      | breakStatement =>
          simp only [Meaning.run]
          exact ⟨_, led, reaches⟩
      | loop =>
          simp only [Meaning.run]
          exact ⟨_, led, reaches⟩
      | endcase =>
          simp only [Meaning.run]
          exact ⟨_, led, reaches⟩
      | _ => cases isJump
  | @leave targets statement point target isLeave isExit ends =>
      have reaches := @Ends.reaches _ meaning _ _ state _ _ ends
      have led := congrArg (Option.map Point.head) isExit
      change Follows _ _ _ _ _ (meaning.run fuel statement state)
      cases statement with
      | returnStatement =>
          simp only [Meaning.run]
          exact ⟨_, led, reaches⟩
      | resultis expression =>
          simp only [Meaning.run]
          exact ⟨_, led, reaches⟩
      | _ => cases isLeave
  | finish ends =>
      change Follows _ _ _ _ _ (meaning.run fuel .finish state)
      simp only [Meaning.run]
      exact ⟨_, ⟨ends.one.2.1, ends.one.2.2⟩, .single (step_at ends.one.1)⟩
  | compound _ ih => exact ih state
  | block _ ih => exact ih state
  | nil point => exact ⟨_, rfl, .refl⟩
  | cons _ _ firstIh restIh =>
      refine (firstIh state).sequence fun point final led => ?_
      cases led
      exact restIh final
  | unreached _ ih =>
      refine (ih state).sequence fun point final led => ?_
      cases led

end Execution

end ControlFlow
end NewBcpl
