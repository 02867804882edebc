import NewBcpl.ControlFlow.TargetStacks

namespace NewBcpl
namespace ControlFlow

open Builder

/-!
# Where BREAK, LOOP and ENDCASE lead

A visit is right when it leaves the three stacks as it found them, never pops an
empty one, and gives every jump in the statement an edge to the block of its
innermost enclosing construct: the exit block, the increment or advance block, or
the join block. The predicate follows the visits of the builder; beside it is the
syntactic condition under which it holds. A `FOREACH` over a vector or a string
pops its targets twice, which is harmless only when nothing is below them; a
`FOREACH` over a list pushes its targets only after its body.
-/

/-- The blocks of the innermost enclosing constructs, where there are any. -/
structure Enclosing where
  exit : Option Nat
  advance : Option Nat
  join : Option Nat

/-- There is one more edge from the current block. -/
def AddsEdge (before after : Builder) (target : Nat) : Prop :=
  exists source, before.current = some source ∧
    (after.block source).successors = (before.block source).successors ++ [target]

section Right

variable (inferType : Expression -> VarType)

/-- The visit leaves the stacks as it found them. -/
def KeepsTargets (statement : Statement) (builder : Builder) : Prop :=
  forall after, visitStatement inferType statement builder = some after ->
    after.targets = builder.targets

/-- The visit of a jump adds the edge to the intended block. -/
def JumpAims (statement : Statement) (builder : Builder) (intended : Option Nat) : Prop :=
  forall after target, visitStatement inferType statement builder = some after ->
    intended = some target -> AddsEdge builder.ensureCurrent after target

/-- The stacks of a loop can be popped after the visit of its body. -/
def LoopPops (body : Statement) (entered : Builder) : Prop :=
  forall inside, visitStatement inferType body entered = some inside ->
    inside.breakTargets ≠ [] ∧ inside.loopTargets ≠ []

mutual

/-- The visit of a statement and of everything inside it is right. -/
def TargetsRight : Enclosing -> Statement -> Builder -> Prop
  | enclosing, .ifStatement condition thenBranch, builder =>
      KeepsTargets inferType (.ifStatement condition thenBranch) builder ∧
      forall visited entered,
        visitExpression inferType condition builder = some visited ->
        visited.enterIf (.ifStatement condition thenBranch) = some entered ->
        TargetsRight enclosing thenBranch entered
  | enclosing, .forStatement loopVariable uniqueName startExpr endExpr stepExpr body,
      builder =>
      KeepsTargets inferType
        (.forStatement loopVariable uniqueName startExpr endExpr stepExpr body) builder ∧
      forall visited entered,
        visitExpression inferType startExpr builder.ensureCurrent = some visited ->
        visited.enterFor
          (.forStatement loopVariable uniqueName startExpr endExpr stepExpr body)
          uniqueName startExpr = some entered ->
        TargetsRight { enclosing with
            exit := some (visited.fresh + 3), advance := some (visited.fresh + 2) }
          body entered ∧
        LoopPops inferType body entered
  | enclosing, .forEach loopVariableName typeVariableName collection body filterType
      inferredElementType, builder =>
      KeepsTargets inferType (.forEach loopVariableName typeVariableName collection body
        filterType inferredElementType) builder ∧
      if isListType (inferType collection) then
        forall entered,
          builder.ensureCurrent.enterListForEach loopVariableName typeVariableName
            collection inferredElementType = some entered ->
          TargetsRight { enclosing with
              exit := some (builder.ensureCurrent.fresh + 2)
              advance := (visitStatement inferType body entered).map Builder.fresh }
            body entered
      else
        forall entered,
          builder.ensureCurrent.enterVectorForEach loopVariableName collection
            (inferType collection) = some entered ->
          TargetsRight { enclosing with
              exit := some (builder.ensureCurrent.fresh + 3)
              advance := some (builder.ensureCurrent.fresh + 2) }
            body entered ∧
          LoopPops inferType body entered
  | enclosing, .switchon expression cases none, builder =>
      KeepsTargets inferType (.switchon expression cases none) builder ∧
      forall entered,
        builder.enterSwitchon (.switchon expression cases none) cases false =
          some entered ->
        CasesRight
          { enclosing with join := some builder.endCurrentBlockAndStartNew.fresh }
          builder.endCurrentBlockAndStartNew.fresh
          (builder.endCurrentBlockAndStartNew.fresh + 1) cases entered ∧
        forall visited,
          visitCases inferType builder.endCurrentBlockAndStartNew.fresh
            (builder.endCurrentBlockAndStartNew.fresh + 1) cases entered = some visited ->
          visited.endcaseTargets ≠ []
  | enclosing, .switchon expression cases (some defaultCase), builder =>
      KeepsTargets inferType (.switchon expression cases (some defaultCase)) builder ∧
      forall entered,
        builder.enterSwitchon (.switchon expression cases (some defaultCase)) cases true =
          some entered ->
        CasesRight
          { enclosing with join := some builder.endCurrentBlockAndStartNew.fresh }
          builder.endCurrentBlockAndStartNew.fresh
          (builder.endCurrentBlockAndStartNew.fresh + 1) cases entered ∧
        forall visited,
          visitCases inferType builder.endCurrentBlockAndStartNew.fresh
            (builder.endCurrentBlockAndStartNew.fresh + 1) cases entered = some visited ->
          TargetsRight
            { enclosing with join := some builder.endCurrentBlockAndStartNew.fresh }
            defaultCase (visited.setCurrent (some
              (builder.endCurrentBlockAndStartNew.fresh + 1 + cases.length))) ∧
          forall branch,
            visitStatement inferType defaultCase (visited.setCurrent (some
              (builder.endCurrentBlockAndStartNew.fresh + 1 + cases.length))) =
                some branch ->
            branch.endcaseTargets ≠ []
  | enclosing, .breakStatement, builder =>
      KeepsTargets inferType .breakStatement builder ∧
        JumpAims inferType .breakStatement builder enclosing.exit
  | enclosing, .loop, builder =>
      KeepsTargets inferType .loop builder ∧
        JumpAims inferType .loop builder enclosing.advance
  | enclosing, .endcase, builder =>
      KeepsTargets inferType .endcase builder ∧
        JumpAims inferType .endcase builder enclosing.join
  | enclosing, .compound statements, builder =>
      KeepsTargets inferType (.compound statements) builder ∧
        AllRight enclosing statements builder
  | enclosing, .block declarations statements, builder =>
      KeepsTargets inferType (.block declarations statements) builder ∧
        forall declared,
          visitDeclarations inferType declarations builder = some declared ->
          AllRight enclosing statements declared
  | _, statement, builder => KeepsTargets inferType statement builder

/-- The visits of statements in turn are right. -/
def AllRight : Enclosing -> List Statement -> Builder -> Prop
  | _, [], _ => True
  | enclosing, first :: rest, builder =>
      TargetsRight enclosing first builder.ensureCurrent ∧
        forall middle,
          visitStatement inferType first builder.ensureCurrent = some middle ->
          AllRight enclosing rest middle

/-- The visits of the commands of the cases are right. -/
def CasesRight : Enclosing -> Nat -> Nat -> List CaseStatement -> Builder -> Prop
  | _, _, _, [], _ => True
  | enclosing, join, caseBlock, .mk _ _ command :: rest, builder =>
      TargetsRight enclosing command (builder.setCurrent (some caseBlock)) ∧
        forall visited,
          visitStatement inferType command (builder.setCurrent (some caseBlock)) =
            some visited ->
          CasesRight enclosing join (caseBlock + 1) rest (visited.addFallThrough join)

end

mutual

/-- No `FOREACH` over a vector or a string stands inside the body of a `FOR` or of
another such `FOREACH`, and no `BREAK` or `LOOP` has a `FOREACH` over a list as its
innermost loop. `counted` says that a `FOR` or a `FOREACH` over a vector encloses
the statement, `inList` that its innermost loop is a `FOREACH` over a list. -/
def jumpsSound : Bool -> Bool -> Statement -> Bool
  | counted, inList, .ifStatement _ thenBranch => jumpsSound counted inList thenBranch
  | _, _, .forStatement _ _ _ _ _ body => jumpsSound true false body
  | counted, _, .forEach _ _ collection body _ _ =>
      if isListType (inferType collection) then jumpsSound counted true body
      else !counted && jumpsSound true false body
  | counted, inList, .switchon _ cases none => casesSound counted inList cases
  | counted, inList, .switchon _ cases (some defaultCase) =>
      casesSound counted inList cases && jumpsSound counted inList defaultCase
  | _, inList, .breakStatement => !inList
  | _, inList, .loop => !inList
  | counted, inList, .compound statements => allSound counted inList statements
  | counted, inList, .block _ statements => allSound counted inList statements
  | _, _, _ => true

/-- The same for every statement of a list. -/
def allSound : Bool -> Bool -> List Statement -> Bool
  | _, _, [] => true
  | counted, inList, first :: rest =>
      jumpsSound counted inList first && allSound counted inList rest

/-- The same for the commands of the cases. -/
def casesSound : Bool -> Bool -> List CaseStatement -> Bool
  | _, _, [] => true
  | counted, inList, .mk _ _ command :: rest =>
      jumpsSound counted inList command && casesSound counted inList rest

end

end Right

attribute [simp] TargetsRight AllRight CasesRight jumpsSound allSound casesSound

/-- What holds where a statement is visited, by the loops that enclose it. -/
structure Fits (counted inList : Bool) (enclosing : Enclosing) (builder : Builder) :
    Prop where
  current : builder.CurrentExists
  older : forall target,
    target ∈ builder.targets.breaks ∨ target ∈ builder.targets.loops ->
    target < builder.fresh
  outside : counted = false ->
    builder.targets.breaks = [] ∧ builder.targets.loops = []
  inside : counted = true -> builder.targets.breaks ≠ [] ∧ builder.targets.loops ≠ []
  exit : inList = false -> forall target, enclosing.exit = some target ->
    builder.targets.breaks.head? = some target
  advance : inList = false -> forall target, enclosing.advance = some target ->
    builder.targets.loops.head? = some target
  lostExit : inList = true ->
    exists target, enclosing.exit = some target ∧ target ∉ builder.targets.breaks
  lostAdvance : inList = true -> forall target, enclosing.advance = some target ->
    target ∉ builder.targets.loops
  join : forall target, enclosing.join = some target ->
    builder.targets.endcases.head? = some target

namespace Fits

variable {counted inList : Bool} {enclosing : Enclosing} {builder after : Builder}

/-- The facts about the stacks survive a visit that keeps them. -/
theorem kept (fits : Fits counted inList enclosing builder)
    (targets : after.targets = builder.targets) (grown : builder.fresh <= after.fresh)
    (current : after.CurrentExists) : Fits counted inList enclosing after := by
  constructor
  · exact current
  · rw [targets]
    exact fun target member => Nat.lt_of_lt_of_le (fits.older target member) grown
  · rw [targets]
    exact fits.outside
  · rw [targets]
    exact fits.inside
  · rw [targets]
    exact fits.exit
  · rw [targets]
    exact fits.advance
  · rw [targets]
    exact fits.lostExit
  · rw [targets]
    exact fits.lostAdvance
  · rw [targets]
    exact fits.join

theorem ensureCurrent (fits : Fits counted inList enclosing builder) :
    Fits counted inList enclosing builder.ensureCurrent :=
  fits.kept builder.targets_ensureCurrent (ensureCurrent_fresh_le builder)
    (ensureCurrent_currentExists fits.current)

/-- Inside a `FOR` or a `FOREACH` over a vector. -/
theorem insideLoop (fits : Fits counted inList enclosing builder) {exit advance : Nat}
    (targets : after.targets = builder.targets.insideLoop exit advance)
    (grown : builder.fresh <= after.fresh) (exitOld : exit < after.fresh)
    (advanceOld : advance < after.fresh) (current : after.CurrentExists) :
    Fits true false { enclosing with exit := some exit, advance := some advance }
      after := by
  constructor
  · exact current
  · rw [targets]
    intro target member
    simp only [Targets.insideLoop, List.mem_cons] at member
    rcases member with (equal | old) | (equal | old)
    · rw [equal]
      exact exitOld
    · exact Nat.lt_of_lt_of_le (fits.older target (Or.inl old)) grown
    · rw [equal]
      exact advanceOld
    · exact Nat.lt_of_lt_of_le (fits.older target (Or.inr old)) grown
  · intro notCounted
    cases notCounted
  · intro _
    rw [targets]
    simp [Targets.insideLoop]
  · intro _ target equal
    rw [targets]
    exact equal
  · intro _ target equal
    rw [targets]
    exact equal
  · intro isList
    cases isList
  · intro isList
    cases isList
  · rw [targets]
    exact fits.join

/-- Inside a `FOREACH` over a list. -/
theorem insideList (fits : Fits counted inList enclosing builder) {exit : Nat}
    {advance : Option Nat} (targets : after.targets = builder.targets)
    (grown : builder.fresh <= after.fresh) (exitNew : builder.fresh <= exit)
    (advanceNew : forall target, advance = some target -> builder.fresh <= target)
    (current : after.CurrentExists) :
    Fits counted true { enclosing with exit := some exit, advance := advance } after := by
  constructor
  · exact current
  · rw [targets]
    exact fun target member => Nat.lt_of_lt_of_le (fits.older target member) grown
  · rw [targets]
    exact fits.outside
  · rw [targets]
    exact fits.inside
  · intro notList
    cases notList
  · intro notList
    cases notList
  · intro _
    rw [targets]
    refine ⟨exit, rfl, fun member => ?_⟩
    have := fits.older exit (Or.inl member)
    omega
  · intro _ target equal
    rw [targets]
    intro member
    have := fits.older target (Or.inr member)
    have := advanceNew target equal
    omega
  · rw [targets]
    exact fits.join

/-- Inside a `SWITCHON`. -/
theorem insideSwitch (fits : Fits counted inList enclosing builder) {join : Nat}
    (targets : after.targets = builder.targets.insideSwitch join)
    (grown : builder.fresh <= after.fresh) (current : after.CurrentExists) :
    Fits counted inList { enclosing with join := some join } after := by
  constructor
  · exact current
  · rw [targets]
    exact fun target member => Nat.lt_of_lt_of_le (fits.older target member) grown
  · rw [targets]
    exact fits.outside
  · rw [targets]
    exact fits.inside
  · rw [targets]
    exact fits.exit
  · rw [targets]
    exact fits.advance
  · rw [targets]
    exact fits.lostExit
  · rw [targets]
    exact fits.lostAdvance
  · intro target equal
    rw [targets]
    exact equal

end Fits

end ControlFlow
end NewBcpl
