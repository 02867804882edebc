import NewBcpl.ControlFlow.BuilderGrowth

namespace NewBcpl
namespace ControlFlow

open Builder

/-!
# The visit of a statement grows the graph

Every visit grows the graph, whatever the statement; the proof follows the visits
through statements and expressions at once. On expressions without `VALOF` the
builder does nothing. The nestings of the constructs that the builder visits, over
such expressions, are the statements whose targets are studied later.
-/

mutual

/-- There is no `VALOF` or `FVALOF` where the visits of an expression lead. -/
def hasNoValof : Expression -> Bool
  | .binaryOp _ left right => hasNoValof left && hasNoValof right
  | .unaryOp _ operand => hasNoValof operand
  | .vectorAccess vector index => hasNoValof vector && hasNoValof index
  | .charIndirection string index => hasNoValof string && hasNoValof index
  | .floatVectorIndirection vector index => hasNoValof vector && hasNoValof index
  | .functionCall function arguments =>
      hasNoValof function && allHaveNoValof arguments
  | .conditional condition trueExpr falseExpr =>
      hasNoValof condition && hasNoValof trueExpr && hasNoValof falseExpr
  | .valof _ => false
  | .floatValof _ => false
  | _ => true

/-- The same for a list of expressions. -/
def allHaveNoValof : List Expression -> Bool
  | [] => true
  | first :: rest => hasNoValof first && allHaveNoValof rest

end

section Expressions

variable {inferType : Expression -> VarType}

mutual

theorem visitExpression_noValof :
    (expression : Expression) -> hasNoValof expression = true ->
      forall builder, visitExpression inferType expression builder = some builder
  | .binaryOp _ left right, free, builder => by
      simp only [hasNoValof, Bool.and_eq_true] at free
      simp [visitExpression_noValof left free.1, visitExpression_noValof right free.2]
  | .unaryOp _ operand, free, builder => by
      simp only [hasNoValof] at free
      simp [visitExpression_noValof operand free]
  | .vectorAccess vector index, free, builder => by
      simp only [hasNoValof, Bool.and_eq_true] at free
      simp [visitExpression_noValof vector free.1, visitExpression_noValof index free.2]
  | .charIndirection string index, free, builder => by
      simp only [hasNoValof, Bool.and_eq_true] at free
      simp [visitExpression_noValof string free.1, visitExpression_noValof index free.2]
  | .floatVectorIndirection vector index, free, builder => by
      simp only [hasNoValof, Bool.and_eq_true] at free
      simp [visitExpression_noValof vector free.1, visitExpression_noValof index free.2]
  | .functionCall function arguments, free, builder => by
      simp only [hasNoValof, Bool.and_eq_true] at free
      simp [visitExpression_noValof function free.1,
        visitExpressions_noValof arguments free.2]
  | .conditional condition trueExpr falseExpr, free, builder => by
      simp only [hasNoValof, Bool.and_eq_true] at free
      simp [visitExpression_noValof condition free.1.1,
        visitExpression_noValof trueExpr free.1.2,
        visitExpression_noValof falseExpr free.2]
  | .valof _, free, _ => by cases free
  | .floatValof _, free, _ => by cases free
  | .integerLiteral _, _, _ => by simp
  | .floatLiteral _, _, _ => by simp
  | .stringLiteral _, _, _ => by simp
  | .charLiteral _, _, _ => by simp
  | .booleanLiteral _, _, _ => by simp
  | .variableAccess _, _, _ => by simp
  | .bitfieldAccess _ _ _, _, _ => by simp
  | .sysCall _ _ _, _, _ => by simp
  | .vecAllocation _, _, _ => by simp
  | .fvecAllocation _, _, _ => by simp
  | .stringAllocation _, _, _ => by simp
  | .table _ _, _, _ => by simp
  | .vecInitializer _, _, _ => by simp
  | .list _ _, _, _ => by simp

theorem visitExpressions_noValof :
    (expressions : List Expression) -> allHaveNoValof expressions = true ->
      forall builder, visitExpressions inferType expressions builder = some builder
  | [], _, _ => by simp
  | first :: rest, free, builder => by
      simp only [allHaveNoValof, Bool.and_eq_true] at free
      simp [visitExpression_noValof first free.1, visitExpressions_noValof rest free.2]

end

end Expressions

/-- The declarations of a block have no `VALOF`. -/
def declarationHasNoValof : Declaration -> Bool
  | .staticDeclaration _ initializer => hasNoValof initializer
  | _ => true

/-- The nestings of the constructs that the builder visits, with labels or without. -/
inductive Nesting (labels : Bool) : Statement -> Prop where
  | letDeclaration (names : List String) {initializers : List Expression} :
      allHaveNoValof initializers = true -> Nesting labels (.letDeclaration names initializers)
  | assignment {lhs rhs : List Expression} :
      allHaveNoValof lhs = true -> allHaveNoValof rhs = true -> Nesting labels (.assignment lhs rhs)
  | routineCall {routine : Expression} {arguments : List Expression} :
      hasNoValof routine = true -> allHaveNoValof arguments = true ->
        Nesting labels (.routineCall routine arguments)
  | stringStatement {size : Expression} :
      hasNoValof size = true -> Nesting labels (.stringStatement size)
  | brk : Nesting labels .brk
  | ifStatement {condition : Expression} {thenBranch : Statement} :
      hasNoValof condition = true -> Nesting labels thenBranch ->
        Nesting labels (.ifStatement condition thenBranch)
  | forStatement (loopVariable uniqueName : String) {startExpr : Expression}
      (endExpr : Expression) (stepExpr : Option Expression) {body : Statement} :
      hasNoValof startExpr = true -> Nesting labels body ->
        Nesting labels (.forStatement loopVariable uniqueName startExpr endExpr stepExpr body)
  | forEach (loopVariableName typeVariableName : String) (collection : Expression)
      (filterType inferredElementType : VarType) {body : Statement} :
      Nesting labels body -> Nesting labels (.forEach loopVariableName typeVariableName collection
        body filterType inferredElementType)
  | switchon (expression : Expression) {cases : List CaseStatement}
      {defaultCase : Option Statement} :
      (forall branch, branch ∈ cases -> Nesting labels branch.command) ->
      (forall command, defaultCase = some command -> Nesting labels command) ->
        Nesting labels (.switchon expression cases defaultCase)
  | goto (label : Expression) : Nesting labels (.goto label)
  | returnStatement : Nesting labels .returnStatement
  | finish : Nesting labels .finish
  | breakStatement : Nesting labels .breakStatement
  | loop : Nesting labels .loop
  | endcase : Nesting labels .endcase
  | resultis (expression : Expression) : Nesting labels (.resultis expression)
  | compound {statements : List Statement} :
      (forall statement, statement ∈ statements -> Nesting labels statement) ->
        Nesting labels (.compound statements)
  | block {declarations : List Declaration} {statements : List Statement} :
      (forall declaration, declaration ∈ declarations ->
        declarationHasNoValof declaration = true) ->
      (forall statement, statement ∈ statements -> Nesting labels statement) ->
        Nesting labels (.block declarations statements)
  | labelTarget (labelName : String) : labels = true -> Nesting labels (.labelTarget labelName)

section Parts

variable {before builder after : Builder}

theorem visitJump_grows {statement : Statement} {targets : List Nat}
    (grows : Grows before builder)
    (visits : builder.visitJump statement targets = some after) : Grows before after := by
  rcases Option.map_eq_some_iff.mp visits with ⟨added, adds, equal⟩
  have addedGrows := grows.ensureCurrent.addStatement adds
  rw [<- equal]
  split
  · rename_i reference target rest current
    exact (addedGrows.addEdge target (addedGrows.owns_current current)).setCurrent
      fun _ equal => nomatch equal
  · exact addedGrows.setCurrent fun _ equal => nomatch equal

theorem visitLeave_grows {statement : Statement} (grows : Grows before builder)
    (visits : builder.visitLeave statement = some after) : Grows before after := by
  rcases Option.map_eq_some_iff.mp visits with ⟨added, adds, equal⟩
  have exiting := (grows.ensureCurrent.addStatement adds).ensureExit
  rw [<- equal]
  dsimp only
  split
  · rename_i reference exit current exits
    exact (exiting.addEdge exit (exiting.owns_current current)).setCurrent
      fun _ equal => nomatch equal
  · exact exiting.setCurrent fun _ equal => nomatch equal

theorem visitGoto_grows {label : Expression} (grows : Grows before builder)
    (visits : builder.visitGoto label = some after) : Grows before after := by
  rcases Option.map_eq_some_iff.mp visits with ⟨added, adds, equal⟩
  have addedGrows := grows.ensureCurrent.addStatement adds
  rw [<- equal]
  split
  · rename_i reference current
    have registered : Grows before
        { added with unresolvedGotos := added.unresolvedGotos ++ [(label, reference)] } :=
      addedGrows.sameGraph ⟨rfl, fun _ => rfl, rfl, rfl, fun _ exit => exit, ⟨[], rfl⟩,
        ⟨[(label, reference)], rfl⟩⟩
    exact registered.setCurrent fun _ equal => nomatch equal
  · exact addedGrows

theorem visitFinish_grows (grows : Grows before builder)
    (visits : (builder.ensureCurrent.addStatement .finish).map
      (fun added => added.setCurrent none) = some after) : Grows before after := by
  rcases Option.map_eq_some_iff.mp visits with ⟨added, adds, equal⟩
  rw [<- equal]
  exact (grows.ensureCurrent.addStatement adds).setCurrent fun _ equal => nomatch equal

theorem visitLabelTarget_grows {labelName : String} (grows : Grows before builder)
    (visits : builder.visitLabelTarget labelName = some after) : Grows before after := by
  unfold visitLabelTarget at visits
  split at visits
  · cases visits
  · rename_i new
    have created := grows.createBlock_of fun named =>
      named.createLabel (Bool.eq_false_of_not_eq_true new)
    have registered : Grows before
        { builder.createBlock ("Label_" ++ labelName) with
          labelTargets := (labelName, builder.fresh) ::
            (builder.createBlock ("Label_" ++ labelName)).labelTargets } :=
      created.sameGraph ⟨rfl, fun _ => rfl, rfl, rfl, fun _ exit => exit,
        ⟨[(labelName, builder.fresh)], rfl⟩, ⟨[], (List.append_nil _).symm⟩⟩
    refine ((registered.addFallThrough builder.fresh).setCurrent
      fun reference equal => ?_).addStatement visits
    cases equal
    exact grows.owns_fresh

theorem enterIf_grows {statement : Statement} (grows : Grows before builder)
    (enters : builder.enterIf statement = some after) : Grows before after := by
  rcases Option.map_eq_some_iff.mp enters with ⟨added, adds, equal⟩
  have addedGrows := grows.ensureCurrent.addStatement adds
  rw [<- equal]
  split
  · rename_i condition current
    have owned := addedGrows.owns_current current
    refine ((((addedGrows.createBlock _ (by decide)).createBlock _ (by decide)).addEdge _ owned).addEdge _
      owned).setCurrent fun reference equal => ?_
    cases equal
    exact addedGrows.owns_fresh
  · exact addedGrows

theorem enterFor_grows {statement : Statement} {uniqueName : String}
    {startExpr : Expression} (grows : Grows before builder)
    (enters : builder.enterFor statement uniqueName startExpr = some after) :
    Grows before after := by
  rcases Option.map_eq_some_iff.mp enters with ⟨added, adds, equal⟩
  have addedGrows := grows.addStatement adds
  rw [<- equal]
  split
  · rename_i init current
    have header := addedGrows.owns_fresh
    have linked := (addedGrows.createBlock "ForHeader_" (by decide)).addEdge added.fresh
      (addedGrows.owns_current current)
    have filled := ((((linked.createBlock "ForBody_" (by decide)).createBlock
      "ForIncrement_" (by decide)).createBlock "ForExit_" (by decide)).pushLoop (added.fresh + 3)
      (added.fresh + 2)).addStatementTo statement header
    refine ((filled.addEdge _ header).addEdge _ header).setCurrent
      fun reference equal => ?_
    cases equal
    exact addedGrows.owns_offset 1
  · exact addedGrows

theorem leaveFor_grows {header : Nat} {uniqueName : String}
    {stepExpr : Option Expression} (grows : Grows before builder)
    (new : before.fresh <= header)
    (leaves : builder.leaveFor header uniqueName stepExpr = some after) :
    Grows before after := by
  have owned (offset : Nat) : Grows.Owns before (header + offset) :=
    Or.inr (Nat.le_trans new (Nat.le_add_right _ _))
  refine Grows.sameGraph ?_ (popLoop_sameGraph leaves)
  refine (((grows.addEdgeFromCurrent _).addStatementTo _ (owned 2)).addEdge _
    (owned 2)).setCurrent fun reference equal => ?_
  cases equal
  exact owned 3

theorem addStatementsTo_grows {reference : Nat} (statements : List Statement)
    (grows : Grows before builder) (owned : Grows.Owns before reference) :
    Grows before (builder.addStatementsTo reference statements) := by
  induction statements generalizing builder with
  | nil => exact grows
  | cons first rest ih => exact ih (grows.addStatementTo first owned)

theorem addEdges_grows {source : Nat} (targets : List Nat)
    (grows : Grows before builder) (owned : Grows.Owns before source) :
    Grows before (builder.addEdges source targets) := by
  induction targets generalizing builder with
  | nil => exact grows
  | cons first rest ih => exact ih (grows.addEdge first owned)

theorem caseId_ordinary (index : Nat) :
    OrdinaryPrefix ("Case_" ++ toString index ++ "_") := by
  constructor
  · rw [String.toList_append, List.getLast?_append]
    rfl
  · rw [String.toList_append, String.toList_append]
    change some 'C' ≠ some 'L'
    decide

theorem createCaseBlocks_grows {index : Nat} (cases : List CaseStatement)
    (grows : Grows before builder) : Grows before (builder.createCaseBlocks index cases) := by
  induction cases generalizing builder index with
  | nil => exact grows
  | cons first rest ih => exact ih (grows.createBlock _ (caseId_ordinary index))

theorem enterVectorForEach_grows {loopVariableName : String} {collection : Expression}
    {collectionType : VarType} (grows : Grows before builder)
    (enters : builder.enterVectorForEach loopVariableName collection collectionType =
      some after) : Grows before after := by
  simp only [enterVectorForEach, Option.bind_eq_bind, Option.pure_def,
    Option.bind_eq_some_iff] at enters
  rcases enters with ⟨first, addsFirst, second, addsSecond, third, addsThird, init,
    current, body, addsBody, equal⟩
  have thirdGrows := (((grows.countHidden.countHidden.countHidden.ensureCurrent.addStatement
    addsFirst).addStatement addsSecond).addStatement addsThird)
  have header := thirdGrows.owns_fresh
  have blocks := (((thirdGrows.createBlock "ForEachHeader_" (by decide)).createBlock
    "ForEachBody_" (by decide)).createBlock "ForEachIncrement_" (by decide)).createBlock
    "ForEachExit_" (by decide)
  have linked := blocks.addEdge third.fresh (thirdGrows.owns_current current)
  cases equal
  refine Grows.pushLoop (Grows.addStatement ?_ addsBody) _ _
  refine (((linked.addStatementTo _ header).addEdge _ header).addEdge _ header).setCurrent
    fun reference equal => ?_
  cases equal
  exact thirdGrows.owns_offset 1

theorem leaveVectorForEach_grows {header : Nat} {indexName : String}
    (grows : Grows before builder) (new : before.fresh <= header)
    (leaves : builder.leaveVectorForEach header indexName = some after) :
    Grows before after := by
  have owned (offset : Nat) : Grows.Owns before (header + offset) :=
    Or.inr (Nat.le_trans new (Nat.le_add_right _ _))
  refine Grows.sameGraph ?_ (popLoop_sameGraph leaves)
  refine (((grows.addFallThrough _).addStatementTo _ (owned 2)).addEdge _
    (owned 2)).setCurrent fun reference equal => ?_
  cases equal
  exact owned 3

theorem enterListForEach_grows {loopVariableName typeVariableName : String}
    {collection : Expression} {inferredElementType : VarType}
    (grows : Grows before builder)
    (enters : builder.enterListForEach loopVariableName typeVariableName collection
      inferredElementType = some after) : Grows before after := by
  simp only [enterListForEach, Option.bind_eq_bind, Option.pure_def,
    Option.bind_eq_some_iff] at enters
  rcases enters with ⟨initialized, adds, init, current, equal⟩
  have initializedGrows := grows.countHidden.addStatement adds
  have header := initializedGrows.owns_fresh
  have blocks := ((initializedGrows.createBlock "ForEachHeader_" (by decide)).createBlock
    "ForEachBody_" (by decide)).createBlock "ForEachExit_" (by decide)
  have linked := blocks.addEdge initialized.fresh (initializedGrows.owns_current current)
  cases equal
  refine (addStatementsTo_grows _ (((linked.addStatementTo _ header).addEdge _
    header).addEdge _ header) (initializedGrows.owns_offset 1)).setCurrent
    fun reference equal => ?_
  cases equal
  exact initializedGrows.owns_offset 1

theorem leaveListForEach_grows {header : Nat} {cursorName : String}
    (grows : Grows before builder) (new : before.fresh <= header) :
    Grows before (builder.leaveListForEach header cursorName) := by
  have advance := grows.owns_fresh
  refine ((((((grows.createBlock _ (by decide)).addFallThrough _).addStatementTo _ advance).addEdge _
    advance).setCurrent fun reference equal => ?_)).pushLoop _ _
  cases equal
  exact Or.inr (Nat.le_trans new (Nat.le_add_right _ _))

theorem enterSwitchon_grows {statement : Statement} {cases : List CaseStatement}
    {hasDefault : Bool} (grows : Grows before builder)
    (enters : builder.enterSwitchon statement cases hasDefault = some after) :
    Grows before after := by
  rcases Option.map_eq_some_iff.mp enters with ⟨added, adds, equal⟩
  have addedGrows := grows.endCurrentBlockAndStartNew.addStatement adds
  rw [<- equal]
  split
  · rename_i header current
    have joined := (addedGrows.createBlock "SwitchJoin_" (by decide)).pushEndcase added.fresh
    refine addEdges_grows _ ?_ (addedGrows.owns_current current)
    split
    · exact (createCaseBlocks_grows cases joined).createBlock _ (by decide)
    · exact createCaseBlocks_grows cases joined
  · exact addedGrows

theorem leaveSwitchon_grows {join : Nat} (grows : Grows before builder)
    (new : before.fresh <= join) (leaves : builder.leaveSwitchon join = some after) :
    Grows before after := by
  refine Grows.sameGraph (grows.setCurrent fun reference equal => ?_)
    (popEndcase_sameGraph leaves)
  cases equal
  exact Or.inr new

end Parts

section Visits

variable {inferType : Expression -> VarType}

/-- The visits of a statement grow the graph, from every state that has. -/
def VisitGrows (inferType : Expression -> VarType) (statement : Statement) : Prop :=
  forall before builder after, Grows before builder ->
    visitStatement inferType statement builder = some after -> Grows before after

/-- The current block exists. -/
theorem ensureCurrent_fresh_le (builder : Builder) :
    builder.fresh <= builder.ensureCurrent.fresh :=
  (Grows.refl builder).ensureCurrent.fresh_le

/-- A visit that does nothing. -/
theorem grows_of_equal {before builder after : Builder} (grows : Grows before builder)
    (visits : some builder = some after) : Grows before after := by
  cases visits
  exact grows

mutual

theorem visitExpression_grows : (expression : Expression) ->
    forall before builder after, Grows before builder ->
      visitExpression inferType expression builder = some after -> Grows before after
  | .binaryOp _ left right, before, builder, after, grows, visits => by
      simp only [visitExpression, Option.bind_eq_bind, Option.bind_eq_some_iff] at visits
      rcases visits with ⟨middle, visitsLeft, visitsRight⟩
      exact visitExpression_grows right before middle after
        (visitExpression_grows left before builder middle grows visitsLeft) visitsRight
  | .unaryOp _ operand, before, builder, after, grows, visits => by
      simp only [visitExpression] at visits
      exact visitExpression_grows operand before builder after grows visits
  | .vectorAccess vector index, before, builder, after, grows, visits => by
      simp only [visitExpression, Option.bind_eq_bind, Option.bind_eq_some_iff] at visits
      rcases visits with ⟨middle, visitsVector, visitsIndex⟩
      exact visitExpression_grows index before middle after
        (visitExpression_grows vector before builder middle grows visitsVector) visitsIndex
  | .charIndirection string index, before, builder, after, grows, visits => by
      simp only [visitExpression, Option.bind_eq_bind, Option.bind_eq_some_iff] at visits
      rcases visits with ⟨middle, visitsString, visitsIndex⟩
      exact visitExpression_grows index before middle after
        (visitExpression_grows string before builder middle grows visitsString) visitsIndex
  | .floatVectorIndirection vector index, before, builder, after, grows, visits => by
      simp only [visitExpression, Option.bind_eq_bind, Option.bind_eq_some_iff] at visits
      rcases visits with ⟨middle, visitsVector, visitsIndex⟩
      exact visitExpression_grows index before middle after
        (visitExpression_grows vector before builder middle grows visitsVector) visitsIndex
  | .functionCall function arguments, before, builder, after, grows, visits => by
      simp only [visitExpression, Option.bind_eq_bind, Option.bind_eq_some_iff] at visits
      rcases visits with ⟨middle, visitsFunction, visitsArguments⟩
      exact visitExpressions_grows arguments before middle after
        (visitExpression_grows function before builder middle grows visitsFunction)
        visitsArguments
  | .conditional condition trueExpr falseExpr, before, builder, after, grows, visits => by
      simp only [visitExpression, Option.bind_eq_bind, Option.bind_eq_some_iff] at visits
      rcases visits with ⟨afterCondition, visitsCondition, afterTrue, visitsTrue, visitsFalse⟩
      exact visitExpression_grows falseExpr before afterTrue after
        (visitExpression_grows trueExpr before afterCondition afterTrue
          (visitExpression_grows condition before builder afterCondition grows
            visitsCondition) visitsTrue) visitsFalse
  | .valof body, before, builder, after, grows, visits => by
      simp only [visitExpression] at visits
      exact visitStatement_grows body before builder after grows visits
  | .floatValof body, before, builder, after, grows, visits => by
      simp only [visitExpression] at visits
      exact visitStatement_grows body before builder after grows visits
  | .integerLiteral _, _, _, _, grows, visits => grows_of_equal grows (by simpa using visits)
  | .floatLiteral _, _, _, _, grows, visits => grows_of_equal grows (by simpa using visits)
  | .stringLiteral _, _, _, _, grows, visits => grows_of_equal grows (by simpa using visits)
  | .charLiteral _, _, _, _, grows, visits => grows_of_equal grows (by simpa using visits)
  | .booleanLiteral _, _, _, _, grows, visits => grows_of_equal grows (by simpa using visits)
  | .variableAccess _, _, _, _, grows, visits => grows_of_equal grows (by simpa using visits)
  | .bitfieldAccess _ _ _, _, _, _, grows, visits =>
      grows_of_equal grows (by simpa using visits)
  | .sysCall _ _ _, _, _, _, grows, visits => grows_of_equal grows (by simpa using visits)
  | .vecAllocation _, _, _, _, grows, visits => grows_of_equal grows (by simpa using visits)
  | .fvecAllocation _, _, _, _, grows, visits => grows_of_equal grows (by simpa using visits)
  | .stringAllocation _, _, _, _, grows, visits => grows_of_equal grows (by simpa using visits)
  | .table _ _, _, _, _, grows, visits => grows_of_equal grows (by simpa using visits)
  | .vecInitializer _, _, _, _, grows, visits => grows_of_equal grows (by simpa using visits)
  | .list _ _, _, _, _, grows, visits => grows_of_equal grows (by simpa using visits)

theorem visitExpressions_grows : (expressions : List Expression) ->
    forall before builder after, Grows before builder ->
      visitExpressions inferType expressions builder = some after -> Grows before after
  | [], _, _, _, grows, visits => grows_of_equal grows (by simpa using visits)
  | first :: rest, before, builder, after, grows, visits => by
      simp only [visitExpressions, Option.bind_eq_bind, Option.bind_eq_some_iff] at visits
      rcases visits with ⟨middle, visitsFirst, visitsRest⟩
      exact visitExpressions_grows rest before middle after
        (visitExpression_grows first before builder middle grows visitsFirst) visitsRest

theorem visitInitializers_grows : (names : List String) -> (initializers : List Expression) ->
    forall before builder after, Grows before builder ->
      visitInitializers inferType names initializers builder = some after ->
      Grows before after
  | name :: names, initializer :: rest, before, builder, after, grows, visits => by
      simp only [visitInitializers, Option.bind_eq_bind, Option.bind_eq_some_iff] at visits
      rcases visits with ⟨visited, visitsInitializer, added, adds, visitsRest⟩
      have visitedGrown := visitExpression_grows initializer before builder visited grows
        visitsInitializer
      exact visitInitializers_grows names rest before added after
        (visitedGrown.addStatement adds) visitsRest
  | [], _, _, _, _, grows, visits => grows_of_equal grows (by simpa using visits)
  | _ :: _, [], _, _, _, grows, visits => grows_of_equal grows (by simpa using visits)

/-- Every visit of a statement grows the graph. -/
theorem visitStatement_grows : (statement : Statement) -> VisitGrows inferType statement
  | .letDeclaration names initializers, before, builder, after, grows, visits => by
      simp only [visitStatement] at visits
      exact visitInitializers_grows names initializers before _ after grows.ensureCurrent
        visits
  | .assignment lhs rhs, before, builder, after, grows, visits => by
      simp only [visitStatement, Option.bind_eq_bind, Option.bind_eq_some_iff] at visits
      rcases visits with ⟨added, adds, middle, visitsLhs, visitsRhs⟩
      exact visitExpressions_grows rhs before middle after
        (visitExpressions_grows lhs before added middle
          (grows.ensureCurrent.addStatement adds) visitsLhs) visitsRhs
  | .routineCall routine arguments, before, builder, after, grows, visits => by
      simp only [visitStatement, Option.bind_eq_bind, Option.bind_eq_some_iff] at visits
      rcases visits with ⟨added, adds, middle, visitsRoutine, visitsArguments⟩
      exact visitExpressions_grows arguments before middle after
        (visitExpression_grows routine before added middle
          (grows.ensureCurrent.addStatement adds) visitsRoutine) visitsArguments
  | .ifStatement condition thenBranch, before, builder, after, grows, visits => by
      simp only [visitStatement, Option.bind_eq_bind, Option.bind_eq_some_iff,
        Option.pure_def, Option.some.injEq] at visits
      rcases visits with ⟨visited, visitsCondition, entered, enters, branch, visitsBranch,
        equal⟩
      have visitedGrown := visitExpression_grows condition before builder visited grows
        visitsCondition
      have branchGrown := visitStatement_grows thenBranch before entered branch
        (enterIf_grows visitedGrown enters) visitsBranch
      rw [<- equal]
      refine (branchGrown.addFallThrough _).setCurrent fun reference equal => ?_
      cases equal
      exact visitedGrown.ensureCurrent.owns_offset 1
  | .unless _ _, _, _, _, grows, visits => grows_of_equal grows (by simpa using visits)
  | .test _ _ _, _, _, _, grows, visits => grows_of_equal grows (by simpa using visits)
  | .whileStatement _ _, _, _, _, grows, visits => grows_of_equal grows (by simpa using visits)
  | .untilStatement _ _, _, _, _, grows, visits => grows_of_equal grows (by simpa using visits)
  | .repeatStatement _ _ _, _, _, _, grows, visits =>
      grows_of_equal grows (by simpa using visits)
  | .forStatement loopVariable uniqueName startExpr endExpr stepExpr body, before, builder,
      after, grows, visits => by
      simp only [visitStatement, Option.bind_eq_bind, Option.bind_eq_some_iff] at visits
      rcases visits with ⟨visited, visitsStart, entered, enters, inside, visitsBody, leaves⟩
      have visitedGrown := visitExpression_grows startExpr before _ visited
        grows.ensureCurrent visitsStart
      have insideGrown := visitStatement_grows body before entered inside
        (enterFor_grows visitedGrown enters) visitsBody
      exact leaveFor_grows insideGrown visitedGrown.fresh_le leaves
  | .forEach loopVariableName typeVariableName collection body _ inferredElementType, before,
      builder, after, grows, visits => by
      simp only [visitStatement] at visits
      split at visits
      · simp only [Option.bind_eq_bind, Option.bind_eq_some_iff, Option.pure_def,
          Option.some.injEq] at visits
        rcases visits with ⟨entered, enters, inside, visitsBody, equal⟩
        have insideGrown := visitStatement_grows body before entered inside
          (enterListForEach_grows grows.ensureCurrent enters) visitsBody
        rw [<- equal]
        exact (leaveListForEach_grows insideGrown
          grows.ensureCurrent.fresh_le).popLoopIfAny
      · simp only [Option.bind_eq_bind, Option.bind_eq_some_iff, Option.pure_def,
          Option.some.injEq] at visits
        rcases visits with ⟨entered, enters, inside, visitsBody, left, leaves, equal⟩
        have insideGrown := visitStatement_grows body before entered inside
          (enterVectorForEach_grows grows.ensureCurrent enters) visitsBody
        rw [<- equal]
        exact (leaveVectorForEach_grows insideGrown grows.ensureCurrent.fresh_le
          leaves).popLoopIfAny
  | .switchon expression cases none, before, builder, after, grows, visits => by
      have join := grows.endCurrentBlockAndStartNew.fresh_le
      simp only [visitStatement, Option.bind_eq_bind, Option.bind_eq_some_iff] at visits
      rcases visits with ⟨entered, enters, visited, visitsCases, leaves⟩
      have visitedGrown := visitCases_grows cases _ before entered visited
        (Nat.le_succ_of_le join) (enterSwitchon_grows grows enters) visitsCases
      exact leaveSwitchon_grows visitedGrown join leaves
  | .switchon expression cases (some defaultCase), before, builder, after, grows, visits => by
      have join := grows.endCurrentBlockAndStartNew.fresh_le
      simp only [visitStatement, Option.bind_eq_bind, Option.bind_eq_some_iff] at visits
      rcases visits with ⟨entered, enters, visited, visitsCases, branch, visitsDefault,
        leaves⟩
      have visitedGrown := visitCases_grows cases _ before entered visited
        (Nat.le_succ_of_le join) (enterSwitchon_grows grows enters) visitsCases
      have defaultEntered : Grows before (visited.setCurrent
          (some (builder.endCurrentBlockAndStartNew.fresh + 1 + cases.length))) := by
        refine visitedGrown.setCurrent fun reference equal => ?_
        cases equal
        exact Or.inr (by omega)
      have branchGrown := visitStatement_grows defaultCase before _ branch defaultEntered
        visitsDefault
      exact leaveSwitchon_grows (branchGrown.addFallThrough _) join leaves
  | .goto label, before, builder, after, grows, visits => by
      simp only [visitStatement] at visits
      exact visitGoto_grows grows visits
  | .returnStatement, before, builder, after, grows, visits => by
      simp only [visitStatement] at visits
      exact visitLeave_grows grows visits
  | .finish, before, builder, after, grows, visits => by
      simp only [visitStatement] at visits
      exact visitFinish_grows grows visits
  | .breakStatement, before, builder, after, grows, visits => by
      simp only [visitStatement] at visits
      exact visitJump_grows grows visits
  | .brk, before, builder, after, grows, visits => by
      simp only [visitStatement] at visits
      exact grows.ensureCurrent.addStatement visits
  | .loop, before, builder, after, grows, visits => by
      simp only [visitStatement] at visits
      exact visitJump_grows grows visits
  | .endcase, before, builder, after, grows, visits => by
      simp only [visitStatement] at visits
      exact visitJump_grows grows visits
  | .resultis expression, before, builder, after, grows, visits => by
      simp only [visitStatement] at visits
      exact visitLeave_grows grows visits
  | .compound statements, before, builder, after, grows, visits => by
      simp only [visitStatement] at visits
      exact visitStatements_grows statements before builder after grows visits
  | .block declarations statements, before, builder, after, grows, visits => by
      simp only [visitStatement, Option.bind_eq_bind, Option.bind_eq_some_iff] at visits
      rcases visits with ⟨declared, declares, visitsStatements⟩
      exact visitStatements_grows statements before declared after
        (visitDeclarations_grows declarations before builder declared grows declares)
        visitsStatements
  | .stringStatement size, before, builder, after, grows, visits => by
      simp only [visitStatement, Option.bind_eq_bind, Option.bind_eq_some_iff] at visits
      rcases visits with ⟨added, adds, visitsSize⟩
      exact visitExpression_grows size before added after
        (grows.ensureCurrent.addStatement adds) visitsSize
  | .free _, _, _, _, grows, visits => grows_of_equal grows (by simpa using visits)
  | .labelTarget labelName, before, builder, after, grows, visits => by
      simp only [visitStatement] at visits
      exact visitLabelTarget_grows grows visits
  | .conditionalBranch _ _ _, _, _, _, grows, visits =>
      grows_of_equal grows (by simpa using visits)
  | .misplacedExpression expression, before, builder, after, grows, visits => by
      simp only [visitStatement] at visits
      exact visitExpression_grows expression before builder after grows visits

theorem visitStatements_grows : (statements : List Statement) ->
    forall before builder after, Grows before builder ->
      visitStatements inferType statements builder = some after -> Grows before after
  | [], _, _, _, grows, visits => grows_of_equal grows (by simpa using visits)
  | first :: rest, before, builder, after, grows, visits => by
      simp only [visitStatements, Option.bind_eq_bind, Option.bind_eq_some_iff] at visits
      rcases visits with ⟨middle, visitsFirst, visitsRest⟩
      exact visitStatements_grows rest before middle after
        (visitStatement_grows first before _ middle grows.ensureCurrent visitsFirst)
        visitsRest

theorem visitCases_grows {join : Nat} : (cases : List CaseStatement) ->
    forall caseBlock before builder after, before.fresh <= caseBlock ->
      Grows before builder ->
      visitCases inferType join caseBlock cases builder = some after -> Grows before after
  | [], _, _, _, _, _, grows, visits => grows_of_equal grows (by simpa using visits)
  | .mk _ _ command :: rest, caseBlock, before, builder, after, new, grows, visits => by
      simp only [visitCases, Option.bind_eq_bind, Option.bind_eq_some_iff] at visits
      rcases visits with ⟨visited, visitsCommand, visitsRest⟩
      have entered : Grows before (builder.setCurrent (some caseBlock)) :=
        grows.setCurrent fun reference equal => by
          cases equal
          exact Or.inr new
      have visitedGrown := visitStatement_grows command before _ visited entered visitsCommand
      exact visitCases_grows rest _ before _ after (Nat.le_succ_of_le new)
        (visitedGrown.addFallThrough join) visitsRest

theorem visitDeclarations_grows : (declarations : List Declaration) ->
    forall before builder after, Grows before builder ->
      visitDeclarations inferType declarations builder = some after -> Grows before after
  | [], _, _, _, grows, visits => grows_of_equal grows (by simpa using visits)
  | .staticDeclaration _ initializer :: rest, before, builder, after, grows, visits => by
      simp only [visitDeclarations, Option.bind_eq_bind, Option.bind_eq_some_iff] at visits
      rcases visits with ⟨middle, visitsInitializer, visitsRest⟩
      exact visitDeclarations_grows rest before middle after
        (visitExpression_grows initializer before _ middle grows.ensureCurrent
          visitsInitializer) visitsRest
  | .manifestDeclaration _ _ :: rest, before, builder, after, grows, visits => by
      simp only [visitDeclarations] at visits
      exact visitDeclarations_grows rest before _ after grows.ensureCurrent visits
  | .globalDeclaration _ :: rest, before, builder, after, grows, visits => by
      simp only [visitDeclarations] at visits
      exact visitDeclarations_grows rest before _ after grows.ensureCurrent visits

end

end Visits

end ControlFlow
end NewBcpl
