import NewBcpl.Analysis.VariableBindings

namespace NewBcpl
namespace Analysis

/-!
# The bindings of a renamed tree

A renamer keeps the bindings of a tree if and only if every occurrence resolves alike
and no loop has the name of an active one.
-/

/-! ## Names in a scope -/

/-- The innermost declarations of two names are at one place if and only if the names
resolve alike. -/
theorem idxOf_eq_iff (scope : List Declared) (name newName : String) :
    (scope.map Declared.source).idxOf? name = (scope.map Declared.renamed).idxOf? newName <->
      resolvesAlike scope name newName = true := by
  induction scope with
  | nil => simp [resolvesAlike]
  | cons declared scope scopeIff =>
      simp only [List.map_cons, List.idxOf?_cons, resolvesAlike]
      by_cases called : declared.source = name
      · by_cases renamed : declared.renamed = newName <;> simp [called, renamed]
      · by_cases renamed : declared.renamed = newName
        · simp [called, renamed]
        · rw [← Option.map_injective Nat.succ_injective |>.eq_iff] at scopeIff
          simpa [called, renamed] using scopeIff

namespace Declared

@[simp] theorem source_kept (names : List String) : (kept names).map source = names := by
  simp [kept, Function.comp_def]

@[simp] theorem renamed_kept (names : List String) : (kept names).map renamed = names := by
  simp [kept, Function.comp_def]

end Declared

/-! ## The loops met by a traversal -/

attribute [local simp] visitExpression visitExpressions visitExpressionPtr
  visitInitializers visitStatement visitStatements visitStatementPtr visitCases
  afterExpression afterExpressions afterExpressionPtr afterInitializers afterStatement
  afterStatements afterStatementPtr afterCases

variable {State : Type} (renamer : Renamer State)

mutual

/-- A traversal ends with the loops met. -/
theorem visitExpression_after (state : State) : forall expression : Expression,
    (visitExpression renamer state expression).2 = afterExpression renamer state expression
  | .binaryOp _ left right => by
      simp [visitExpression_after state left,
        visitExpression_after (afterExpression renamer state left) right]
  | .unaryOp _ operand => by simp [visitExpression_after state operand]
  | .vectorAccess vector index => by
      simp [visitExpression_after state vector,
        visitExpression_after (afterExpression renamer state vector) index]
  | .charIndirection string index => by
      simp [visitExpression_after state string,
        visitExpression_after (afterExpression renamer state string) index]
  | .floatVectorIndirection vector index => by
      simp [visitExpression_after state vector,
        visitExpression_after (afterExpression renamer state vector) index]
  | .bitfieldAccess base startBit width => by simp [visitExpression_after]
  | .functionCall _ arguments => by simp [visitExpressions_after state arguments]
  | .sysCall _ _ arguments => by simp [visitExpressions_after state arguments]
  | .conditional condition trueExpr falseExpr => by simp [visitExpression_after]
  | .valof body => by simp [visitStatement_after state body]
  | .floatValof body => by simp [visitStatement_after state body]
  | .vecAllocation size => by simp [visitExpression_after state size]
  | .stringAllocation size => by simp [visitExpression_after state size]
  | .list initializers _ => by simp [visitExpressions_after state initializers]
  | .integerLiteral _ | .floatLiteral _ | .stringLiteral _ | .charLiteral _
  | .booleanLiteral _ | .variableAccess _ | .fvecAllocation _ | .table _ _
  | .vecInitializer _ => by simp

theorem visitExpressions_after (state : State) : forall expressions : List Expression,
    (visitExpressions renamer state expressions).2 =
      afterExpressions renamer state expressions
  | [] => by simp
  | expression :: rest => by
      simp [visitExpression_after state expression,
        visitExpressions_after (afterExpression renamer state expression) rest]

theorem visitExpressionPtr_after (state : State) : forall expression : Option Expression,
    (visitExpressionPtr renamer state expression).2 =
      afterExpressionPtr renamer state expression
  | none => by simp
  | some expression => by simp [visitExpression_after state expression]

theorem visitInitializers_after (state : State) :
    forall (names : List String) (initializers : List Expression),
      (visitInitializers renamer state names initializers).2 =
        afterInitializers renamer state names initializers
  | [], [] => by simp
  | _ :: _, [] => by simp
  | [], _ :: _ => by simp
  | _ :: names, expression :: rest => by
      simp [visitExpression_after state expression,
        visitInitializers_after (afterExpression renamer state expression) names rest]

theorem visitStatement_after (state : State) : forall statement : Statement,
    (visitStatement renamer state statement).2 = afterStatement renamer state statement
  | .letDeclaration names initializers => by
      simp [visitInitializers_after state names initializers]
  | .assignment lhs rhs => by
      simp [visitExpressions_after state rhs,
        visitExpressions_after (afterExpressions renamer state rhs) lhs]
  | .routineCall routine arguments => by
      cases own : isSetType routine arguments <;>
        simp [own, visitExpressions_after state arguments]
  | .ifStatement condition thenBranch => by
      simp [visitExpression_after, visitStatement_after]
  | .unless condition thenBranch => by
      simp [visitExpression_after, visitStatement_after]
  | .test condition thenBranch elseBranch => by
      simp [visitExpression_after, visitStatement_after]
  | .whileStatement condition body => by
      simp [visitExpression_after state condition,
        visitStatement_after (afterExpression renamer state condition) body]
  | .untilStatement condition body => by
      simp [visitExpression_after state condition,
        visitStatement_after (afterExpression renamer state condition) body]
  | .repeatStatement _ body condition => by
      simp [visitStatement_after, visitExpressionPtr_after]
  | .forStatement loopVariable _ startExpr endExpr stepExpr body => by
      simp [visitExpression_after, visitExpressionPtr_after, visitStatement_after]
  | .forEach _ _ collection body _ _ => by
      simp [visitExpression_after, visitStatement_after]
  | .switchon expression cases defaultCase => by
      simp [visitExpression_after, visitCases_after, visitStatementPtr_after]
  | .resultis expression => by simp [visitExpression_after state expression]
  | .compound statements => by simp [visitStatements_after state statements]
  | .block _ statements => by simp [visitStatements_after state statements]
  | .stringStatement size => by simp [visitExpression_after state size]
  | .free listExpr => by simp [visitExpression_after state listExpr]
  | .misplacedExpression expression => by
      simp [visitExpression_after state expression]
  | .goto _ | .returnStatement | .finish | .breakStatement | .brk | .loop | .endcase
  | .labelTarget _ | .conditionalBranch _ _ _ => by simp

theorem visitStatements_after (state : State) : forall statements : List Statement,
    (visitStatements renamer state statements).2 = afterStatements renamer state statements
  | [] => by simp
  | statement :: rest => by
      simp [visitStatement_after state statement,
        visitStatements_after (afterStatement renamer state statement) rest]

theorem visitStatementPtr_after (state : State) : forall statement : Option Statement,
    (visitStatementPtr renamer state statement).2 =
      afterStatementPtr renamer state statement
  | none => by simp
  | some statement => by simp [visitStatement_after state statement]

theorem visitCases_after (state : State) : forall cases : List CaseStatement,
    (visitCases renamer state cases).2 = afterCases renamer state cases
  | [] => by simp
  | .mk _ _ command :: rest => by
      simp [visitStatement_after state command,
        visitCases_after (afterStatement renamer state command) rest]

end

attribute [local simp] visitExpression_after visitExpressions_after
  visitExpressionPtr_after visitInitializers_after visitStatement_after
  visitStatements_after visitStatementPtr_after visitCases_after

/-- A traversal leaves the names that a statement declares. -/
theorem letNames_visited (state : State) (statement : Statement) :
    letNames (visitStatement renamer state statement).1 = letNames statement := by
  cases statement <;> simp [letNames]
  case routineCall routine arguments => cases isSetType routine arguments <;> rfl

/-! ## The bindings of one traversal -/

attribute [local simp] expressionBindings expressionsBindings expressionPtrBindings
  statementBindings statementsBindings statementPtrBindings casesBindings
  keptExpression keptExpressions keptExpressionPtr keptInitializers keptStatement
  keptStatements keptStatementPtr keptCases unchangedExpression unchangedExpressions
  unchangedDeclarations

mutual

/-- A traversal keeps the bindings of an expression if and only if every occurrence
resolves alike and no loop has the name of an active one. -/
theorem expression_kept (state : State) (scope : List Declared) (active : List String) :
    forall expression : Expression,
      expressionBindings .source (scope.map Declared.source) [] expression =
          expressionBindings .renamed (scope.map Declared.renamed) active
            (visitExpression renamer state expression).1 <->
        keptExpression renamer state scope active expression = true
  | .variableAccess name => by
      simpa using idxOf_eq_iff scope name _
  | .binaryOp _ left right => by
      have leftIff := expression_kept state scope active left
      have rightIff := expression_kept (afterExpression renamer state left) scope active
        right
      simp [leftIff, rightIff]
  | .unaryOp _ operand => by
      have operandIff := expression_kept state scope active operand
      simp [operandIff]
  | .vectorAccess vector index => by
      have vectorIff := expression_kept state scope active vector
      have indexIff := expression_kept (afterExpression renamer state vector) scope active
        index
      simp [vectorIff, indexIff]
  | .charIndirection string index => by
      have stringIff := expression_kept state scope active string
      have indexIff := expression_kept (afterExpression renamer state string) scope active
        index
      simp [stringIff, indexIff]
  | .floatVectorIndirection vector index => by
      have vectorIff := expression_kept state scope active vector
      have indexIff := expression_kept (afterExpression renamer state vector) scope active
        index
      simp [vectorIff, indexIff]
  | .bitfieldAccess base startBit width => by
      have baseIff := expression_kept state scope active base
      have startBitIff := expression_kept (afterExpression renamer state base) scope
        active startBit
      have widthIff := expression_kept
        (afterExpression renamer (afterExpression renamer state base) startBit) scope
        active width
      simp [baseIff, startBitIff, widthIff]
  | .functionCall function arguments => by
      have argumentsIff := expressions_kept state scope active arguments
      simp [argumentsIff]
  | .sysCall _ syscallNumber arguments => by
      have argumentsIff := expressions_kept state scope active arguments
      simp [argumentsIff]
  | .conditional condition trueExpr falseExpr => by
      have conditionIff := expression_kept state scope active condition
      have trueExprIff := expression_kept (afterExpression renamer state condition) scope
        active trueExpr
      have falseExprIff := expression_kept
        (afterExpression renamer (afterExpression renamer state condition) trueExpr) scope
        active falseExpr
      simp [conditionIff, trueExprIff, falseExprIff]
  | .valof body => by
      have bodyIff := statement_kept state scope active body
      simp [bodyIff]
  | .floatValof body => by
      have bodyIff := statement_kept state scope active body
      simp [bodyIff]
  | .vecAllocation size => by
      have sizeIff := expression_kept state scope active size
      simp [sizeIff]
  | .stringAllocation size => by
      have sizeIff := expression_kept state scope active size
      simp [sizeIff]
  | .list initializers _ => by
      have initializersIff := expressions_kept state scope active initializers
      simp [initializersIff]
  | .fvecAllocation _ | .table _ _ | .vecInitializer _ => by simp
  | .integerLiteral _ | .floatLiteral _ | .stringLiteral _ | .charLiteral _
  | .booleanLiteral _ => by simp

theorem expressions_kept (state : State) (scope : List Declared) (active : List String) :
    forall expressions : List Expression,
      expressionsBindings .source (scope.map Declared.source) [] expressions =
          expressionsBindings .renamed (scope.map Declared.renamed) active
            (visitExpressions renamer state expressions).1 <->
        keptExpressions renamer state scope active expressions = true
  | [] => by simp
  | expression :: rest => by
      have expressionIff := expression_kept state scope active expression
      have restIff :=
        expressions_kept (afterExpression renamer state expression) scope active rest
      simp [expressionIff, restIff]

theorem expressionPtr_kept (state : State) (scope : List Declared)
    (active : List String) : forall expression : Option Expression,
      expressionPtrBindings .source (scope.map Declared.source) [] expression =
          expressionPtrBindings .renamed (scope.map Declared.renamed) active
            (visitExpressionPtr renamer state expression).1 <->
        keptExpressionPtr renamer state scope active expression = true
  | none => by simp
  | some expression => by simpa using expression_kept state scope active expression

theorem initializers_kept (state : State) (scope : List Declared) (active : List String) :
    forall (names : List String) (initializers : List Expression),
      expressionsBindings .source (scope.map Declared.source) [] initializers =
          expressionsBindings .renamed (scope.map Declared.renamed) active
            (visitInitializers renamer state names initializers).1 <->
        keptInitializers renamer state scope active names initializers = true
  | [], [] => by simp
  | _ :: _, [] => by simp
  | [], _ :: _ => by simp
  | _ :: names, expression :: rest => by
      have expressionIff := expression_kept state scope active expression
      have restIff := initializers_kept (afterExpression renamer state expression) scope
        active names rest
      simp [expressionIff, restIff]

theorem statement_kept (state : State) (scope : List Declared) (active : List String) :
    forall statement : Statement,
      statementBindings .source (scope.map Declared.source) [] statement =
          statementBindings .renamed (scope.map Declared.renamed) active
            (visitStatement renamer state statement).1 <->
        keptStatement renamer state scope active statement = true
  | .letDeclaration names initializers => by
      simpa using initializers_kept state scope active names initializers
  | .assignment lhs rhs => by
      have lhsIff := expressions_kept (afterExpressions renamer state rhs) scope active lhs
      have rhsIff := expressions_kept state scope active rhs
      simp [lhsIff, rhsIff]
  | .routineCall routine arguments => by
      have argumentsIff := expressions_kept state scope active arguments
      cases own : isSetType routine arguments <;> simp [own, argumentsIff]
  | .ifStatement condition thenBranch => by
      have conditionIff := expression_kept state scope active condition
      have thenBranchIff := statement_kept (afterExpression renamer state condition) scope
        active thenBranch
      simp [conditionIff, thenBranchIff]
  | .unless condition thenBranch => by
      have conditionIff := expression_kept state scope active condition
      have thenBranchIff := statement_kept (afterExpression renamer state condition) scope
        active thenBranch
      simp [conditionIff, thenBranchIff]
  | .test condition thenBranch elseBranch => by
      have conditionIff := expression_kept state scope active condition
      have thenBranchIff := statement_kept (afterExpression renamer state condition) scope
        active thenBranch
      have elseBranchIff := statement_kept
        (afterStatement renamer (afterExpression renamer state condition) thenBranch)
        scope active elseBranch
      simp [conditionIff, thenBranchIff, elseBranchIff]
  | .whileStatement condition body => by
      have conditionIff := expression_kept state scope active condition
      have bodyIff := statement_kept (afterExpression renamer state condition) scope
        active body
      simp [conditionIff, bodyIff]
  | .untilStatement condition body => by
      have conditionIff := expression_kept state scope active condition
      have bodyIff := statement_kept (afterExpression renamer state condition) scope
        active body
      simp [conditionIff, bodyIff]
  | .repeatStatement _ body condition => by
      have bodyIff := statement_kept state scope active body
      have conditionIff := expressionPtr_kept (afterStatement renamer state body) scope
        active condition
      simp [bodyIff, conditionIff]
  | .forStatement loopVariable _ startExpr endExpr stepExpr body => by
      have startIff := expression_kept (renamer.enterFor state loopVariable).2 scope active
        startExpr
      have endIff := expression_kept
        (afterExpression renamer (renamer.enterFor state loopVariable).2 startExpr) scope
        ((renamer.enterFor state loopVariable).1 :: active) endExpr
      have stepIff := expressionPtr_kept
        (afterExpression renamer
          (afterExpression renamer (renamer.enterFor state loopVariable).2 startExpr) endExpr)
        scope ((renamer.enterFor state loopVariable).1 :: active) stepExpr
      have bodyIff := statement_kept
        (afterExpressionPtr renamer (afterExpression renamer
          (afterExpression renamer (renamer.enterFor state loopVariable).2 startExpr) endExpr)
          stepExpr)
        (⟨loopVariable, (renamer.enterFor state loopVariable).1⟩ :: scope)
        ((renamer.enterFor state loopVariable).1 :: active) body
      rw [List.map_cons, List.map_cons] at bodyIff
      simp [Reading.loopName, Reading.shares, Reading.activate, startIff, endIff, stepIff,
        bodyIff]
  | .forEach loopVariable typeVariable collection body _ _ => by
      have collectionIff := expression_kept state scope active collection
      have bodyIff := statement_kept (afterExpression renamer state collection)
        (Declared.kept (Passes.forEachNames loopVariable typeVariable) ++ scope) active
        body
      rw [List.map_append, List.map_append, Declared.source_kept, Declared.renamed_kept]
        at bodyIff
      simp [collectionIff, bodyIff]
  | .switchon expression cases defaultCase => by
      have expressionIff := expression_kept state scope active expression
      have casesIff := cases_kept (afterExpression renamer state expression) scope active
        cases
      have defaultCaseIff := statementPtr_kept
        (afterCases renamer (afterExpression renamer state expression) cases) scope active
        defaultCase
      simp [expressionIff, casesIff, defaultCaseIff]
  | .resultis expression => by
      have expressionIff := expression_kept state scope active expression
      simp [expressionIff]
  | .compound statements => by
      have statementsIff := statements_kept state scope active statements
      simp [statementsIff]
  | .block declarations statements => by
      have statementsIff := statements_kept state
        (Declared.kept (declarationNames declarations) ++ scope) active statements
      rw [List.map_append, List.map_append, Declared.source_kept, Declared.renamed_kept]
        at statementsIff
      simp [statementsIff]
  | .stringStatement size => by
      have sizeIff := expression_kept state scope active size
      simp [sizeIff]
  | .free listExpr => by
      have listExprIff := expression_kept state scope active listExpr
      simp [listExprIff]
  | .misplacedExpression expression => by
      have expressionIff := expression_kept state scope active expression
      simp [expressionIff]
  | .conditionalBranch _ _ _ => by simp
  | .goto _ | .returnStatement | .finish | .breakStatement | .brk | .loop | .endcase
  | .labelTarget _ => by simp

theorem statements_kept (state : State) (scope : List Declared) (active : List String) :
    forall statements : List Statement,
      statementsBindings .source (scope.map Declared.source) [] statements =
          statementsBindings .renamed (scope.map Declared.renamed) active
            (visitStatements renamer state statements).1 <->
        keptStatements renamer state scope active statements = true
  | [] => by simp
  | statement :: rest => by
      have statementIff := statement_kept state scope active statement
      have restIff := statements_kept (afterStatement renamer state statement)
        (Declared.kept (letNames statement) ++ scope) active rest
      rw [List.map_append, List.map_append, Declared.source_kept, Declared.renamed_kept]
        at restIff
      simp [statementIff, restIff, letNames_visited]

theorem statementPtr_kept (state : State) (scope : List Declared)
    (active : List String) : forall statement : Option Statement,
      statementPtrBindings .source (scope.map Declared.source) [] statement =
          statementPtrBindings .renamed (scope.map Declared.renamed) active
            (visitStatementPtr renamer state statement).1 <->
        keptStatementPtr renamer state scope active statement = true
  | none => by simp
  | some statement => by simpa using statement_kept state scope active statement

theorem cases_kept (state : State) (scope : List Declared) (active : List String) :
    forall cases : List CaseStatement,
      casesBindings .source (scope.map Declared.source) [] cases =
          casesBindings .renamed (scope.map Declared.renamed) active
            (visitCases renamer state cases).1 <->
        keptCases renamer state scope active cases = true
  | [] => by simp
  | .mk constantExpr _ command :: rest => by
      have commandIff := statement_kept state scope active command
      have restIff := cases_kept (afterStatement renamer state command) scope active rest
      simp [commandIff, restIff]

end

end Analysis
end NewBcpl
