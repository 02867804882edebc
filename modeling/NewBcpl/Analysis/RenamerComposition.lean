import NewBcpl.Analysis.BindingTraversal

namespace NewBcpl
namespace Analysis

/-!
# Renamers after one another and beside one another

Two traversals of a tree are one traversal with the combined renamer, and renamers that
give equal names in related states leave equal trees.
-/

attribute [local simp] visitExpression visitExpressions visitExpressionPtr
  visitInitializers visitStatement visitStatements visitStatementPtr visitCases
  afterExpression afterExpressions afterExpressionPtr afterInitializers afterStatement
  afterStatements afterStatementPtr afterCases visitExpression_after
  visitExpressions_after visitExpressionPtr_after visitInitializers_after
  visitStatement_after visitStatements_after visitStatementPtr_after visitCases_after

variable {State : Type} (renamer : Renamer State)

/-! ## Two traversals -/

theorem visitExpressions_length (state : State) (expressions : List Expression) :
    (visitExpressions renamer state expressions).1.length = expressions.length := by
  induction expressions generalizing state with
  | nil => simp
  | cons expression rest restLength => simp [restLength]

/-- The arguments of a call tell before and after a traversal whether it is the one of
the analyzer. -/
theorem isSetType_visited (state : State) (routine : Expression)
    (arguments : List Expression) :
    isSetType routine (visitExpressions renamer state arguments).1 =
      isSetType routine arguments := by
  cases routine <;> simp [isSetType, visitExpressions_length]

section TwoTraversals

variable {First Second : Type} (first : Renamer First) (second : Renamer Second)

@[simp] theorem Renamer.andThen_name (state : First) (next : Second) (name : String) :
    (first.andThen second).getEffectiveVariableName (state, next) name =
      second.getEffectiveVariableName next (first.getEffectiveVariableName state name) :=
  rfl

@[simp] theorem Renamer.andThen_enterFor (state : First) (next : Second)
    (loopVariable : String) :
    (first.andThen second).enterFor (state, next) loopVariable =
      ((second.enterFor next loopVariable).1,
        (first.enterFor state loopVariable).2, (second.enterFor next loopVariable).2) :=
  rfl

@[simp] theorem Renamer.andThen_leaveFor (state : First) (next : Second) :
    (first.andThen second).leaveFor (state, next) =
      (first.leaveFor state, second.leaveFor next) :=
  rfl

mutual

/-- Two traversals of an expression are one of the combined renamer. -/
theorem visitExpression_andThen (state : First) (next : Second) :
    forall expression : Expression,
      visitExpression (first.andThen second) (state, next) expression =
        ((visitExpression second next (visitExpression first state expression).1).1,
          afterExpression first state expression,
          (visitExpression second next (visitExpression first state expression).1).2)
  | .variableAccess _ => by simp
  | .binaryOp _ left right => by simp [visitExpression_andThen]
  | .unaryOp _ operand => by simp [visitExpression_andThen]
  | .vectorAccess vector index => by simp [visitExpression_andThen]
  | .charIndirection string index => by simp [visitExpression_andThen]
  | .floatVectorIndirection vector index => by simp [visitExpression_andThen]
  | .bitfieldAccess base startBit width => by simp [visitExpression_andThen]
  | .functionCall _ arguments => by simp [visitExpressions_andThen]
  | .sysCall _ _ arguments => by simp [visitExpressions_andThen]
  | .conditional condition trueExpr falseExpr => by simp [visitExpression_andThen]
  | .valof body => by simp [visitStatement_andThen]
  | .floatValof body => by simp [visitStatement_andThen]
  | .vecAllocation size => by simp [visitExpression_andThen]
  | .stringAllocation size => by simp [visitExpression_andThen]
  | .list initializers _ => by simp [visitExpressions_andThen]
  | .integerLiteral _ | .floatLiteral _ | .stringLiteral _ | .charLiteral _
  | .booleanLiteral _ | .fvecAllocation _ | .table _ _ | .vecInitializer _ => by simp

theorem visitExpressions_andThen (state : First) (next : Second) :
    forall expressions : List Expression,
      visitExpressions (first.andThen second) (state, next) expressions =
        ((visitExpressions second next (visitExpressions first state expressions).1).1,
          afterExpressions first state expressions,
          (visitExpressions second next (visitExpressions first state expressions).1).2)
  | [] => by simp
  | _ :: _ => by simp [visitExpression_andThen, visitExpressions_andThen]

theorem visitExpressionPtr_andThen (state : First) (next : Second) :
    forall expression : Option Expression,
      visitExpressionPtr (first.andThen second) (state, next) expression =
        ((visitExpressionPtr second next (visitExpressionPtr first state expression).1).1,
          afterExpressionPtr first state expression,
          (visitExpressionPtr second next (visitExpressionPtr first state expression).1).2)
  | none => by simp
  | some _ => by simp [visitExpression_andThen]

theorem visitInitializers_andThen (state : First) (next : Second) :
    forall (names : List String) (initializers : List Expression),
      visitInitializers (first.andThen second) (state, next) names initializers =
        ((visitInitializers second next names
            (visitInitializers first state names initializers).1).1,
          afterInitializers first state names initializers,
          (visitInitializers second next names
            (visitInitializers first state names initializers).1).2)
  | [], [] => by simp
  | _ :: _, [] => by simp
  | [], _ :: _ => by simp
  | _ :: _, _ :: _ => by simp [visitExpression_andThen, visitInitializers_andThen]

theorem visitStatement_andThen (state : First) (next : Second) :
    forall statement : Statement,
      visitStatement (first.andThen second) (state, next) statement =
        ((visitStatement second next (visitStatement first state statement).1).1,
          afterStatement first state statement,
          (visitStatement second next (visitStatement first state statement).1).2)
  | .letDeclaration names initializers => by
      simp [visitInitializers_andThen state next names initializers]
  | .assignment lhs rhs => by simp [visitExpressions_andThen]
  | .routineCall routine arguments => by
      have kept := isSetType_visited first state routine arguments
      cases own : isSetType routine arguments <;> rw [own] at kept <;>
        simp [own, kept, visitExpressions_andThen state next arguments]
  | .ifStatement condition thenBranch => by
      simp [visitExpression_andThen, visitStatement_andThen]
  | .unless condition thenBranch => by
      simp [visitExpression_andThen, visitStatement_andThen]
  | .test condition thenBranch elseBranch => by
      simp [visitExpression_andThen, visitStatement_andThen]
  | .whileStatement condition body => by
      simp [visitExpression_andThen, visitStatement_andThen]
  | .untilStatement condition body => by
      simp [visitExpression_andThen, visitStatement_andThen]
  | .repeatStatement _ body condition => by
      simp [visitStatement_andThen, visitExpressionPtr_andThen]
  | .forStatement loopVariable _ startExpr endExpr stepExpr body => by
      simp [visitExpression_andThen, visitExpressionPtr_andThen, visitStatement_andThen]
  | .forEach _ _ collection body _ _ => by
      simp [visitExpression_andThen, visitStatement_andThen]
  | .switchon expression cases defaultCase => by
      simp [visitExpression_andThen, visitCases_andThen, visitStatementPtr_andThen]
  | .resultis expression => by simp [visitExpression_andThen]
  | .compound statements => by simp [visitStatements_andThen]
  | .block _ statements => by simp [visitStatements_andThen state next statements]
  | .stringStatement size => by simp [visitExpression_andThen]
  | .free listExpr => by simp [visitExpression_andThen]
  | .misplacedExpression expression => by simp [visitExpression_andThen]
  | .goto _ | .returnStatement | .finish | .breakStatement | .brk | .loop | .endcase
  | .labelTarget _ | .conditionalBranch _ _ _ => by simp

theorem visitStatements_andThen (state : First) (next : Second) :
    forall statements : List Statement,
      visitStatements (first.andThen second) (state, next) statements =
        ((visitStatements second next (visitStatements first state statements).1).1,
          afterStatements first state statements,
          (visitStatements second next (visitStatements first state statements).1).2)
  | [] => by simp
  | _ :: _ => by simp [visitStatement_andThen, visitStatements_andThen]

theorem visitStatementPtr_andThen (state : First) (next : Second) :
    forall statement : Option Statement,
      visitStatementPtr (first.andThen second) (state, next) statement =
        ((visitStatementPtr second next (visitStatementPtr first state statement).1).1,
          afterStatementPtr first state statement,
          (visitStatementPtr second next (visitStatementPtr first state statement).1).2)
  | none => by simp
  | some _ => by simp [visitStatement_andThen]

theorem visitCases_andThen (state : First) (next : Second) :
    forall cases : List CaseStatement,
      visitCases (first.andThen second) (state, next) cases =
        ((visitCases second next (visitCases first state cases).1).1,
          afterCases first state cases,
          (visitCases second next (visitCases first state cases).1).2)
  | [] => by simp
  | .mk _ _ _ :: _ => by simp [visitStatement_andThen, visitCases_andThen]

end

end TwoTraversals

/-! ## Renamers that give equal names -/

/-- In related states the renamers give equal names, and related states follow. -/
structure Simulation {First Second : Type} (first : Renamer First)
    (second : Renamer Second) (relation : First -> Second -> Prop) : Prop where
  name {state : First} {other : Second} (related : relation state other)
    (name : String) :
    first.getEffectiveVariableName state name = second.getEffectiveVariableName other name
  enterFor {state : First} {other : Second} (related : relation state other)
    (loopVariable : String) :
    (first.enterFor state loopVariable).1 = (second.enterFor other loopVariable).1 ∧
      relation (first.enterFor state loopVariable).2 (second.enterFor other loopVariable).2
  leaveFor {state : First} {other : Second} (related : relation state other) :
    relation (first.leaveFor state) (second.leaveFor other)
  enterFunction {state : First} {other : Second} (related : relation state other) :
    relation (first.enterFunction state) (second.enterFunction other)

section Simulations

variable {First Second : Type} {first : Renamer First} {second : Renamer Second}
  {relation : First -> Second -> Prop}

mutual

/-- Renamers that give equal names leave equal expressions. -/
theorem visitExpression_related (simulation : Simulation first second relation)
    {state : First} {other : Second} (related : relation state other) :
    forall expression : Expression,
      (visitExpression first state expression).1 =
          (visitExpression second other expression).1 ∧
        relation (afterExpression first state expression)
          (afterExpression second other expression)
  | .variableAccess name => ⟨by simp [simulation.name related name], by simpa using related⟩
  | .binaryOp _ left right => by
      have sameLeft := visitExpression_related simulation related left
      have sameRight := visitExpression_related simulation sameLeft.2 right
      exact ⟨by simp [sameLeft.1, sameRight.1], by simpa using sameRight.2⟩
  | .unaryOp _ operand => by
      have same := visitExpression_related simulation related operand
      exact ⟨by simp [same.1], by simpa using same.2⟩
  | .vectorAccess vector index => by
      have sameVector := visitExpression_related simulation related vector
      have sameIndex := visitExpression_related simulation sameVector.2 index
      exact ⟨by simp [sameVector.1, sameIndex.1], by simpa using sameIndex.2⟩
  | .charIndirection string index => by
      have sameString := visitExpression_related simulation related string
      have sameIndex := visitExpression_related simulation sameString.2 index
      exact ⟨by simp [sameString.1, sameIndex.1], by simpa using sameIndex.2⟩
  | .floatVectorIndirection vector index => by
      have sameVector := visitExpression_related simulation related vector
      have sameIndex := visitExpression_related simulation sameVector.2 index
      exact ⟨by simp [sameVector.1, sameIndex.1], by simpa using sameIndex.2⟩
  | .bitfieldAccess base startBit width => by
      have sameBase := visitExpression_related simulation related base
      have sameStartBit := visitExpression_related simulation sameBase.2 startBit
      have sameWidth := visitExpression_related simulation sameStartBit.2 width
      exact ⟨by simp [sameBase.1, sameStartBit.1, sameWidth.1], by simpa using sameWidth.2⟩
  | .functionCall _ arguments => by
      have same := visitExpressions_related simulation related arguments
      exact ⟨by simp [same.1], by simpa using same.2⟩
  | .sysCall _ _ arguments => by
      have same := visitExpressions_related simulation related arguments
      exact ⟨by simp [same.1], by simpa using same.2⟩
  | .conditional condition trueExpr falseExpr => by
      have sameCondition := visitExpression_related simulation related condition
      have sameTrueExpr := visitExpression_related simulation sameCondition.2 trueExpr
      have sameFalseExpr := visitExpression_related simulation sameTrueExpr.2 falseExpr
      exact ⟨by simp [sameCondition.1, sameTrueExpr.1, sameFalseExpr.1],
        by simpa using sameFalseExpr.2⟩
  | .valof body => by
      have same := visitStatement_related simulation related body
      exact ⟨by simp [same.1], by simpa using same.2⟩
  | .floatValof body => by
      have same := visitStatement_related simulation related body
      exact ⟨by simp [same.1], by simpa using same.2⟩
  | .vecAllocation size => by
      have same := visitExpression_related simulation related size
      exact ⟨by simp [same.1], by simpa using same.2⟩
  | .stringAllocation size => by
      have same := visitExpression_related simulation related size
      exact ⟨by simp [same.1], by simpa using same.2⟩
  | .list initializers _ => by
      have same := visitExpressions_related simulation related initializers
      exact ⟨by simp [same.1], by simpa using same.2⟩
  | .integerLiteral _ | .floatLiteral _ | .stringLiteral _ | .charLiteral _
  | .booleanLiteral _ | .fvecAllocation _ | .table _ _ | .vecInitializer _ => by
      simpa using related

theorem visitExpressions_related (simulation : Simulation first second relation)
    {state : First} {other : Second} (related : relation state other) :
    forall expressions : List Expression,
      (visitExpressions first state expressions).1 =
          (visitExpressions second other expressions).1 ∧
        relation (afterExpressions first state expressions)
          (afterExpressions second other expressions)
  | [] => by simpa using related
  | expression :: rest => by
      have sameFirst := visitExpression_related simulation related expression
      have sameRest := visitExpressions_related simulation sameFirst.2 rest
      exact ⟨by simp [sameFirst.1, sameRest.1], by simpa using sameRest.2⟩

theorem visitExpressionPtr_related (simulation : Simulation first second relation)
    {state : First} {other : Second} (related : relation state other) :
    forall expression : Option Expression,
      (visitExpressionPtr first state expression).1 =
          (visitExpressionPtr second other expression).1 ∧
        relation (afterExpressionPtr first state expression)
          (afterExpressionPtr second other expression)
  | none => by simpa using related
  | some expression => by
      have same := visitExpression_related simulation related expression
      exact ⟨by simp [same.1], by simpa using same.2⟩

theorem visitInitializers_related (simulation : Simulation first second relation)
    {state : First} {other : Second} (related : relation state other) :
    forall (names : List String) (initializers : List Expression),
      (visitInitializers first state names initializers).1 =
          (visitInitializers second other names initializers).1 ∧
        relation (afterInitializers first state names initializers)
          (afterInitializers second other names initializers)
  | [], [] => by simpa using related
  | _ :: _, [] => by simpa using related
  | [], _ :: _ => by simpa using related
  | _ :: names, expression :: rest => by
      have sameFirst := visitExpression_related simulation related expression
      have sameRest := visitInitializers_related simulation sameFirst.2 names rest
      exact ⟨by simp [sameFirst.1, sameRest.1], by simpa using sameRest.2⟩

theorem visitStatement_related (simulation : Simulation first second relation)
    {state : First} {other : Second} (related : relation state other) :
    forall statement : Statement,
      (visitStatement first state statement).1 =
          (visitStatement second other statement).1 ∧
        relation (afterStatement first state statement)
          (afterStatement second other statement)
  | .letDeclaration names initializers => by
      have same := visitInitializers_related simulation related names initializers
      exact ⟨by simp [same.1], by simpa using same.2⟩
  | .assignment lhs rhs => by
      have sameRhs := visitExpressions_related simulation related rhs
      have sameLhs := visitExpressions_related simulation sameRhs.2 lhs
      exact ⟨by simp [sameRhs.1, sameLhs.1], by simpa using sameLhs.2⟩
  | .routineCall routine arguments => by
      have same := visitExpressions_related simulation related arguments
      cases own : isSetType routine arguments
      · exact ⟨by simp [own, same.1], by simpa [own] using same.2⟩
      · exact ⟨by simp [own], by simpa [own] using related⟩
  | .ifStatement condition thenBranch => by
      have sameCondition := visitExpression_related simulation related condition
      have sameThenBranch := visitStatement_related simulation sameCondition.2 thenBranch
      exact ⟨by simp [sameCondition.1, sameThenBranch.1], by simpa using sameThenBranch.2⟩
  | .unless condition thenBranch => by
      have sameCondition := visitExpression_related simulation related condition
      have sameThenBranch := visitStatement_related simulation sameCondition.2 thenBranch
      exact ⟨by simp [sameCondition.1, sameThenBranch.1], by simpa using sameThenBranch.2⟩
  | .test condition thenBranch elseBranch => by
      have sameCondition := visitExpression_related simulation related condition
      have sameThenBranch := visitStatement_related simulation sameCondition.2 thenBranch
      have sameElseBranch := visitStatement_related simulation sameThenBranch.2 elseBranch
      exact ⟨by simp [sameCondition.1, sameThenBranch.1, sameElseBranch.1],
        by simpa using sameElseBranch.2⟩
  | .whileStatement condition body => by
      have sameCondition := visitExpression_related simulation related condition
      have sameBody := visitStatement_related simulation sameCondition.2 body
      exact ⟨by simp [sameCondition.1, sameBody.1], by simpa using sameBody.2⟩
  | .untilStatement condition body => by
      have sameCondition := visitExpression_related simulation related condition
      have sameBody := visitStatement_related simulation sameCondition.2 body
      exact ⟨by simp [sameCondition.1, sameBody.1], by simpa using sameBody.2⟩
  | .repeatStatement _ body condition => by
      have sameBody := visitStatement_related simulation related body
      have sameCondition := visitExpressionPtr_related simulation sameBody.2 condition
      exact ⟨by simp [sameBody.1, sameCondition.1], by simpa using sameCondition.2⟩
  | .forStatement loopVariable _ startExpr endExpr stepExpr body => by
      have entered := simulation.enterFor related loopVariable
      have start := visitExpression_related simulation entered.2 startExpr
      have end_ := visitExpression_related simulation start.2 endExpr
      have step := visitExpressionPtr_related simulation end_.2 stepExpr
      have visited := visitStatement_related simulation step.2 body
      exact ⟨by simp [entered.1, start.1, end_.1, step.1, visited.1],
        by simpa using simulation.leaveFor visited.2⟩
  | .forEach _ _ collection body _ _ => by
      have sameCollection := visitExpression_related simulation related collection
      have sameBody := visitStatement_related simulation sameCollection.2 body
      exact ⟨by simp [sameCollection.1, sameBody.1], by simpa using sameBody.2⟩
  | .switchon expression cases defaultCase => by
      have sameExpression := visitExpression_related simulation related expression
      have sameCases := visitCases_related simulation sameExpression.2 cases
      have sameDefaultCase := visitStatementPtr_related simulation sameCases.2 defaultCase
      exact ⟨by simp [sameExpression.1, sameCases.1, sameDefaultCase.1],
        by simpa using sameDefaultCase.2⟩
  | .resultis expression => by
      have same := visitExpression_related simulation related expression
      exact ⟨by simp [same.1], by simpa using same.2⟩
  | .compound statements => by
      have same := visitStatements_related simulation related statements
      exact ⟨by simp [same.1], by simpa using same.2⟩
  | .block _ statements => by
      have same := visitStatements_related simulation related statements
      exact ⟨by simp [same.1], by simpa using same.2⟩
  | .stringStatement size => by
      have same := visitExpression_related simulation related size
      exact ⟨by simp [same.1], by simpa using same.2⟩
  | .free listExpr => by
      have same := visitExpression_related simulation related listExpr
      exact ⟨by simp [same.1], by simpa using same.2⟩
  | .misplacedExpression expression => by
      have same := visitExpression_related simulation related expression
      exact ⟨by simp [same.1], by simpa using same.2⟩
  | .goto _ | .returnStatement | .finish | .breakStatement | .brk | .loop | .endcase
  | .labelTarget _ | .conditionalBranch _ _ _ => by
      simpa using related

theorem visitStatements_related (simulation : Simulation first second relation)
    {state : First} {other : Second} (related : relation state other) :
    forall statements : List Statement,
      (visitStatements first state statements).1 =
          (visitStatements second other statements).1 ∧
        relation (afterStatements first state statements)
          (afterStatements second other statements)
  | [] => by simpa using related
  | statement :: rest => by
      have sameFirst := visitStatement_related simulation related statement
      have sameRest := visitStatements_related simulation sameFirst.2 rest
      exact ⟨by simp [sameFirst.1, sameRest.1], by simpa using sameRest.2⟩

theorem visitStatementPtr_related (simulation : Simulation first second relation)
    {state : First} {other : Second} (related : relation state other) :
    forall statement : Option Statement,
      (visitStatementPtr first state statement).1 =
          (visitStatementPtr second other statement).1 ∧
        relation (afterStatementPtr first state statement)
          (afterStatementPtr second other statement)
  | none => by simpa using related
  | some statement => by
      have same := visitStatement_related simulation related statement
      exact ⟨by simp [same.1], by simpa using same.2⟩

theorem visitCases_related (simulation : Simulation first second relation)
    {state : First} {other : Second} (related : relation state other) :
    forall cases : List CaseStatement,
      (visitCases first state cases).1 = (visitCases second other cases).1 ∧
        relation (afterCases first state cases) (afterCases second other cases)
  | [] => by simpa using related
  | .mk _ _ command :: rest => by
      have sameFirst := visitStatement_related simulation related command
      have sameRest := visitCases_related simulation sameFirst.2 rest
      exact ⟨by simp [sameFirst.1, sameRest.1], by simpa using sameRest.2⟩

end

end Simulations

end Analysis
end NewBcpl
