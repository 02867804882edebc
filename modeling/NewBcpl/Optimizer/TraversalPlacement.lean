import NewBcpl.Optimizer.DefaultTraversal

namespace NewBcpl
namespace Optimizer
namespace DefaultTraversal

/-!
# Where the replacements go

The traversal agrees with the substitution up to the first `RESULTIS` whose
expression is replaced, and is undefined from there on.
-/

section Kept

variable {First Second : Type}

/-- A result that is there only under a condition. -/
def kept (condition : Bool) (result : First) : Option First :=
  if condition then some result else none

@[simp] theorem kept_bind (condition : Bool) (result : First) (later : First -> Bool)
    (next : First -> Second) :
    ((kept condition result).bind fun first => kept (later first) (next first)) =
      kept (condition && later result) (next result) := by
  cases condition <;> rfl

@[simp] theorem kept_bind_some (condition : Bool) (result : First)
    (next : First -> Second) :
    ((kept condition result).bind fun first => some (next first)) =
      kept condition (next result) := by
  cases condition <;> rfl

theorem kept_eq_some (condition : Bool) (result : First) :
    kept condition result = some result <-> condition = true := by
  cases condition <;> simp [kept]

end Kept

attribute [local simp] visitExpression visitExpressions visitExpressionPtr visitStatement
  visitStatements visitStatementPtr visitCases visitDefaultPtr substituteExpression
  substituteExpressions substituteExpressionPtr substituteStatement substituteStatements
  substituteStatementPtr substituteCases substituteDefaultPtr keepsExpression
  keepsExpressions keepsExpressionPtr keepsStatement keepsStatements keepsStatementPtr
  keepsCases keepsDefaultPtr

variable {State : Type} (subclass : Subclass State)

mutual

/-- By induction on the tree: each visit of a member is the substitution or undefined. -/
theorem visitExpression_eq (subclass : Subclass State) :
    forall (tree : CompleteTree.Expression) (state : State),
      visitExpression subclass tree state =
        kept (keepsExpression subclass tree state) (substituteExpression subclass tree state)
  | .binaryOp _ left right, state => by
      have leftEq := visitExpression_eq subclass left
      have rightEq := visitExpression_eq subclass right
      simp [leftEq, rightEq]
  | .unaryOp _ operand, state => by
      have operandEq := visitExpression_eq subclass operand
      simp [operandEq]
  | .vectorAccess vectorExpr indexExpr, state => by
      have vectorEq := visitExpression_eq subclass vectorExpr
      have indexEq := visitExpression_eq subclass indexExpr
      simp [vectorEq, indexEq]
  | .charIndirection stringExpr indexExpr, state => by
      have stringEq := visitExpression_eq subclass stringExpr
      have indexEq := visitExpression_eq subclass indexExpr
      simp [stringEq, indexEq]
  | .floatVectorIndirection vectorExpr indexExpr, state => by
      have vectorEq := visitExpression_eq subclass vectorExpr
      have indexEq := visitExpression_eq subclass indexExpr
      simp [vectorEq, indexEq]
  | .functionCall functionExpr arguments, state => by
      have functionEq := visitExpression_eq subclass functionExpr
      have argumentsEq := visitExpressions_eq subclass arguments
      simp [functionEq, argumentsEq]
  | .sysCall _ syscallNumber arguments, state => by
      have syscallNumberEq := visitExpressionPtr_eq subclass syscallNumber
      have argumentsEq := visitExpressions_eq subclass arguments
      simp [syscallNumberEq, argumentsEq]
  | .conditional condition trueExpr falseExpr, state => by
      have conditionEq := visitExpression_eq subclass condition
      have trueEq := visitExpression_eq subclass trueExpr
      have falseEq := visitExpression_eq subclass falseExpr
      simp [conditionEq, trueEq, falseEq, Bool.and_assoc]
  | .valof body, state => by
      have bodyEq := visitStatement_eq subclass body
      simp [bodyEq]
  | .vecAllocation sizeExpr _, state => by
      have sizeEq := visitExpression_eq subclass sizeExpr
      simp [sizeEq]
  | .stringAllocation sizeExpr, state => by
      have sizeEq := visitExpression_eq subclass sizeExpr
      simp [sizeEq]
  | .table initializers _, state => by
      have initializersEq := visitExpressions_eq subclass initializers
      simp [initializersEq]
  | .integerLiteral _, _ => rfl
  | .floatLiteral _, _ => rfl
  | .stringLiteral _, _ => rfl
  | .charLiteral _, _ => rfl
  | .booleanLiteral _, _ => rfl
  | .variableAccess _ _, _ => rfl
  | .bitfieldAccess _ _ _, _ => rfl
  | .floatValof _, _ => rfl
  | .fvecAllocation _ _, _ => rfl
  | .vecInitializer _, _ => rfl
  | .list _ _, _ => rfl

theorem visitExpressions_eq (subclass : Subclass State) :
    forall (trees : List CompleteTree.Expression) (state : State),
      visitExpressions subclass trees state =
        kept (keepsExpressions subclass trees state)
          (substituteExpressions subclass trees state)
  | [], _ => rfl
  | tree :: rest, state => by
      have treeEq := visitExpression_eq subclass tree
      have restEq := visitExpressions_eq subclass rest
      simp [treeEq, restEq]

theorem visitExpressionPtr_eq (subclass : Subclass State) :
    forall (pointer : Option CompleteTree.Expression) (state : State),
      visitExpressionPtr subclass pointer state =
        kept (keepsExpressionPtr subclass pointer state)
          (substituteExpressionPtr subclass pointer state)
  | none, _ => rfl
  | some tree, state => by
      have treeEq := visitExpression_eq subclass tree
      simp [treeEq]

theorem visitStatement_eq (subclass : Subclass State) :
    forall (tree : CompleteTree.Statement) (state : State),
      visitStatement subclass tree state =
        kept (keepsStatement subclass tree state) (substituteStatement subclass tree state)
  | .letDeclaration _ initializers _, state => by
      have initializersEq := visitExpressions_eq subclass initializers
      simp [initializersEq]
  | .assignment lhs rhs, state => by
      have lhsEq := visitExpressions_eq subclass lhs
      have rhsEq := visitExpressions_eq subclass rhs
      simp [lhsEq, rhsEq]
  | .routineCall routineExpr arguments, state => by
      have routineEq := visitExpression_eq subclass routineExpr
      have argumentsEq := visitExpressions_eq subclass arguments
      simp [routineEq, argumentsEq]
  | .ifStatement condition thenBranch, state => by
      have conditionEq := visitExpression_eq subclass condition
      have thenEq := visitStatement_eq subclass thenBranch
      simp [conditionEq, thenEq]
  | .unless condition thenBranch, state => by
      have conditionEq := visitExpression_eq subclass condition
      have thenEq := visitStatement_eq subclass thenBranch
      simp [conditionEq, thenEq]
  | .test condition thenBranch elseBranch, state => by
      have conditionEq := visitExpression_eq subclass condition
      have thenEq := visitStatement_eq subclass thenBranch
      have elseEq := visitStatementPtr_eq subclass elseBranch
      simp [conditionEq, thenEq, elseEq, Bool.and_assoc]
  | .whileStatement condition body, state => by
      have conditionEq := visitExpression_eq subclass condition
      have bodyEq := visitStatement_eq subclass body
      simp [conditionEq, bodyEq]
  | .untilStatement condition body, state => by
      have conditionEq := visitExpression_eq subclass condition
      have bodyEq := visitStatement_eq subclass body
      simp [conditionEq, bodyEq]
  | .repeatStatement _ body condition, state => by
      have bodyEq := visitStatement_eq subclass body
      have conditionEq := visitExpressionPtr_eq subclass condition
      simp [bodyEq, conditionEq]
  | .forStatement _ _ _ _ startExpr endExpr stepExpr body, state => by
      have startEq := visitExpression_eq subclass startExpr
      have endEq := visitExpression_eq subclass endExpr
      have stepEq := visitExpressionPtr_eq subclass stepExpr
      have bodyEq := visitStatement_eq subclass body
      simp [startEq, endEq, stepEq, bodyEq, Bool.and_assoc]
  | .switchon expression cases defaultCase, state => by
      have expressionEq := visitExpression_eq subclass expression
      have casesEq := visitCases_eq subclass cases
      have defaultCaseEq := visitDefaultPtr_eq subclass defaultCase
      simp [expressionEq, casesEq, defaultCaseEq, Bool.and_assoc]
  | .goto labelExpr, state => by
      have labelEq := visitExpression_eq subclass labelExpr
      simp [labelEq]
  | .resultis expression, state => by
      have expressionEq := visitExpression_eq subclass expression
      -- Whether the visit of the expression has replaced the current node decides.
      cases keeps : keepsExpression subclass expression state with
      | false => simp [expressionEq, keeps, kept]
      | true =>
          cases replaced : (substituteExpression subclass expression state).replacement with
          | none => simp [expressionEq, keeps, replaced, kept, ExpressionVisit.current]
          | some replacement => simp [expressionEq, keeps, replaced, kept]
  | .compound statements, state => by
      have statementsEq := visitStatements_eq subclass statements
      simp [statementsEq]
  | .block _ statements, state => by
      have statementsEq := visitStatements_eq subclass statements
      simp [statementsEq]
  | .stringStatement sizeExpr, state => by
      have sizeEq := visitExpression_eq subclass sizeExpr
      simp [sizeEq]
  | .free listExpr, state => by
      have listEq := visitExpression_eq subclass listExpr
      simp [listEq]
  | .forEach _ _ _ _ _ _, _ => rfl
  | .returnStatement, _ => rfl
  | .finish _ _, _ => rfl
  | .breakStatement, _ => rfl
  | .brk, _ => rfl
  | .loop, _ => rfl
  | .endcase, _ => rfl
  | .labelTarget _, _ => rfl
  | .conditionalBranch _ _ _, _ => rfl

theorem visitStatements_eq (subclass : Subclass State) :
    forall (trees : List CompleteTree.Statement) (state : State),
      visitStatements subclass trees state =
        kept (keepsStatements subclass trees state)
          (substituteStatements subclass trees state)
  | [], _ => rfl
  | tree :: rest, state => by
      have treeEq := visitStatement_eq subclass tree
      have restEq := visitStatements_eq subclass rest
      simp [treeEq, restEq]

theorem visitStatementPtr_eq (subclass : Subclass State) :
    forall (pointer : Option CompleteTree.Statement) (state : State),
      visitStatementPtr subclass pointer state =
        kept (keepsStatementPtr subclass pointer state)
          (substituteStatementPtr subclass pointer state)
  | none, _ => rfl
  | some tree, state => by
      have treeEq := visitStatement_eq subclass tree
      simp [treeEq]

theorem visitCases_eq (subclass : Subclass State) :
    forall (trees : List CompleteTree.CaseStatement) (state : State),
      visitCases subclass trees state =
        kept (keepsCases subclass trees state) (substituteCases subclass trees state)
  | [], _ => rfl
  | .mk constantExpr command _ :: rest, state => by
      have constantEq := visitExpression_eq subclass constantExpr
      have commandEq := visitStatement_eq subclass command
      have restEq := visitCases_eq subclass rest
      simp [constantEq, commandEq, restEq, Bool.and_assoc]

theorem visitDefaultPtr_eq (subclass : Subclass State) :
    forall (pointer : Option CompleteTree.DefaultStatement) (state : State),
      visitDefaultPtr subclass pointer state =
        kept (keepsDefaultPtr subclass pointer state)
          (substituteDefaultPtr subclass pointer state)
  | none, _ => rfl
  | some (.mk command), state => by
      have commandEq := visitStatement_eq subclass command
      simp [commandEq]

end

theorem visitDeclaration_eq (tree : CompleteTree.Declaration) (state : State) :
    visitDeclaration subclass tree state =
      kept (keepsDeclaration subclass tree state)
        (substituteDeclaration subclass tree state) := by
  cases tree with
  | manifestDeclaration name value => rfl
  | staticDeclaration name initializer isFloat =>
      simp [visitDeclaration, keepsDeclaration, substituteDeclaration,
        visitExpression_eq subclass initializer]
  | globalDeclaration globals => rfl
  | globalVariableDeclaration names initializers isFloat => rfl
  | functionDeclaration name parameters body =>
      simp [visitDeclaration, keepsDeclaration, substituteDeclaration,
        visitExpression_eq subclass body]
  | routineDeclaration name parameters body =>
      simp [visitDeclaration, keepsDeclaration, substituteDeclaration,
        visitStatement_eq subclass body]
  | labelDeclaration name command =>
      simp [visitDeclaration, keepsDeclaration, substituteDeclaration,
        visitStatement_eq subclass command]

theorem visitDeclarations_eq (trees : List CompleteTree.Declaration) (state : State) :
    visitDeclarations subclass trees state =
      kept (keepsDeclarations subclass trees state)
        (substituteDeclarations subclass trees state) := by
  induction trees generalizing state with
  | nil => rfl
  | cons tree rest ih =>
      simp [visitDeclarations, keepsDeclarations, substituteDeclarations,
        visitDeclaration_eq, ih]

theorem visitProgram_eq (program : CompleteTree.Program) (state : State) :
    visitProgram subclass program state =
      kept (keepsProgram subclass program state)
        (substituteProgram subclass program state) := by
  simp [visitProgram, keepsProgram, substituteProgram, visitDeclarations_eq,
    visitStatements_eq]

/-! ## What the substitution leaves as it is -/

/-- What stands for an expression in an outline. -/
def erased : CompleteTree.Expression :=
  .booleanLiteral false

def eraseExpressions (trees : List CompleteTree.Expression) :
    List CompleteTree.Expression :=
  trees.map fun _ => erased

mutual

/-- The statement without its expressions. -/
def outlineStatement : CompleteTree.Statement -> CompleteTree.Statement
  | .letDeclaration names initializers isFloatDeclaration =>
      .letDeclaration names (eraseExpressions initializers) isFloatDeclaration
  | .assignment lhs rhs => .assignment (eraseExpressions lhs) (eraseExpressions rhs)
  | .routineCall _ arguments => .routineCall erased (eraseExpressions arguments)
  | .ifStatement _ thenBranch => .ifStatement erased (outlineStatement thenBranch)
  | .unless _ thenBranch => .unless erased (outlineStatement thenBranch)
  | .test _ thenBranch elseBranch =>
      .test erased (outlineStatement thenBranch) (outlineStatementPtr elseBranch)
  | .whileStatement _ body => .whileStatement erased (outlineStatement body)
  | .untilStatement _ body => .untilStatement erased (outlineStatement body)
  | .repeatStatement loopType body condition =>
      .repeatStatement loopType (outlineStatement body) (condition.map fun _ => erased)
  | .forStatement loopVariable uniqueLoop uniqueStep uniqueEnd _ _ stepExpr body =>
      .forStatement loopVariable uniqueLoop uniqueStep uniqueEnd erased erased (stepExpr.map
        fun _ => erased) (outlineStatement body)
  | .forEach loopVariableName typeVariableName _ body filterType inferredElementType =>
      .forEach loopVariableName typeVariableName erased (outlineStatement body) filterType
        inferredElementType
  | .switchon _ cases defaultCase =>
      .switchon erased (outlineCases cases) (outlineDefaultPtr defaultCase)
  | .goto _ => .goto erased
  | .returnStatement => .returnStatement
  | .finish syscallNumber arguments =>
      .finish (syscallNumber.map fun _ => erased) (eraseExpressions arguments)
  | .breakStatement => .breakStatement
  | .brk => .brk
  | .loop => .loop
  | .endcase => .endcase
  | .resultis _ => .resultis erased
  | .compound statements => .compound (outlineStatements statements)
  | .block declarations statements => .block declarations (outlineStatements statements)
  | .stringStatement _ => .stringStatement erased
  | .free _ => .free erased
  | .labelTarget labelName => .labelTarget labelName
  | .conditionalBranch condition targetLabel conditionExpr =>
      .conditionalBranch condition targetLabel (conditionExpr.map fun _ => erased)

def outlineStatements : List CompleteTree.Statement -> List CompleteTree.Statement
  | [] => []
  | tree :: rest => outlineStatement tree :: outlineStatements rest

def outlineStatementPtr : Option CompleteTree.Statement -> Option CompleteTree.Statement
  | none => none
  | some tree => some (outlineStatement tree)

def outlineCases : List CompleteTree.CaseStatement -> List CompleteTree.CaseStatement
  | [] => []
  | .mk _ command resolvedConstantValue :: rest =>
      .mk erased (outlineStatement command) resolvedConstantValue :: outlineCases rest

def outlineDefaultPtr :
    Option CompleteTree.DefaultStatement -> Option CompleteTree.DefaultStatement
  | none => none
  | some (.mk command) => some (.mk (outlineStatement command))

end

/-- The declaration without its expressions. -/
def outlineDeclaration : CompleteTree.Declaration -> CompleteTree.Declaration
  | .manifestDeclaration name value => .manifestDeclaration name value
  | .staticDeclaration name _ isFloatDeclaration =>
      .staticDeclaration name erased isFloatDeclaration
  | .globalDeclaration globals => .globalDeclaration globals
  | .globalVariableDeclaration names initializers isFloatDeclaration =>
      .globalVariableDeclaration names (eraseExpressions initializers) isFloatDeclaration
  | .functionDeclaration name parameters _ => .functionDeclaration name parameters erased
  | .routineDeclaration name parameters body =>
      .routineDeclaration name parameters (outlineStatement body)
  | .labelDeclaration name command => .labelDeclaration name (outlineStatement command)

/-- The statements and declarations of the program. -/
def outlineProgram (program : CompleteTree.Program) : CompleteTree.Program :=
  { declarations := program.declarations.map outlineDeclaration
    statements := outlineStatements program.statements }

attribute [local simp] outlineStatement outlineStatements outlineStatementPtr outlineCases
  outlineDefaultPtr

theorem substituteExpressions_erase (trees : List CompleteTree.Expression) (state : State) :
    eraseExpressions (substituteExpressions subclass trees state).node =
      eraseExpressions trees := by
  induction trees generalizing state with
  | nil => rfl
  | cons tree rest ih =>
      have restSame := ih (substituteExpression subclass tree state).state
      simp only [eraseExpressions] at restSame
      simp [eraseExpressions, restSame]

theorem substituteExpressionPtr_erase (pointer : Option CompleteTree.Expression)
    (state : State) :
    ((substituteExpressionPtr subclass pointer state).node.map fun _ => erased) =
      pointer.map fun _ => erased := by
  cases pointer with
  | none => rfl
  | some tree => rfl

mutual

theorem substituteStatement_outline (subclass : Subclass State) :
    forall (tree : CompleteTree.Statement) (state : State),
      outlineStatement (substituteStatement subclass tree state).node = outlineStatement tree
  | .letDeclaration _ initializers _, state => by
      have initializersSame := substituteExpressions_erase subclass initializers
      simp [initializersSame]
  | .assignment lhs rhs, state => by
      have lhsSame := substituteExpressions_erase subclass lhs
      have rhsSame := substituteExpressions_erase subclass rhs
      simp [lhsSame, rhsSame]
  | .routineCall _ arguments, state => by
      have argumentsSame := substituteExpressions_erase subclass arguments
      simp [argumentsSame]
  | .ifStatement _ thenBranch, state => by
      have thenSame := substituteStatement_outline subclass thenBranch
      simp [thenSame]
  | .unless _ thenBranch, state => by
      have thenSame := substituteStatement_outline subclass thenBranch
      simp [thenSame]
  | .test _ thenBranch elseBranch, state => by
      have thenSame := substituteStatement_outline subclass thenBranch
      have elseSame := substituteStatementPtr_outline subclass elseBranch
      simp [thenSame, elseSame]
  | .whileStatement _ body, state => by
      have bodySame := substituteStatement_outline subclass body
      simp [bodySame]
  | .untilStatement _ body, state => by
      have bodySame := substituteStatement_outline subclass body
      simp [bodySame]
  | .repeatStatement _ body condition, state => by
      have bodySame := substituteStatement_outline subclass body
      have conditionSame := substituteExpressionPtr_erase subclass condition
      simp [bodySame, conditionSame]
  | .forStatement _ _ _ _ _ _ stepExpr body, state => by
      have stepSame := substituteExpressionPtr_erase subclass stepExpr
      have bodySame := substituteStatement_outline subclass body
      simp [stepSame, bodySame]
  | .switchon _ cases defaultCase, state => by
      have casesSame := substituteCases_outline subclass cases
      have defaultCaseSame := substituteDefaultPtr_outline subclass defaultCase
      simp [casesSame, defaultCaseSame]
  | .compound statements, state => by
      have statementsSame := substituteStatements_outline subclass statements
      simp [statementsSame]
  | .block _ statements, state => by
      have statementsSame := substituteStatements_outline subclass statements
      simp [statementsSame]
  | .forEach _ _ _ _ _ _, _ => rfl
  | .goto _, _ => rfl
  | .returnStatement, _ => rfl
  | .finish _ _, _ => rfl
  | .breakStatement, _ => rfl
  | .brk, _ => rfl
  | .loop, _ => rfl
  | .endcase, _ => rfl
  | .resultis _, _ => rfl
  | .stringStatement _, _ => rfl
  | .free _, _ => rfl
  | .labelTarget _, _ => rfl
  | .conditionalBranch _ _ _, _ => rfl

theorem substituteStatements_outline (subclass : Subclass State) :
    forall (trees : List CompleteTree.Statement) (state : State),
      outlineStatements (substituteStatements subclass trees state).node =
        outlineStatements trees
  | [], _ => rfl
  | tree :: rest, state => by
      have treeSame := substituteStatement_outline subclass tree
      have restSame := substituteStatements_outline subclass rest
      simp [treeSame, restSame]

theorem substituteStatementPtr_outline (subclass : Subclass State) :
    forall (pointer : Option CompleteTree.Statement) (state : State),
      outlineStatementPtr (substituteStatementPtr subclass pointer state).node =
        outlineStatementPtr pointer
  | none, _ => rfl
  | some tree, state => by
      have treeSame := substituteStatement_outline subclass tree
      simp [treeSame]

theorem substituteCases_outline (subclass : Subclass State) :
    forall (trees : List CompleteTree.CaseStatement) (state : State),
      outlineCases (substituteCases subclass trees state).node = outlineCases trees
  | [], _ => rfl
  | .mk constantExpr command _ :: rest, state => by
      have commandSame := substituteStatement_outline subclass command
      have restSame := substituteCases_outline subclass rest
      simp [commandSame, restSame]

theorem substituteDefaultPtr_outline (subclass : Subclass State) :
    forall (pointer : Option CompleteTree.DefaultStatement) (state : State),
      outlineDefaultPtr (substituteDefaultPtr subclass pointer state).node =
        outlineDefaultPtr pointer
  | none, _ => rfl
  | some (.mk command), state => by
      have commandSame := substituteStatement_outline subclass command
      simp [commandSame]

end

theorem substituteDeclarations_outline (trees : List CompleteTree.Declaration)
    (state : State) :
    (substituteDeclarations subclass trees state).node.map outlineDeclaration =
      trees.map outlineDeclaration := by
  induction trees generalizing state with
  | nil => rfl
  | cons tree rest ih =>
      have treeSame : outlineDeclaration (substituteDeclaration subclass tree state).node =
          outlineDeclaration tree := by
        cases tree with
        | manifestDeclaration name value => rfl
        | staticDeclaration name initializer isFloat => rfl
        | globalDeclaration globals => rfl
        | globalVariableDeclaration names initializers isFloat => rfl
        | functionDeclaration name parameters body => rfl
        | routineDeclaration name parameters body =>
            simp [outlineDeclaration, substituteDeclaration,
              substituteStatement_outline subclass body]
        | labelDeclaration name command =>
            simp [outlineDeclaration, substituteDeclaration,
              substituteStatement_outline subclass command]
      simp [substituteDeclarations, treeSame, ih]

/-- The substitution loses no statement and no declaration. -/
theorem substituteProgram_outline (program : CompleteTree.Program) (state : State) :
    outlineProgram (substituteProgram subclass program state).node =
      outlineProgram program := by
  simp [outlineProgram, substituteProgram, substituteDeclarations_outline,
    substituteStatements_outline]

/-! ## The traversal is the substitution -/

/-- The traversal puts every replacement in the position of the expression it replaces,
and loses no statement and no declaration, exactly when no `RESULTIS` it comes to has
an expression that the subclass replaces. -/
theorem visitProgram_placed (program : CompleteTree.Program) (state : State) :
    (visitProgram subclass program state = some (substituteProgram subclass program state) ∧
      outlineProgram (substituteProgram subclass program state).node =
        outlineProgram program) <->
      keepsProgram subclass program state = true := by
  rw [visitProgram_eq, kept_eq_some]
  exact and_iff_left (substituteProgram_outline subclass program state)

/-- A subclass that folds the sum of two integer literals. -/
def sumFolding : Subclass Unit :=
  { replace := fun tree state =>
      match tree with
      | .binaryOp .add (.integerLiteral left) (.integerLiteral right) =>
          (some (.integerLiteral (left + right)), state)
      | _ => (none, state) }

/-- `RESULTIS 1 + 2` becomes an expression in the place of a statement. -/
theorem visitProgram_misplaces :
    ¬ forall (State : Type) (subclass : Subclass State) (program : CompleteTree.Program)
      (state : State),
      visitProgram subclass program state =
        some (substituteProgram subclass program state) := by
  intro placed
  have result := placed Unit sumFolding
    { declarations := [.functionDeclaration "f" [] (.valof (.resultis
        (.binaryOp .add (.integerLiteral 1) (.integerLiteral 2))))]
      statements := [] } ()
  have undefined_ : visitProgram sumFolding
      { declarations := [.functionDeclaration "f" [] (.valof (.resultis
          (.binaryOp .add (.integerLiteral 1) (.integerLiteral 2))))]
        statements := [] } () = none := rfl
  rw [undefined_] at result
  cases result

end DefaultTraversal
end Optimizer
end NewBcpl
