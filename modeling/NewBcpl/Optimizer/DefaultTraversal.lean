import NewBcpl.CompleteTree

namespace NewBcpl
namespace Optimizer
namespace DefaultTraversal

/-!
# The default traversal of the optimizer

`Optimizer` with its default visits, and a subclass that replaces expressions. The
member `current_transformed_node_` owns the node that is visited, so a visit has
two results: the node, whose members were changed in place, and what the member
was set to instead, if it was. `visit_expr`, `visit_stmt` and `visit_decl` put
what the member then holds back into the parent. A cast of an expression to a
statement is undefined, and so is the traversal from there on.
-/

/-- A subclass: what its own visit of an expression, after the operands, puts in the
place of the expression, and the members of the subclass afterwards. -/
structure Subclass (State : Type) where
  replace : CompleteTree.Expression -> State -> Option CompleteTree.Expression × State

/-- The result of the visit of an expression. -/
structure ExpressionVisit (State : Type) where
  node : CompleteTree.Expression
  replacement : Option CompleteTree.Expression
  state : State

/-- The result of `visit_stmt`, `visit_decl` or a loop over a vector. -/
structure Visit (State Tree : Type) where
  node : Tree
  state : State

variable {State : Type}

/-- What `current_transformed_node_` holds after the visit. -/
def ExpressionVisit.current (visit : ExpressionVisit State) : CompleteTree.Expression :=
  visit.replacement.getD visit.node

/-- The end of the visit of an expression whose operands have been visited. -/
def Subclass.finish (subclass : Subclass State) (node : CompleteTree.Expression)
    (state : State) : ExpressionVisit State :=
  { node := node
    replacement := (subclass.replace node state).1
    state := (subclass.replace node state).2 }

/-! ## The traversal of the source -/

mutual

/-- `visit_expr`: the visit of an expression. The classes whose visit the optimizer leaves
to `ASTVisitor` are not entered. -/
def visitExpression (subclass : Subclass State) :
    CompleteTree.Expression -> State -> Option (ExpressionVisit State)
  | .integerLiteral intValue, state => some (subclass.finish (.integerLiteral intValue) state)
  | .floatLiteral floatValue, state => some (subclass.finish (.floatLiteral floatValue) state)
  | .stringLiteral value, state => some (subclass.finish (.stringLiteral value) state)
  | .charLiteral value, state => some (subclass.finish (.charLiteral value) state)
  | .booleanLiteral value, state => some (subclass.finish (.booleanLiteral value) state)
  | .variableAccess name uniqueName, state => some (subclass.finish (.variableAccess name
      uniqueName) state)
  | .binaryOp op left right, state => do
      let leftVisit <- visitExpression subclass left state
      let rightVisit <- visitExpression subclass right leftVisit.state
      return subclass.finish (.binaryOp op leftVisit.current rightVisit.current)
        rightVisit.state
  | .unaryOp op operand, state => do
      let operandVisit <- visitExpression subclass operand state
      return subclass.finish (.unaryOp op operandVisit.current) operandVisit.state
  | .vectorAccess vectorExpr indexExpr, state => do
      let vectorVisit <- visitExpression subclass vectorExpr state
      let indexVisit <- visitExpression subclass indexExpr vectorVisit.state
      return subclass.finish (.vectorAccess vectorVisit.current indexVisit.current)
        indexVisit.state
  | .charIndirection stringExpr indexExpr, state => do
      let stringVisit <- visitExpression subclass stringExpr state
      let indexVisit <- visitExpression subclass indexExpr stringVisit.state
      return subclass.finish (.charIndirection stringVisit.current indexVisit.current)
        indexVisit.state
  | .floatVectorIndirection vectorExpr indexExpr, state => do
      let vectorVisit <- visitExpression subclass vectorExpr state
      let indexVisit <- visitExpression subclass indexExpr vectorVisit.state
      return subclass.finish (.floatVectorIndirection vectorVisit.current indexVisit.current)
        indexVisit.state
  | .bitfieldAccess baseExpr startBitExpr widthExpr, state => some (subclass.finish
      (.bitfieldAccess baseExpr startBitExpr widthExpr) state)
  | .functionCall functionExpr arguments, state => do
      let functionVisit <- visitExpression subclass functionExpr state
      let argumentsVisit <- visitExpressions subclass arguments functionVisit.state
      return subclass.finish (.functionCall functionVisit.current argumentsVisit.node)
        argumentsVisit.state
  | .sysCall functionName syscallNumber arguments, state => do
      let syscallNumberVisit <- visitExpressionPtr subclass syscallNumber state
      let argumentsVisit <- visitExpressions subclass arguments syscallNumberVisit.state
      return subclass.finish (.sysCall functionName syscallNumberVisit.node
        argumentsVisit.node) argumentsVisit.state
  | .conditional condition trueExpr falseExpr, state => do
      let conditionVisit <- visitExpression subclass condition state
      let trueVisit <- visitExpression subclass trueExpr conditionVisit.state
      let falseVisit <- visitExpression subclass falseExpr trueVisit.state
      return subclass.finish (.conditional conditionVisit.current trueVisit.current
        falseVisit.current) falseVisit.state
  | .valof body, state => do
      let bodyVisit <- visitStatement subclass body state
      return subclass.finish (.valof bodyVisit.node) bodyVisit.state
  | .floatValof body, state => some (subclass.finish (.floatValof body) state)
  | .vecAllocation sizeExpr variableName, state => do
      let sizeVisit <- visitExpression subclass sizeExpr state
      return subclass.finish (.vecAllocation sizeVisit.current variableName) sizeVisit.state
  | .fvecAllocation sizeExpr variableName, state => some (subclass.finish (.fvecAllocation
      sizeExpr variableName) state)
  | .stringAllocation sizeExpr, state => do
      let sizeVisit <- visitExpression subclass sizeExpr state
      return subclass.finish (.stringAllocation sizeVisit.current) sizeVisit.state
  | .table initializers isFloatTable, state => do
      let initializersVisit <- visitExpressions subclass initializers state
      return subclass.finish (.table initializersVisit.node isFloatTable)
        initializersVisit.state
  | .vecInitializer initializers, state => some (subclass.finish (.vecInitializer initializers)
      state)
  | .list initializers isManifest, state => some (subclass.finish (.list initializers
      isManifest) state)

def visitExpressions (subclass : Subclass State) :
    List CompleteTree.Expression -> State -> Option (Visit State (List CompleteTree.Expression))
  | [], state => some ⟨[], state⟩
  | expression :: rest, state => do
      let expressionVisit <- visitExpression subclass expression state
      let restVisit <- visitExpressions subclass rest expressionVisit.state
      return ⟨expressionVisit.current :: restVisit.node, restVisit.state⟩

def visitExpressionPtr (subclass : Subclass State) :
    Option CompleteTree.Expression -> State ->
      Option (Visit State (Option CompleteTree.Expression))
  | none, state => some ⟨none, state⟩
  | some expression, state => do
      let visit <- visitExpression subclass expression state
      return ⟨some visit.current, visit.state⟩

/-- `visit_stmt`: the visit of a statement and the cast of what it leaves. -/
def visitStatement (subclass : Subclass State) :
    CompleteTree.Statement -> State -> Option (Visit State CompleteTree.Statement)
  | .letDeclaration names initializers isFloatDeclaration, state => do
      let initializersVisit <- visitExpressions subclass initializers state
      return ⟨.letDeclaration names initializersVisit.node isFloatDeclaration,
        initializersVisit.state⟩
  | .assignment lhs rhs, state => do
      let lhsVisit <- visitExpressions subclass lhs state
      let rhsVisit <- visitExpressions subclass rhs lhsVisit.state
      return ⟨.assignment lhsVisit.node rhsVisit.node, rhsVisit.state⟩
  | .routineCall routineExpr arguments, state => do
      let routineVisit <- visitExpression subclass routineExpr state
      let argumentsVisit <- visitExpressions subclass arguments routineVisit.state
      return ⟨.routineCall routineVisit.current argumentsVisit.node, argumentsVisit.state⟩
  | .ifStatement condition thenBranch, state => do
      let conditionVisit <- visitExpression subclass condition state
      let thenVisit <- visitStatement subclass thenBranch conditionVisit.state
      return ⟨.ifStatement conditionVisit.current thenVisit.node, thenVisit.state⟩
  | .unless condition thenBranch, state => do
      let conditionVisit <- visitExpression subclass condition state
      let thenVisit <- visitStatement subclass thenBranch conditionVisit.state
      return ⟨.unless conditionVisit.current thenVisit.node, thenVisit.state⟩
  | .test condition thenBranch elseBranch, state => do
      let conditionVisit <- visitExpression subclass condition state
      let thenVisit <- visitStatement subclass thenBranch conditionVisit.state
      let elseVisit <- visitStatementPtr subclass elseBranch thenVisit.state
      return ⟨.test conditionVisit.current thenVisit.node elseVisit.node, elseVisit.state⟩
  | .whileStatement condition body, state => do
      let conditionVisit <- visitExpression subclass condition state
      let bodyVisit <- visitStatement subclass body conditionVisit.state
      return ⟨.whileStatement conditionVisit.current bodyVisit.node, bodyVisit.state⟩
  | .untilStatement condition body, state => do
      let conditionVisit <- visitExpression subclass condition state
      let bodyVisit <- visitStatement subclass body conditionVisit.state
      return ⟨.untilStatement conditionVisit.current bodyVisit.node, bodyVisit.state⟩
  | .repeatStatement loopType body condition, state => do
      let bodyVisit <- visitStatement subclass body state
      let conditionVisit <- visitExpressionPtr subclass condition bodyVisit.state
      return ⟨.repeatStatement loopType bodyVisit.node conditionVisit.node,
        conditionVisit.state⟩
  | .forStatement loopVariable uniqueLoop uniqueStep uniqueEnd startExpr endExpr stepExpr body,
      state => do
      let startVisit <- visitExpression subclass startExpr state
      let endVisit <- visitExpression subclass endExpr startVisit.state
      let stepVisit <- visitExpressionPtr subclass stepExpr endVisit.state
      let bodyVisit <- visitStatement subclass body stepVisit.state
      return ⟨.forStatement loopVariable uniqueLoop uniqueStep uniqueEnd startVisit.current
        endVisit.current stepVisit.node bodyVisit.node, bodyVisit.state⟩
  | .forEach loopVariableName typeVariableName collectionExpression body filterType
      inferredElementType, state => some ⟨.forEach loopVariableName typeVariableName
        collectionExpression body filterType inferredElementType, state⟩
  | .switchon expression cases defaultCase, state => do
      let expressionVisit <- visitExpression subclass expression state
      let casesVisit <- visitCases subclass cases expressionVisit.state
      let defaultCaseVisit <- visitDefaultPtr subclass defaultCase casesVisit.state
      return ⟨.switchon expressionVisit.current casesVisit.node defaultCaseVisit.node,
        defaultCaseVisit.state⟩
  | .goto labelExpr, state => do
      let labelVisit <- visitExpression subclass labelExpr state
      return ⟨.goto labelVisit.current, labelVisit.state⟩
  | .returnStatement, state => some ⟨.returnStatement, state⟩
  | .finish syscallNumber arguments, state => some ⟨.finish syscallNumber arguments, state⟩
  | .breakStatement, state => some ⟨.breakStatement, state⟩
  | .brk, state => some ⟨.brk, state⟩
  | .loop, state => some ⟨.loop, state⟩
  | .endcase, state => some ⟨.endcase, state⟩
  | .resultis expression, state => do
      let visit <- visitExpression subclass expression state
      -- The visit may have replaced the RESULTIS itself, which is the current node.
      match visit.replacement with
      | some _ => none
      | none => return ⟨.resultis visit.node, visit.state⟩
  | .compound statements, state => do
      let statementsVisit <- visitStatements subclass statements state
      return ⟨.compound statementsVisit.node, statementsVisit.state⟩
  | .block declarations statements, state => do
      let statementsVisit <- visitStatements subclass statements state
      return ⟨.block declarations statementsVisit.node, statementsVisit.state⟩
  | .stringStatement sizeExpr, state => do
      let sizeVisit <- visitExpression subclass sizeExpr state
      return ⟨.stringStatement sizeVisit.current, sizeVisit.state⟩
  | .free listExpr, state => do
      let listVisit <- visitExpression subclass listExpr state
      return ⟨.free listVisit.current, listVisit.state⟩
  | .labelTarget labelName, state => some ⟨.labelTarget labelName, state⟩
  | .conditionalBranch condition targetLabel conditionExpr, state => some ⟨.conditionalBranch
      condition targetLabel conditionExpr, state⟩

def visitStatements (subclass : Subclass State) :
    List CompleteTree.Statement -> State -> Option (Visit State (List CompleteTree.Statement))
  | [], state => some ⟨[], state⟩
  | statement :: rest, state => do
      let statementVisit <- visitStatement subclass statement state
      let restVisit <- visitStatements subclass rest statementVisit.state
      return ⟨statementVisit.node :: restVisit.node, restVisit.state⟩

def visitStatementPtr (subclass : Subclass State) :
    Option CompleteTree.Statement -> State ->
      Option (Visit State (Option CompleteTree.Statement))
  | none, state => some ⟨none, state⟩
  | some statement, state => do
      let visit <- visitStatement subclass statement state
      return ⟨some visit.node, visit.state⟩

/-- The loop over the cases: each becomes a new case with the same resolved constant. -/
def visitCases (subclass : Subclass State) : List CompleteTree.CaseStatement -> State ->
    Option (Visit State (List CompleteTree.CaseStatement))
  | [], state => some ⟨[], state⟩
  | .mk constantExpr command resolvedConstantValue :: rest, state => do
      let constantVisit <- visitExpression subclass constantExpr state
      let commandVisit <- visitStatement subclass command constantVisit.state
      let restVisit <- visitCases subclass rest commandVisit.state
      return ⟨.mk constantVisit.current commandVisit.node resolvedConstantValue ::
        restVisit.node, restVisit.state⟩

def visitDefaultPtr (subclass : Subclass State) :
    Option CompleteTree.DefaultStatement -> State ->
    Option (Visit State (Option CompleteTree.DefaultStatement))
  | none, state => some ⟨none, state⟩
  | some (.mk command), state => do
      let commandVisit <- visitStatement subclass command state
      return ⟨some (.mk commandVisit.node), commandVisit.state⟩

end

/-- `visit_decl`. Manifests, global vector entries and, for lack of an own visit, the
global variables are not entered. -/
def visitDeclaration (subclass : Subclass State) :
    CompleteTree.Declaration -> State -> Option (Visit State CompleteTree.Declaration)
  | .manifestDeclaration name value, state => some ⟨.manifestDeclaration name value, state⟩
  | .staticDeclaration name initializer isFloatDeclaration, state => do
      let visit <- visitExpression subclass initializer state
      return ⟨.staticDeclaration name visit.current isFloatDeclaration, visit.state⟩
  | .globalDeclaration globals, state => some ⟨.globalDeclaration globals, state⟩
  | .globalVariableDeclaration names initializers isFloatDeclaration, state =>
      some ⟨.globalVariableDeclaration names initializers isFloatDeclaration, state⟩
  | .functionDeclaration name parameters body, state => do
      let visit <- visitExpression subclass body state
      return ⟨.functionDeclaration name parameters visit.current, visit.state⟩
  | .routineDeclaration name parameters body, state => do
      let visit <- visitStatement subclass body state
      return ⟨.routineDeclaration name parameters visit.node, visit.state⟩
  | .labelDeclaration name command, state => do
      let visit <- visitStatement subclass command state
      return ⟨.labelDeclaration name visit.node, visit.state⟩

def visitDeclarations (subclass : Subclass State) : List CompleteTree.Declaration -> State ->
    Option (Visit State (List CompleteTree.Declaration))
  | [], state => some ⟨[], state⟩
  | declaration :: rest, state => do
      let visit <- visitDeclaration subclass declaration state
      let restVisit <- visitDeclarations subclass rest visit.state
      return ⟨visit.node :: restVisit.node, restVisit.state⟩

/-- `visit(Program&)`. -/
def visitProgram (subclass : Subclass State) (program : CompleteTree.Program)
    (state : State) : Option (Visit State CompleteTree.Program) := do
  let declarationsVisit <- visitDeclarations subclass program.declarations state
  let statementsVisit <- visitStatements subclass program.statements declarationsVisit.state
  return ⟨⟨declarationsVisit.node, statementsVisit.node⟩, statementsVisit.state⟩

/-! ## What it is for

The same walk over the program as a substitution: every replacement is put where the
expression stood, and nothing else changes.
-/

mutual

/-- Every replacement in the position of the expression it replaces. -/
def substituteExpression (subclass : Subclass State) :
    CompleteTree.Expression -> State -> ExpressionVisit State
  | .integerLiteral intValue, state => subclass.finish (.integerLiteral intValue) state
  | .floatLiteral floatValue, state => subclass.finish (.floatLiteral floatValue) state
  | .stringLiteral value, state => subclass.finish (.stringLiteral value) state
  | .charLiteral value, state => subclass.finish (.charLiteral value) state
  | .booleanLiteral value, state => subclass.finish (.booleanLiteral value) state
  | .variableAccess name uniqueName, state => subclass.finish (.variableAccess name uniqueName)
      state
  | .binaryOp op left right, state =>
      let leftVisit := substituteExpression subclass left state
      let rightVisit := substituteExpression subclass right leftVisit.state
      subclass.finish (.binaryOp op leftVisit.current rightVisit.current) rightVisit.state
  | .unaryOp op operand, state =>
      let operandVisit := substituteExpression subclass operand state
      subclass.finish (.unaryOp op operandVisit.current) operandVisit.state
  | .vectorAccess vectorExpr indexExpr, state =>
      let vectorVisit := substituteExpression subclass vectorExpr state
      let indexVisit := substituteExpression subclass indexExpr vectorVisit.state
      subclass.finish (.vectorAccess vectorVisit.current indexVisit.current) indexVisit.state
  | .charIndirection stringExpr indexExpr, state =>
      let stringVisit := substituteExpression subclass stringExpr state
      let indexVisit := substituteExpression subclass indexExpr stringVisit.state
      subclass.finish (.charIndirection stringVisit.current indexVisit.current) indexVisit.state
  | .floatVectorIndirection vectorExpr indexExpr, state =>
      let vectorVisit := substituteExpression subclass vectorExpr state
      let indexVisit := substituteExpression subclass indexExpr vectorVisit.state
      subclass.finish (.floatVectorIndirection vectorVisit.current indexVisit.current)
        indexVisit.state
  | .bitfieldAccess baseExpr startBitExpr widthExpr, state => subclass.finish (.bitfieldAccess
      baseExpr startBitExpr widthExpr) state
  | .functionCall functionExpr arguments, state =>
      let functionVisit := substituteExpression subclass functionExpr state
      let argumentsVisit := substituteExpressions subclass arguments functionVisit.state
      subclass.finish (.functionCall functionVisit.current argumentsVisit.node)
        argumentsVisit.state
  | .sysCall functionName syscallNumber arguments, state =>
      let syscallNumberVisit := substituteExpressionPtr subclass syscallNumber state
      let argumentsVisit := substituteExpressions subclass arguments syscallNumberVisit.state
      subclass.finish (.sysCall functionName syscallNumberVisit.node argumentsVisit.node)
        argumentsVisit.state
  | .conditional condition trueExpr falseExpr, state =>
      let conditionVisit := substituteExpression subclass condition state
      let trueVisit := substituteExpression subclass trueExpr conditionVisit.state
      let falseVisit := substituteExpression subclass falseExpr trueVisit.state
      subclass.finish (.conditional conditionVisit.current trueVisit.current
        falseVisit.current) falseVisit.state
  | .valof body, state =>
      let bodyVisit := substituteStatement subclass body state
      subclass.finish (.valof bodyVisit.node) bodyVisit.state
  | .floatValof body, state => subclass.finish (.floatValof body) state
  | .vecAllocation sizeExpr variableName, state =>
      let sizeVisit := substituteExpression subclass sizeExpr state
      subclass.finish (.vecAllocation sizeVisit.current variableName) sizeVisit.state
  | .fvecAllocation sizeExpr variableName, state => subclass.finish (.fvecAllocation sizeExpr
      variableName) state
  | .stringAllocation sizeExpr, state =>
      let sizeVisit := substituteExpression subclass sizeExpr state
      subclass.finish (.stringAllocation sizeVisit.current) sizeVisit.state
  | .table initializers isFloatTable, state =>
      let initializersVisit := substituteExpressions subclass initializers state
      subclass.finish (.table initializersVisit.node isFloatTable) initializersVisit.state
  | .vecInitializer initializers, state => subclass.finish (.vecInitializer initializers) state
  | .list initializers isManifest, state => subclass.finish (.list initializers isManifest)
      state

def substituteExpressions (subclass : Subclass State) :
    List CompleteTree.Expression -> State -> Visit State (List CompleteTree.Expression)
  | [], state => ⟨[], state⟩
  | expression :: rest, state =>
      let expressionVisit := substituteExpression subclass expression state
      let restVisit := substituteExpressions subclass rest expressionVisit.state
      ⟨expressionVisit.current :: restVisit.node, restVisit.state⟩

def substituteExpressionPtr (subclass : Subclass State) :
    Option CompleteTree.Expression -> State -> Visit State (Option CompleteTree.Expression)
  | none, state => ⟨none, state⟩
  | some expression, state =>
      let visit := substituteExpression subclass expression state
      ⟨some visit.current, visit.state⟩

/-- The statement with the replacements of its expressions in their positions. -/
def substituteStatement (subclass : Subclass State) :
    CompleteTree.Statement -> State -> Visit State CompleteTree.Statement
  | .letDeclaration names initializers isFloatDeclaration, state =>
      let initializersVisit := substituteExpressions subclass initializers state
      ⟨.letDeclaration names initializersVisit.node isFloatDeclaration, initializersVisit.state⟩
  | .assignment lhs rhs, state =>
      let lhsVisit := substituteExpressions subclass lhs state
      let rhsVisit := substituteExpressions subclass rhs lhsVisit.state
      ⟨.assignment lhsVisit.node rhsVisit.node, rhsVisit.state⟩
  | .routineCall routineExpr arguments, state =>
      let routineVisit := substituteExpression subclass routineExpr state
      let argumentsVisit := substituteExpressions subclass arguments routineVisit.state
      ⟨.routineCall routineVisit.current argumentsVisit.node, argumentsVisit.state⟩
  | .ifStatement condition thenBranch, state =>
      let conditionVisit := substituteExpression subclass condition state
      let thenVisit := substituteStatement subclass thenBranch conditionVisit.state
      ⟨.ifStatement conditionVisit.current thenVisit.node, thenVisit.state⟩
  | .unless condition thenBranch, state =>
      let conditionVisit := substituteExpression subclass condition state
      let thenVisit := substituteStatement subclass thenBranch conditionVisit.state
      ⟨.unless conditionVisit.current thenVisit.node, thenVisit.state⟩
  | .test condition thenBranch elseBranch, state =>
      let conditionVisit := substituteExpression subclass condition state
      let thenVisit := substituteStatement subclass thenBranch conditionVisit.state
      let elseVisit := substituteStatementPtr subclass elseBranch thenVisit.state
      ⟨.test conditionVisit.current thenVisit.node elseVisit.node, elseVisit.state⟩
  | .whileStatement condition body, state =>
      let conditionVisit := substituteExpression subclass condition state
      let bodyVisit := substituteStatement subclass body conditionVisit.state
      ⟨.whileStatement conditionVisit.current bodyVisit.node, bodyVisit.state⟩
  | .untilStatement condition body, state =>
      let conditionVisit := substituteExpression subclass condition state
      let bodyVisit := substituteStatement subclass body conditionVisit.state
      ⟨.untilStatement conditionVisit.current bodyVisit.node, bodyVisit.state⟩
  | .repeatStatement loopType body condition, state =>
      let bodyVisit := substituteStatement subclass body state
      let conditionVisit := substituteExpressionPtr subclass condition bodyVisit.state
      ⟨.repeatStatement loopType bodyVisit.node conditionVisit.node, conditionVisit.state⟩
  | .forStatement loopVariable uniqueLoop uniqueStep uniqueEnd startExpr endExpr stepExpr body,
      state =>
      let startVisit := substituteExpression subclass startExpr state
      let endVisit := substituteExpression subclass endExpr startVisit.state
      let stepVisit := substituteExpressionPtr subclass stepExpr endVisit.state
      let bodyVisit := substituteStatement subclass body stepVisit.state
      ⟨.forStatement loopVariable uniqueLoop uniqueStep uniqueEnd startVisit.current
        endVisit.current stepVisit.node bodyVisit.node, bodyVisit.state⟩
  | .forEach loopVariableName typeVariableName collectionExpression body filterType
      inferredElementType, state => ⟨.forEach loopVariableName typeVariableName
        collectionExpression body filterType inferredElementType, state⟩
  | .switchon expression cases defaultCase, state =>
      let expressionVisit := substituteExpression subclass expression state
      let casesVisit := substituteCases subclass cases expressionVisit.state
      let defaultCaseVisit := substituteDefaultPtr subclass defaultCase casesVisit.state
      ⟨.switchon expressionVisit.current casesVisit.node defaultCaseVisit.node,
        defaultCaseVisit.state⟩
  | .goto labelExpr, state =>
      let labelVisit := substituteExpression subclass labelExpr state
      ⟨.goto labelVisit.current, labelVisit.state⟩
  | .returnStatement, state => ⟨.returnStatement, state⟩
  | .finish syscallNumber arguments, state => ⟨.finish syscallNumber arguments, state⟩
  | .breakStatement, state => ⟨.breakStatement, state⟩
  | .brk, state => ⟨.brk, state⟩
  | .loop, state => ⟨.loop, state⟩
  | .endcase, state => ⟨.endcase, state⟩
  | .resultis expression, state =>
      let visit := substituteExpression subclass expression state
      ⟨.resultis visit.current, visit.state⟩
  | .compound statements, state =>
      let statementsVisit := substituteStatements subclass statements state
      ⟨.compound statementsVisit.node, statementsVisit.state⟩
  | .block declarations statements, state =>
      let statementsVisit := substituteStatements subclass statements state
      ⟨.block declarations statementsVisit.node, statementsVisit.state⟩
  | .stringStatement sizeExpr, state =>
      let sizeVisit := substituteExpression subclass sizeExpr state
      ⟨.stringStatement sizeVisit.current, sizeVisit.state⟩
  | .free listExpr, state =>
      let listVisit := substituteExpression subclass listExpr state
      ⟨.free listVisit.current, listVisit.state⟩
  | .labelTarget labelName, state => ⟨.labelTarget labelName, state⟩
  | .conditionalBranch condition targetLabel conditionExpr, state => ⟨.conditionalBranch
      condition targetLabel conditionExpr, state⟩

def substituteStatements (subclass : Subclass State) :
    List CompleteTree.Statement -> State -> Visit State (List CompleteTree.Statement)
  | [], state => ⟨[], state⟩
  | statement :: rest, state =>
      let statementVisit := substituteStatement subclass statement state
      let restVisit := substituteStatements subclass rest statementVisit.state
      ⟨statementVisit.node :: restVisit.node, restVisit.state⟩

def substituteStatementPtr (subclass : Subclass State) :
    Option CompleteTree.Statement -> State -> Visit State (Option CompleteTree.Statement)
  | none, state => ⟨none, state⟩
  | some statement, state =>
      let visit := substituteStatement subclass statement state
      ⟨some visit.node, visit.state⟩

def substituteCases (subclass : Subclass State) : List CompleteTree.CaseStatement -> State ->
    Visit State (List CompleteTree.CaseStatement)
  | [], state => ⟨[], state⟩
  | .mk constantExpr command resolvedConstantValue :: rest, state =>
      let constantVisit := substituteExpression subclass constantExpr state
      let commandVisit := substituteStatement subclass command constantVisit.state
      let restVisit := substituteCases subclass rest commandVisit.state
      ⟨.mk constantVisit.current commandVisit.node resolvedConstantValue ::
        restVisit.node, restVisit.state⟩

def substituteDefaultPtr (subclass : Subclass State) :
    Option CompleteTree.DefaultStatement -> State ->
    Visit State (Option CompleteTree.DefaultStatement)
  | none, state => ⟨none, state⟩
  | some (.mk command), state =>
      let commandVisit := substituteStatement subclass command state
      ⟨some (.mk commandVisit.node), commandVisit.state⟩

end

def substituteDeclaration (subclass : Subclass State) :
    CompleteTree.Declaration -> State -> Visit State CompleteTree.Declaration
  | .manifestDeclaration name value, state => ⟨.manifestDeclaration name value, state⟩
  | .staticDeclaration name initializer isFloatDeclaration, state =>
      let visit := substituteExpression subclass initializer state
      ⟨.staticDeclaration name visit.current isFloatDeclaration, visit.state⟩
  | .globalDeclaration globals, state => ⟨.globalDeclaration globals, state⟩
  | .globalVariableDeclaration names initializers isFloatDeclaration, state =>
      ⟨.globalVariableDeclaration names initializers isFloatDeclaration, state⟩
  | .functionDeclaration name parameters body, state =>
      let visit := substituteExpression subclass body state
      ⟨.functionDeclaration name parameters visit.current, visit.state⟩
  | .routineDeclaration name parameters body, state =>
      let visit := substituteStatement subclass body state
      ⟨.routineDeclaration name parameters visit.node, visit.state⟩
  | .labelDeclaration name command, state =>
      let visit := substituteStatement subclass command state
      ⟨.labelDeclaration name visit.node, visit.state⟩

def substituteDeclarations (subclass : Subclass State) : List CompleteTree.Declaration -> State ->
    Visit State (List CompleteTree.Declaration)
  | [], state => ⟨[], state⟩
  | declaration :: rest, state =>
      let visit := substituteDeclaration subclass declaration state
      let restVisit := substituteDeclarations subclass rest visit.state
      ⟨visit.node :: restVisit.node, restVisit.state⟩

/-- The program with every replacement in its position. -/
def substituteProgram (subclass : Subclass State) (program : CompleteTree.Program)
    (state : State) : Visit State CompleteTree.Program :=
  let declarationsVisit := substituteDeclarations subclass program.declarations state
  let statementsVisit := substituteStatements subclass program.statements
    declarationsVisit.state
  ⟨⟨declarationsVisit.node, statementsVisit.node⟩, statementsVisit.state⟩

/-! ## The branch that goes wrong -/

mutual

/-- No `RESULTIS` below the expression has an expression that is replaced. -/
def keepsExpression (subclass : Subclass State) :
    CompleteTree.Expression -> State -> Bool
  | .binaryOp _ left right, state =>
      let leftVisit := substituteExpression subclass left state
      keepsExpression subclass left state &&
        keepsExpression subclass right leftVisit.state
  | .unaryOp _ operand, state =>
      keepsExpression subclass operand state
  | .vectorAccess vectorExpr indexExpr, state =>
      let vectorVisit := substituteExpression subclass vectorExpr state
      keepsExpression subclass vectorExpr state &&
        keepsExpression subclass indexExpr vectorVisit.state
  | .charIndirection stringExpr indexExpr, state =>
      let stringVisit := substituteExpression subclass stringExpr state
      keepsExpression subclass stringExpr state &&
        keepsExpression subclass indexExpr stringVisit.state
  | .floatVectorIndirection vectorExpr indexExpr, state =>
      let vectorVisit := substituteExpression subclass vectorExpr state
      keepsExpression subclass vectorExpr state &&
        keepsExpression subclass indexExpr vectorVisit.state
  | .functionCall functionExpr arguments, state =>
      let functionVisit := substituteExpression subclass functionExpr state
      keepsExpression subclass functionExpr state &&
        keepsExpressions subclass arguments functionVisit.state
  | .sysCall _ syscallNumber arguments, state =>
      let syscallNumberVisit := substituteExpressionPtr subclass syscallNumber state
      keepsExpressionPtr subclass syscallNumber state &&
        keepsExpressions subclass arguments syscallNumberVisit.state
  | .conditional condition trueExpr falseExpr, state =>
      let conditionVisit := substituteExpression subclass condition state
      let trueVisit := substituteExpression subclass trueExpr conditionVisit.state
      keepsExpression subclass condition state &&
        keepsExpression subclass trueExpr conditionVisit.state &&
        keepsExpression subclass falseExpr trueVisit.state
  | .valof body, state =>
      keepsStatement subclass body state
  | .vecAllocation sizeExpr _, state =>
      keepsExpression subclass sizeExpr state
  | .stringAllocation sizeExpr, state =>
      keepsExpression subclass sizeExpr state
  | .table initializers _, state =>
      keepsExpressions subclass initializers state
  | .integerLiteral _, _ | .floatLiteral _, _ | .stringLiteral _, _ | .charLiteral _, _
  | .booleanLiteral _, _ | .variableAccess _ _, _ | .bitfieldAccess _ _ _, _
  | .floatValof _, _ | .fvecAllocation _ _, _ | .vecInitializer _, _ | .list _ _, _ => true

def keepsExpressions (subclass : Subclass State) : List CompleteTree.Expression -> State -> Bool
  | [], _ => true
  | expression :: rest, state =>
      keepsExpression subclass expression state &&
        keepsExpressions subclass rest (substituteExpression subclass expression state).state

def keepsExpressionPtr (subclass : Subclass State) :
    Option CompleteTree.Expression -> State -> Bool
  | none, _ => true
  | some expression, state => keepsExpression subclass expression state

/-- The statement is no `RESULTIS` whose expression is replaced, and none is below it. -/
def keepsStatement (subclass : Subclass State) :
    CompleteTree.Statement -> State -> Bool
  | .letDeclaration _ initializers _, state =>
      keepsExpressions subclass initializers state
  | .assignment lhs rhs, state =>
      let lhsVisit := substituteExpressions subclass lhs state
      keepsExpressions subclass lhs state &&
        keepsExpressions subclass rhs lhsVisit.state
  | .routineCall routineExpr arguments, state =>
      let routineVisit := substituteExpression subclass routineExpr state
      keepsExpression subclass routineExpr state &&
        keepsExpressions subclass arguments routineVisit.state
  | .ifStatement condition thenBranch, state =>
      let conditionVisit := substituteExpression subclass condition state
      keepsExpression subclass condition state &&
        keepsStatement subclass thenBranch conditionVisit.state
  | .unless condition thenBranch, state =>
      let conditionVisit := substituteExpression subclass condition state
      keepsExpression subclass condition state &&
        keepsStatement subclass thenBranch conditionVisit.state
  | .test condition thenBranch elseBranch, state =>
      let conditionVisit := substituteExpression subclass condition state
      let thenVisit := substituteStatement subclass thenBranch conditionVisit.state
      keepsExpression subclass condition state &&
        keepsStatement subclass thenBranch conditionVisit.state &&
        keepsStatementPtr subclass elseBranch thenVisit.state
  | .whileStatement condition body, state =>
      let conditionVisit := substituteExpression subclass condition state
      keepsExpression subclass condition state &&
        keepsStatement subclass body conditionVisit.state
  | .untilStatement condition body, state =>
      let conditionVisit := substituteExpression subclass condition state
      keepsExpression subclass condition state &&
        keepsStatement subclass body conditionVisit.state
  | .repeatStatement _ body condition, state =>
      let bodyVisit := substituteStatement subclass body state
      keepsStatement subclass body state &&
        keepsExpressionPtr subclass condition bodyVisit.state
  | .forStatement _ _ _ _ startExpr endExpr stepExpr body, state =>
      let startVisit := substituteExpression subclass startExpr state
      let endVisit := substituteExpression subclass endExpr startVisit.state
      let stepVisit := substituteExpressionPtr subclass stepExpr endVisit.state
      keepsExpression subclass startExpr state &&
        keepsExpression subclass endExpr startVisit.state &&
        keepsExpressionPtr subclass stepExpr endVisit.state &&
        keepsStatement subclass body stepVisit.state
  | .switchon expression cases defaultCase, state =>
      let expressionVisit := substituteExpression subclass expression state
      let casesVisit := substituteCases subclass cases expressionVisit.state
      keepsExpression subclass expression state &&
        keepsCases subclass cases expressionVisit.state &&
        keepsDefaultPtr subclass defaultCase casesVisit.state
  | .goto labelExpr, state =>
      keepsExpression subclass labelExpr state
  | .resultis expression, state =>
      keepsExpression subclass expression state &&
        (substituteExpression subclass expression state).replacement.isNone
  | .compound statements, state =>
      keepsStatements subclass statements state
  | .block _ statements, state =>
      keepsStatements subclass statements state
  | .stringStatement sizeExpr, state =>
      keepsExpression subclass sizeExpr state
  | .free listExpr, state =>
      keepsExpression subclass listExpr state
  | .forEach _ _ _ _ _ _, _ | .returnStatement, _ | .finish _ _, _ | .breakStatement, _
  | .brk, _ | .loop, _ | .endcase, _ | .labelTarget _, _ | .conditionalBranch _ _ _, _ => true

def keepsStatements (subclass : Subclass State) : List CompleteTree.Statement -> State -> Bool
  | [], _ => true
  | statement :: rest, state =>
      keepsStatement subclass statement state &&
        keepsStatements subclass rest (substituteStatement subclass statement state).state

def keepsStatementPtr (subclass : Subclass State) :
    Option CompleteTree.Statement -> State -> Bool
  | none, _ => true
  | some statement, state => keepsStatement subclass statement state

def keepsCases (subclass : Subclass State) : List CompleteTree.CaseStatement -> State -> Bool
  | [], _ => true
  | .mk constantExpr command _ :: rest, state =>
      let constantVisit := substituteExpression subclass constantExpr state
      let commandVisit := substituteStatement subclass command constantVisit.state
      keepsExpression subclass constantExpr state &&
        keepsStatement subclass command constantVisit.state &&
        keepsCases subclass rest commandVisit.state

def keepsDefaultPtr (subclass : Subclass State) :
    Option CompleteTree.DefaultStatement -> State -> Bool
  | none, _ => true
  | some (.mk command), state => keepsStatement subclass command state

end

def keepsDeclaration (subclass : Subclass State) : CompleteTree.Declaration -> State -> Bool
  | .staticDeclaration _ initializer _, state => keepsExpression subclass initializer state
  | .functionDeclaration _ _ body, state => keepsExpression subclass body state
  | .routineDeclaration _ _ body, state => keepsStatement subclass body state
  | .labelDeclaration _ command, state => keepsStatement subclass command state
  | .manifestDeclaration _ _, _ | .globalDeclaration _, _
  | .globalVariableDeclaration _ _ _, _ => true

def keepsDeclarations (subclass : Subclass State) :
    List CompleteTree.Declaration -> State -> Bool
  | [], _ => true
  | declaration :: rest, state =>
      keepsDeclaration subclass declaration state &&
        keepsDeclarations subclass rest (substituteDeclaration subclass declaration state).state

/-- No `RESULTIS` of the program has an expression that is replaced. -/
def keepsProgram (subclass : Subclass State) (program : CompleteTree.Program)
    (state : State) : Bool :=
  keepsDeclarations subclass program.declarations state &&
    keepsStatements subclass program.statements
      (substituteDeclarations subclass program.declarations state).state

end DefaultTraversal
end Optimizer
end NewBcpl
