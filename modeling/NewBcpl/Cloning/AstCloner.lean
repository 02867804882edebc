import NewBcpl.CompleteTree

namespace NewBcpl
namespace CompleteTree

/-!
# Clones of a tree

`clone()` of every class, and the trees that equal their clones. A class whose
`clone()` passes all its members to the constructor or copies them afterwards
keeps its subtree; the others lose a member, and keep the subtree only where
that member has the constructor's default.
-/

mutual

/-- `clone()` of the expressions. A `VariableAccess` loses `unique_name`, the two
allocations lose `variable_name`. -/
def Expression.clone : Expression -> Expression
  | .integerLiteral intValue => .integerLiteral intValue
  | .floatLiteral floatValue => .floatLiteral floatValue
  | .stringLiteral value => .stringLiteral value
  | .charLiteral value => .charLiteral value
  | .booleanLiteral value => .booleanLiteral value
  | .variableAccess name _ => .variableAccess name ""
  | .binaryOp op left right => .binaryOp op left.clone right.clone
  | .unaryOp op operand => .unaryOp op operand.clone
  | .vectorAccess vectorExpr indexExpr => .vectorAccess vectorExpr.clone indexExpr.clone
  | .charIndirection stringExpr indexExpr =>
      .charIndirection stringExpr.clone indexExpr.clone
  | .floatVectorIndirection vectorExpr indexExpr =>
      .floatVectorIndirection vectorExpr.clone indexExpr.clone
  | .bitfieldAccess baseExpr startBitExpr widthExpr =>
      .bitfieldAccess baseExpr.clone startBitExpr.clone widthExpr.clone
  | .functionCall functionExpr arguments =>
      .functionCall functionExpr.clone (cloneExpressions arguments)
  | .sysCall functionName syscallNumber arguments =>
      .sysCall functionName (cloneExpressionPtr syscallNumber) (cloneExpressions arguments)
  | .conditional condition trueExpr falseExpr =>
      .conditional condition.clone trueExpr.clone falseExpr.clone
  | .valof body => .valof body.clone
  | .floatValof body => .floatValof body.clone
  | .vecAllocation sizeExpr _ => .vecAllocation sizeExpr.clone ""
  | .fvecAllocation sizeExpr _ => .fvecAllocation sizeExpr.clone ""
  | .stringAllocation sizeExpr => .stringAllocation sizeExpr.clone
  | .table initializers isFloatTable => .table (cloneExpressions initializers) isFloatTable
  | .vecInitializer initializers => .vecInitializer (cloneExpressions initializers)
  | .list initializers isManifest => .list (cloneExpressions initializers) isManifest

/-- `clone_vector` of expressions. -/
def cloneExpressions : List Expression -> List Expression
  | [] => []
  | expression :: rest => expression.clone :: cloneExpressions rest

/-- `clone_unique_ptr` of an expression. -/
def cloneExpressionPtr : Option Expression -> Option Expression
  | none => none
  | some expression => some expression.clone

/-- `clone()` of the statements. A `LET` loses `is_float_declaration`, a `FOREACH`
its inferred type, a `FINISH` its system call, and a block its declarations. -/
def Statement.clone : Statement -> Statement
  | .letDeclaration names initializers _ =>
      .letDeclaration names (cloneExpressions initializers) false
  | .assignment lhs rhs => .assignment (cloneExpressions lhs) (cloneExpressions rhs)
  | .routineCall routineExpr arguments =>
      .routineCall routineExpr.clone (cloneExpressions arguments)
  | .ifStatement condition thenBranch => .ifStatement condition.clone thenBranch.clone
  | .unless condition thenBranch => .unless condition.clone thenBranch.clone
  | .test condition thenBranch elseBranch =>
      .test condition.clone thenBranch.clone (cloneStatementPtr elseBranch)
  | .whileStatement condition body => .whileStatement condition.clone body.clone
  | .untilStatement condition body => .untilStatement condition.clone body.clone
  | .repeatStatement loopType body condition =>
      .repeatStatement loopType body.clone (cloneExpressionPtr condition)
  | .forStatement loopVariable uniqueLoop uniqueStep uniqueEnd startExpr endExpr stepExpr
      body =>
      .forStatement loopVariable uniqueLoop uniqueStep uniqueEnd startExpr.clone
        endExpr.clone (cloneExpressionPtr stepExpr) body.clone
  | .forEach loopVariableName typeVariableName collectionExpression body filterType _ =>
      .forEach loopVariableName typeVariableName collectionExpression.clone body.clone
        filterType .unknown
  | .switchon expression cases defaultCase =>
      .switchon expression.clone (cloneCases cases) (cloneDefaultPtr defaultCase)
  | .goto labelExpr => .goto labelExpr.clone
  | .returnStatement => .returnStatement
  | .finish _ _ => .finish none []
  | .breakStatement => .breakStatement
  | .brk => .brk
  | .loop => .loop
  | .endcase => .endcase
  | .resultis expression => .resultis expression.clone
  | .compound statements => .compound (cloneStatements statements)
  | .block _ statements => .block [] (cloneStatements statements)
  | .stringStatement sizeExpr => .stringStatement sizeExpr.clone
  | .free listExpr => .free listExpr.clone
  | .labelTarget labelName => .labelTarget labelName
  | .conditionalBranch condition targetLabel conditionExpr =>
      .conditionalBranch condition targetLabel (cloneExpressionPtr conditionExpr)

/-- `clone_vector` of statements. -/
def cloneStatements : List Statement -> List Statement
  | [] => []
  | statement :: rest => statement.clone :: cloneStatements rest

/-- `clone_unique_ptr` of a statement. -/
def cloneStatementPtr : Option Statement -> Option Statement
  | none => none
  | some statement => some statement.clone

/-- `CaseStatement::clone()`. -/
def CaseStatement.clone : CaseStatement -> CaseStatement
  | .mk constantExpr command resolvedConstantValue =>
      .mk constantExpr.clone command.clone resolvedConstantValue

/-- The loop over the cases in `SwitchonStatement::clone()`. -/
def cloneCases : List CaseStatement -> List CaseStatement
  | [] => []
  | caseStatement :: rest => caseStatement.clone :: cloneCases rest

/-- `DefaultStatement::clone()`. -/
def DefaultStatement.clone : DefaultStatement -> DefaultStatement
  | .mk command => .mk command.clone

/-- `clone_unique_ptr` of a default. -/
def cloneDefaultPtr : Option DefaultStatement -> Option DefaultStatement
  | none => none
  | some defaultStatement => some defaultStatement.clone

end

/-- `clone()` of the declarations. -/
def Declaration.clone : Declaration -> Declaration
  | .manifestDeclaration name value => .manifestDeclaration name value
  | .staticDeclaration name initializer isFloatDeclaration =>
      .staticDeclaration name initializer.clone isFloatDeclaration
  | .globalDeclaration globals => .globalDeclaration globals
  | .globalVariableDeclaration names initializers isFloatDeclaration =>
      .globalVariableDeclaration names (cloneExpressions initializers) isFloatDeclaration
  | .functionDeclaration name parameters body =>
      .functionDeclaration name parameters body.clone
  | .routineDeclaration name parameters body =>
      .routineDeclaration name parameters body.clone
  | .labelDeclaration name command => .labelDeclaration name command.clone

/-- `Program::clone()`. -/
def Program.clone (program : Program) : Program :=
  { declarations := program.declarations.map Declaration.clone
    statements := cloneStatements program.statements }

/-- `ASTNode::clone()`. -/
def Node.clone : Node -> Node
  | .program tree => .program tree.clone
  | .declaration tree => .declaration tree.clone
  | .statement tree => .statement tree.clone
  | .caseStatement tree => .caseStatement tree.clone
  | .defaultStatement tree => .defaultStatement tree.clone
  | .expression tree => .expression tree.clone

attribute [simp] Expression.clone cloneExpressions cloneExpressionPtr Statement.clone
  cloneStatements cloneStatementPtr CaseStatement.clone cloneCases DefaultStatement.clone
  cloneDefaultPtr Declaration.clone

/-! ## The trees that have nothing to lose -/

mutual

/-- No member of the expression that `clone()` leaves out is set. -/
def Expression.isPlain : Expression -> Bool
  | .integerLiteral _ | .floatLiteral _ | .stringLiteral _ | .charLiteral _
  | .booleanLiteral _ => true
  | .variableAccess _ uniqueName => uniqueName == ""
  | .binaryOp _ left right => left.isPlain && right.isPlain
  | .unaryOp _ operand => operand.isPlain
  | .vectorAccess vectorExpr indexExpr => vectorExpr.isPlain && indexExpr.isPlain
  | .charIndirection stringExpr indexExpr => stringExpr.isPlain && indexExpr.isPlain
  | .floatVectorIndirection vectorExpr indexExpr => vectorExpr.isPlain && indexExpr.isPlain
  | .bitfieldAccess baseExpr startBitExpr widthExpr =>
      baseExpr.isPlain && startBitExpr.isPlain && widthExpr.isPlain
  | .functionCall functionExpr arguments => functionExpr.isPlain && arePlainExpressions arguments
  | .sysCall _ syscallNumber arguments =>
      isPlainExpressionPtr syscallNumber && arePlainExpressions arguments
  | .conditional condition trueExpr falseExpr =>
      condition.isPlain && trueExpr.isPlain && falseExpr.isPlain
  | .valof body => body.isPlain
  | .floatValof body => body.isPlain
  | .vecAllocation sizeExpr variableName => sizeExpr.isPlain && variableName == ""
  | .fvecAllocation sizeExpr variableName => sizeExpr.isPlain && variableName == ""
  | .stringAllocation sizeExpr => sizeExpr.isPlain
  | .table initializers _ => arePlainExpressions initializers
  | .vecInitializer initializers => arePlainExpressions initializers
  | .list initializers _ => arePlainExpressions initializers

def arePlainExpressions : List Expression -> Bool
  | [] => true
  | expression :: rest => expression.isPlain && arePlainExpressions rest

def isPlainExpressionPtr : Option Expression -> Bool
  | none => true
  | some expression => expression.isPlain

/-- No member of the statement that `clone()` leaves out is set. -/
def Statement.isPlain : Statement -> Bool
  | .letDeclaration _ initializers isFloatDeclaration =>
      arePlainExpressions initializers && !isFloatDeclaration
  | .assignment lhs rhs => arePlainExpressions lhs && arePlainExpressions rhs
  | .routineCall routineExpr arguments => routineExpr.isPlain && arePlainExpressions arguments
  | .ifStatement condition thenBranch => condition.isPlain && thenBranch.isPlain
  | .unless condition thenBranch => condition.isPlain && thenBranch.isPlain
  | .test condition thenBranch elseBranch =>
      condition.isPlain && thenBranch.isPlain && isPlainStatementPtr elseBranch
  | .whileStatement condition body => condition.isPlain && body.isPlain
  | .untilStatement condition body => condition.isPlain && body.isPlain
  | .repeatStatement _ body condition => body.isPlain && isPlainExpressionPtr condition
  | .forStatement _ _ _ _ startExpr endExpr stepExpr body =>
      startExpr.isPlain && endExpr.isPlain && isPlainExpressionPtr stepExpr && body.isPlain
  | .forEach _ _ collectionExpression body _ inferredElementType =>
      collectionExpression.isPlain && body.isPlain && inferredElementType == .unknown
  | .switchon expression cases defaultCase =>
      expression.isPlain && arePlainCases cases && isPlainDefaultPtr defaultCase
  | .goto labelExpr => labelExpr.isPlain
  | .finish syscallNumber arguments => syscallNumber.isNone && arguments.isEmpty
  | .resultis expression => expression.isPlain
  | .compound statements => arePlainStatements statements
  | .block declarations statements => declarations.isEmpty && arePlainStatements statements
  | .stringStatement sizeExpr => sizeExpr.isPlain
  | .free listExpr => listExpr.isPlain
  | .conditionalBranch _ _ conditionExpr => isPlainExpressionPtr conditionExpr
  | .returnStatement | .breakStatement | .brk | .loop | .endcase | .labelTarget _ => true

def arePlainStatements : List Statement -> Bool
  | [] => true
  | statement :: rest => statement.isPlain && arePlainStatements rest

def isPlainStatementPtr : Option Statement -> Bool
  | none => true
  | some statement => statement.isPlain

def CaseStatement.isPlain : CaseStatement -> Bool
  | .mk constantExpr command _ => constantExpr.isPlain && command.isPlain

def arePlainCases : List CaseStatement -> Bool
  | [] => true
  | caseStatement :: rest => caseStatement.isPlain && arePlainCases rest

def DefaultStatement.isPlain : DefaultStatement -> Bool
  | .mk command => command.isPlain

def isPlainDefaultPtr : Option DefaultStatement -> Bool
  | none => true
  | some defaultStatement => defaultStatement.isPlain

end

/-- No member of the declaration's subtrees that `clone()` leaves out is set. -/
def Declaration.isPlain : Declaration -> Bool
  | .manifestDeclaration _ _ | .globalDeclaration _ => true
  | .staticDeclaration _ initializer _ => initializer.isPlain
  | .globalVariableDeclaration _ initializers _ => arePlainExpressions initializers
  | .functionDeclaration _ _ body => body.isPlain
  | .routineDeclaration _ _ body => body.isPlain
  | .labelDeclaration _ command => command.isPlain

def Node.isPlain : Node -> Bool
  | .program tree =>
      tree.declarations.all Declaration.isPlain &&
        arePlainStatements tree.statements
  | .declaration tree => tree.isPlain
  | .statement tree => tree.isPlain
  | .caseStatement tree => tree.isPlain
  | .defaultStatement tree => tree.isPlain
  | .expression tree => tree.isPlain

attribute [simp] Expression.isPlain arePlainExpressions isPlainExpressionPtr Statement.isPlain
  arePlainStatements isPlainStatementPtr CaseStatement.isPlain arePlainCases
  DefaultStatement.isPlain isPlainDefaultPtr Declaration.isPlain

end CompleteTree
end NewBcpl
