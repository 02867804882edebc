import NewBcpl.Ast

namespace NewBcpl
namespace CompleteTree

/-!
# The tree with all its data members

The classes of the tree with every member, also those that only some passes set:
the flags of `FLET` and `FSTATIC`, the names that the analyzer makes up, the
inferred element type, the resolved constants and the declarations of a block.
`NewBcpl.Ast` has the members that the other passes of the development read.
A pointer that the parser or an optimizer may leave null is an option.
-/

mutual

/-- The expression nodes. -/
inductive Expression where
  | integerLiteral (intValue : Word)
  | floatLiteral (floatValue : Float)
  | stringLiteral (value : String)
  | charLiteral (value : BitVec 8)
  | booleanLiteral (value : Bool)
  | variableAccess (name uniqueName : String)
  | binaryOp (op : BinaryOperator) (left right : Expression)
  | unaryOp (op : UnaryOperator) (operand : Expression)
  | vectorAccess (vectorExpr indexExpr : Expression)
  | charIndirection (stringExpr indexExpr : Expression)
  | floatVectorIndirection (vectorExpr indexExpr : Expression)
  | bitfieldAccess (baseExpr startBitExpr widthExpr : Expression)
  | functionCall (functionExpr : Expression) (arguments : List Expression)
  | sysCall (functionName : String) (syscallNumber : Option Expression)
      (arguments : List Expression)
  | conditional (condition trueExpr falseExpr : Expression)
  | valof (body : Statement)
  | floatValof (body : Statement)
  | vecAllocation (sizeExpr : Expression) (variableName : String)
  | fvecAllocation (sizeExpr : Expression) (variableName : String)
  | stringAllocation (sizeExpr : Expression)
  | table (initializers : List Expression) (isFloatTable : Bool)
  | vecInitializer (initializers : List Expression)
  | list (initializers : List Expression) (isManifest : Bool)

/-- The statement nodes. -/
inductive Statement where
  | letDeclaration (names : List String) (initializers : List Expression)
      (isFloatDeclaration : Bool)
  | assignment (lhs rhs : List Expression)
  | routineCall (routineExpr : Expression) (arguments : List Expression)
  | ifStatement (condition : Expression) (thenBranch : Statement)
  | unless (condition : Expression) (thenBranch : Statement)
  | test (condition : Expression) (thenBranch : Statement)
      (elseBranch : Option Statement)
  | whileStatement (condition : Expression) (body : Statement)
  | untilStatement (condition : Expression) (body : Statement)
  | repeatStatement (loopType : LoopType) (body : Statement)
      (condition : Option Expression)
  | forStatement
      (loopVariable uniqueLoopVariableName uniqueStepVariableName
        uniqueEndVariableName : String)
      (startExpr endExpr : Expression) (stepExpr : Option Expression)
      (body : Statement)
  | forEach (loopVariableName typeVariableName : String)
      (collectionExpression : Expression) (body : Statement)
      (filterType inferredElementType : VarType)
  | switchon (expression : Expression) (cases : List CaseStatement)
      (defaultCase : Option DefaultStatement)
  | goto (labelExpr : Expression)
  | returnStatement
  | finish (syscallNumber : Option Expression) (arguments : List Expression)
  | breakStatement
  | brk
  | loop
  | endcase
  | resultis (expression : Expression)
  | compound (statements : List Statement)
  | block (declarations : List Declaration) (statements : List Statement)
  | stringStatement (sizeExpr : Expression)
  | free (listExpr : Expression)
  | labelTarget (labelName : String)
  | conditionalBranch (condition targetLabel : String)
      (conditionExpr : Option Expression)

/-- A `CASE` of a `SWITCHON`. -/
inductive CaseStatement where
  | mk (constantExpr : Expression) (command : Statement)
      (resolvedConstantValue : Option Word)

/-- The `DEFAULT` of a `SWITCHON`. -/
inductive DefaultStatement where
  | mk (command : Statement)

/-- The declaration nodes. -/
inductive Declaration where
  | manifestDeclaration (name : String) (value : Word)
  | staticDeclaration (name : String) (initializer : Expression)
      (isFloatDeclaration : Bool)
  | globalDeclaration (globals : List (String × Int))
  | globalVariableDeclaration (names : List String) (initializers : List Expression)
      (isFloatDeclaration : Bool)
  | functionDeclaration (name : String) (parameters : List String) (body : Expression)
  | routineDeclaration (name : String) (parameters : List String) (body : Statement)
  | labelDeclaration (name : String) (command : Statement)

end

/-- A whole program. -/
structure Program where
  declarations : List Declaration
  statements : List Statement

/-- A node of any class. -/
inductive Node where
  | program (program : Program)
  | declaration (declaration : Declaration)
  | statement (statement : Statement)
  | caseStatement (caseStatement : CaseStatement)
  | defaultStatement (defaultStatement : DefaultStatement)
  | expression (expression : Expression)

end CompleteTree
end NewBcpl
