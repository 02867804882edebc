import NewBcpl.Ast

namespace NewBcpl
namespace Parsing

/-!
# The trees of the parser

What the parser builds, before any pass has seen it. After an error it goes on
with a null pointer where a node should stand, so every child that such a pointer
can reach is an option; the operands of a binary operator never are null, since
the loop over operators stops at one. Texts are lists of characters.
-/

mutual

/-- The expressions of the parser. -/
inductive Expression where
  | integerLiteral (value : Int)
  | floatLiteral (value : Float)
  | stringLiteral (value : List Char)
  | charLiteral (value : Char)
  | booleanLiteral (value : Bool)
  | variableAccess (name : List Char)
  | binaryOp (op : BinaryOperator) (left right : Expression)
  | unaryOp (op : UnaryOperator) (operand : Option Expression)
  | vectorAccess (vectorExpr : Expression) (indexExpr : Option Expression)
  | charIndirection (stringExpr : Expression) (indexExpr : Option Expression)
  | floatVectorIndirection (vectorExpr : Expression) (indexExpr : Option Expression)
  | bitfieldAccess (baseExpr : Expression) (startBitExpr widthExpr : Option Expression)
  | functionCall (functionExpr : Expression) (arguments : List (Option Expression))
  | conditional (condition : Expression) (trueExpr falseExpr : Option Expression)
  | valof (body : Option Statement)
  | floatValof (body : Option Statement)
  | vecAllocation (sizeExpr : Option Expression)
  | fvecAllocation (sizeExpr : Option Expression)
  | stringAllocation (sizeExpr : Option Expression)
  | table (initializers : List (Option Expression)) (isFloatTable : Bool)
  | vecInitializer (initializers : List (Option Expression))
  | list (initializers : List (Option Expression)) (isManifest : Bool)

/-- The statements of the parser. -/
inductive Statement where
  | letDeclaration (names : List (List Char)) (initializers : List (Option Expression))
      (isFloatDeclaration : Bool)
  | assignment (lhs rhs : List (Option Expression))
  | routineCall (routineExpr : Expression) (arguments : List (Option Expression))
  | ifStatement (condition : Option Expression) (thenBranch : Option Statement)
  | unless (condition : Option Expression) (thenBranch : Option Statement)
  | test (condition : Option Expression) (thenBranch elseBranch : Option Statement)
  | whileStatement (condition : Option Expression) (body : Option Statement)
  | repeatStatement (loopType : LoopType) (body : Option Statement)
      (condition : Option Expression)
  | forStatement (loopVariable : List Char)
      (startExpr endExpr stepExpr : Option Expression) (body : Option Statement)
  | forEach (loopVariableName typeVariableName : List Char)
      (collectionExpression : Option Expression) (body : Option Statement)
  | switchon (expression : Option Expression) (cases : List CaseStatement)
      (defaultCase : Option Statement)
  | goto (labelExpr : Option Expression)
  | returnStatement
  | finish
  | breakStatement
  | brk
  | loop
  | endcase
  | resultis (expression : Option Expression)
  | compound (statements : List (Option Statement))
  | block (declarations : List (Option Declaration)) (statements : List (Option Statement))
  | free (listExpr : Expression)
  | labelTarget (labelName : List Char)

/-- A `CASE` of a `SWITCHON`. -/
inductive CaseStatement where
  | mk (constantExpr : Option Expression) (command : Statement)

/-- The declarations of the parser. -/
inductive Declaration where
  | manifestDeclaration (name : List Char) (value : Int)
  | staticDeclaration (name : List Char) (initializer : Option Expression)
  | globalDeclaration (globals : List (List Char × Int))
  | globalVariableDeclaration (names : List (List Char))
      (initializers : List (Option Expression)) (isFloatDeclaration : Bool)
  | functionDeclaration (name : List Char) (parameters : List (List Char))
      (body : Option Expression)
  | routineDeclaration (name : List Char) (parameters : List (List Char))
      (body : Option Statement)
  | labelDeclaration (name : List Char) (command : Option Statement)

end

/-- The program as `parse_program` leaves it. -/
structure Program where
  declarations : List (Option Declaration)

end Parsing
end NewBcpl
