import Mathlib.Data.BitVec

namespace NewBcpl

/-!
# The abstract syntax tree

The nodes of the compiler's tree, under the names of their classes. A tree owns
its children, so the classes become three mutual inductive types, and a child
that may be null becomes an option. A `NumberLiteral` holds either a 64-bit
integer or a double; the two literal types are two constructors here.
-/

/-- The 64-bit machine word: every BCPL value, address and truth value. -/
abbrev Word : Type := BitVec 64

/-- `BinaryOp::Operator`. -/
inductive BinaryOperator where
  | add | subtract | multiply | divide | remainder
  | equal | notEqual | less | lessEqual | greater | greaterEqual
  | logicalAnd | bitwiseAnd | logicalOr | bitwiseOr | equivalence | notEquivalence
  | leftShift | rightShift
  | floatAdd | floatSubtract | floatMultiply | floatDivide
  | floatEqual | floatNotEqual | floatLess | floatLessEqual | floatGreater
  | floatGreaterEqual
  deriving DecidableEq, Repr

/-- `UnaryOp::Operator`. -/
inductive UnaryOperator where
  | addressOf | indirection | logicalNot | bitwiseNot | negate
  | floatConvert | floatSqrt | floatFloor | floatTruncate
  | lengthOf | headOf | tailOf | tailOfNonDestructive | headOfAsFloat
  | typeOf
  deriving DecidableEq, Repr

/-- `RepeatStatement::LoopType`. -/
inductive LoopType where
  | repeatForever | repeatWhile | repeatUntil
  deriving DecidableEq, Repr

/-- The members of `VarType` that decide how a FOREACH is lowered: the four list
types, strings, the two kinds of vector, and everything else. -/
inductive VarType where
  | integer | float | unknown
  | pointerToAnyList | pointerToIntList | pointerToFloatList | pointerToStringList
  | constPointerToAnyList | constPointerToIntList | constPointerToFloatList
  | constPointerToStringList
  | pointerToString | pointerToIntVec | pointerToFloatVec
  deriving DecidableEq, Repr

mutual

/-- The expression nodes. -/
inductive Expression where
  | integerLiteral (value : Word)
  | floatLiteral (value : Float)
  | stringLiteral (value : String)
  | charLiteral (value : BitVec 8)
  | booleanLiteral (value : Bool)
  | variableAccess (name : String)
  | binaryOp (operator : BinaryOperator) (left right : Expression)
  | unaryOp (operator : UnaryOperator) (operand : Expression)
  | vectorAccess (vector index : Expression)
  | charIndirection (string index : Expression)
  | floatVectorIndirection (vector index : Expression)
  | bitfieldAccess (base startBit width : Expression)
  | functionCall (function : Expression) (arguments : List Expression)
  | sysCall (functionName : String) (syscallNumber : Expression)
      (arguments : List Expression)
  | conditional (condition trueExpr falseExpr : Expression)
  | valof (body : Statement)
  | floatValof (body : Statement)
  | vecAllocation (size : Expression)
  | fvecAllocation (size : Expression)
  | stringAllocation (size : Expression)
  | table (initializers : List Expression) (isFloatTable : Bool)
  | vecInitializer (initializers : List Expression)
  | list (initializers : List Expression) (isManifest : Bool)

/-- The statement nodes. A block's declarations come before its statements; a
`LET` is a statement of its own. `misplacedExpression` is no node of the
language: it is the expression that an optimizer's unchecked `static_cast` can
leave where a statement stood. -/
inductive Statement where
  | letDeclaration (names : List String) (initializers : List Expression)
  | assignment (lhs rhs : List Expression)
  | routineCall (routine : Expression) (arguments : List Expression)
  | ifStatement (condition : Expression) (thenBranch : Statement)
  | unless (condition : Expression) (thenBranch : Statement)
  | test (condition : Expression) (thenBranch elseBranch : Statement)
  | whileStatement (condition : Expression) (body : Statement)
  | untilStatement (condition : Expression) (body : Statement)
  | repeatStatement (loopType : LoopType) (body : Statement)
      (condition : Option Expression)
  | forStatement (loopVariable uniqueLoopVariableName : String)
      (startExpr endExpr : Expression) (stepExpr : Option Expression)
      (body : Statement)
  | forEach (loopVariableName typeVariableName : String) (collection : Expression)
      (body : Statement) (filterType inferredElementType : VarType)
  | switchon (expression : Expression) (cases : List CaseStatement)
      (defaultCase : Option Statement)
  | goto (label : Expression)
  | returnStatement
  | finish
  | breakStatement
  | brk
  | loop
  | endcase
  | resultis (expression : Expression)
  | compound (statements : List Statement)
  | block (declarations : List Declaration) (statements : List Statement)
  | stringStatement (size : Expression)
  | free (listExpr : Expression)
  | labelTarget (labelName : String)
  | conditionalBranch (condition targetLabel : String) (conditionExpr : Expression)
  | misplacedExpression (expression : Expression)

/-- One `CASE` of a `SWITCHON`; `resolvedConstantValue` is what the analyzer
found the constant expression to be. -/
inductive CaseStatement where
  | mk (constantExpr : Expression) (resolvedConstantValue : Option Word)
      (command : Statement)

/-- The declarations that may stand inside a block. -/
inductive Declaration where
  | manifestDeclaration (name : String) (value : Word)
  | staticDeclaration (name : String) (initializer : Expression)
  | globalDeclaration (globals : List (String × Nat))

end

namespace CaseStatement

/-- The command of a case. -/
def command : CaseStatement -> Statement
  | mk _ _ command => command

/-- The resolved constant of a case. -/
def resolvedConstantValue : CaseStatement -> Option Word
  | mk _ value _ => value

end CaseStatement

/-- A function (its body is an expression) or a routine (its body is a
statement) at the top level of a program. -/
inductive TopLevelDeclaration where
  | function (name : String) (parameters : List String) (body : Expression)
  | routine (name : String) (parameters : List String) (body : Statement)

end NewBcpl
