import NewBcpl.Cloning.AstCloner
import NewBcpl.Foundations.PowersOfTwo
import NewBcpl.Semantics.Evaluation

namespace NewBcpl
namespace CompleteTree

open Foundations.PartialState Foundations.PowersOfTwo Semantics

/-!
# The strength reduction pass

`StrengthReductionPass::visit(BinaryOp&)` on the complete tree. The visitor has
no other method, and the default methods of the traversal do nothing, so it goes
down through nested binary operators and stops at every other node. Each of the
four helpers either rewrites the node or leaves it to the next one.
-/

/-- The dynamic cast to `NumberLiteral`. -/
def isNumberLiteral : Expression -> Bool
  | .integerLiteral _ | .floatLiteral _ => true
  | _ => false

/-- `literal` and `other_operand_ptr` of the two multiplications: the right
operand is tried first. -/
def literalOperand (left right : Expression) : Option (Expression × Expression) :=
  if isNumberLiteral right then some (right, left)
  else if isNumberLiteral left then some (left, right)
  else none

/-- `value > 0 && (value & (value - 1)) == 0`. -/
def isPowerOfTwo (value : Word) : Bool :=
  (0#64).slt value && (value &&& (value - 1#64)) == 0#64

/-- `shift_amount`, as the literal that the new node gets. -/
def shiftAmount (value : Word) : Word :=
  BitVec.ofNat 64 (countLowZeros 64 value 0)

/-- `tryOptimizeIntegerMultiply`. -/
def tryOptimizeIntegerMultiply (op : BinaryOperator) (left right : Expression) :
    Option Expression :=
  if op ≠ .multiply then none
  else
    match literalOperand left right with
    | some (.integerLiteral value, other) =>
        if isPowerOfTwo value then
          some (.binaryOp .leftShift other (.integerLiteral (shiftAmount value)))
        else none
    | _ => none

/-- `tryOptimizeFloatMultiply`. -/
def tryOptimizeFloatMultiply (op : BinaryOperator) (left right : Expression) :
    Option Expression :=
  if op ≠ .floatMultiply then none
  else
    match literalOperand left right with
    | some (.floatLiteral value, other) =>
        if value != 2.0 then none
        else some (.binaryOp .floatAdd other other.clone)
    | _ => none

/-- `tryOptimizeIntegerDivision`. -/
def tryOptimizeIntegerDivision (op : BinaryOperator) (left right : Expression) :
    Option Expression :=
  if op ≠ .divide then none
  else
    match right with
    | .integerLiteral value =>
        if isPowerOfTwo value then
          some (.binaryOp .rightShift left (.integerLiteral (shiftAmount value)))
        else none
    | _ => none

/-- `tryOptimizeFloatDivision`. -/
def tryOptimizeFloatDivision (op : BinaryOperator) (left right : Expression) :
    Option Expression :=
  if op ≠ .floatDivide then none
  else
    match right with
    | .floatLiteral value =>
        if value != 0.0 then
          some (.binaryOp .floatMultiply left (.floatLiteral (1.0 / value)))
        else none
    | _ => none

/-- The four attempts on a node whose operands have been visited. -/
def reduceNode (op : BinaryOperator) (left right : Expression) : Expression :=
  match tryOptimizeIntegerMultiply op left right with
  | some node => node
  | none =>
      match tryOptimizeFloatMultiply op left right with
      | some node => node
      | none =>
          match tryOptimizeIntegerDivision op left right with
          | some node => node
          | none => (tryOptimizeFloatDivision op left right).getD (.binaryOp op left right)

/-- `visit(BinaryOp&)`; on a node of another class the traversal does nothing. -/
def reduceStrength : Expression -> Expression
  | .binaryOp op left right => reduceNode op (reduceStrength left) (reduceStrength right)
  | expression => expression

/-!
## The values of numeric trees

The generator evaluates the right operand of a binary operator first, and the
base of a subscript before its index. The integer operators have the values of
their instruction sequences; what the float instructions, the loads and the
bits of a float literal are is left to the target.
-/

/-- The float instructions and the memory of the target machine. -/
structure Target where
  floatBits : Float -> Word
  floatBinary : BinaryOperator -> Word -> Word -> Word
  floatUnary : UnaryOperator -> Word -> Word
  vectorElement : State -> Word -> Word -> Word
  character : State -> Word -> Word -> Word
  floatElement : State -> Word -> Word -> Word

namespace Target

/-- The emitted operators, completed by the float instructions. -/
def operators (target : Target) : OperatorMeaning :=
  { OperatorMeaning.emitted with
    binary := fun op left right =>
      if isIntegerOperator op then OperatorMeaning.emitted.binary op left right
      else some (target.floatBinary op left right)
    unary := fun op operand =>
      match op with
      | .floatConvert | .floatSqrt | .floatFloor | .floatTruncate =>
          some (target.floatUnary op operand)
      | _ => OperatorMeaning.emitted.unary op operand }

end Target

/-- A subscript: the base, the index, and a load that changes nothing. -/
def subscript (load : State -> Word -> Word -> Word) (base index : Evaluation) : Evaluation :=
  andThen base fun address => andThen index fun offset state =>
    some (load state address offset, state)

mutual

/-- The value of a tree over numbers, variables, operators, subscripts,
conditionals and calls of named functions. Other expressions have none here. -/
def evaluate (target : Target) (callee : Callee) : Expression -> Evaluation
  | .integerLiteral value => give value
  | .floatLiteral value => give (target.floatBits value)
  | .booleanLiteral value => give (target.operators.boolean value)
  | .charLiteral value => give (value.setWidth 64)
  | .variableAccess name _ => fun state => some (state.environment name, state)
  | .binaryOp op left right =>
      evaluateBinary target.operators op (evaluate target callee left)
        (evaluate target callee right)
  | .unaryOp op operand =>
      Evaluation.apply (target.operators.unary op) (evaluate target callee operand)
  | .vectorAccess vectorExpr indexExpr =>
      subscript target.vectorElement (evaluate target callee vectorExpr)
        (evaluate target callee indexExpr)
  | .charIndirection stringExpr indexExpr =>
      subscript target.character (evaluate target callee stringExpr)
        (evaluate target callee indexExpr)
  | .floatVectorIndirection vectorExpr indexExpr =>
      subscript target.floatElement (evaluate target callee vectorExpr)
        (evaluate target callee indexExpr)
  | .conditional condition trueExpr falseExpr =>
      Evaluation.choose (evaluate target callee condition)
        (evaluate target callee trueExpr) (evaluate target callee falseExpr)
  | .functionCall (.variableAccess name _) arguments =>
      andThen (evaluateArguments target callee arguments) fun values state =>
        some (callee.call name values state)
  | _ => lift none

/-- The values of a list of arguments, from left to right. -/
def evaluateArguments (target : Target) (callee : Callee) :
    List Expression -> Computation State (List Word)
  | [] => give []
  | first :: rest =>
      andThen (evaluate target callee first) fun value =>
        andThen (evaluateArguments target callee rest) fun values => give (value :: values)

end

/-- The binary operators that nest from the node down are integer operators. -/
def HasIntegerOperators : Expression -> Prop
  | .binaryOp op left right =>
      isIntegerOperator op = true ∧ HasIntegerOperators left ∧ HasIntegerOperators right
  | _ => True

end CompleteTree
end NewBcpl
