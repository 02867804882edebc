import NewBcpl.Foundations.PartialState
import NewBcpl.Ast
import NewBcpl.Optimizer.ConstantFoldingPass
import NewBcpl.Codegen.Operators

namespace NewBcpl
namespace Semantics

open Optimizer Codegen Foundations.PartialState

/-!
# The value of an integer expression

Expressions are evaluated in the generator's order: the right operand of an
operator first, the arguments of a call from left to right, and a connective or
a conditional only as far as it needs. A call is a request to the rest of the
program, which answers with a word and may change variables; the calls made so
far are part of the state. What the operators compute is a parameter: the
arithmetic of the compiler's host and the sequences of the code generator are
two instances.
-/

/-- The variables of a running body. -/
abbrev Environment : Type := String -> Word

/-- One call with its arguments. -/
structure Call where
  name : String
  arguments : List Word
  deriving DecidableEq, Repr

/-- The variables and the calls made so far. -/
structure State where
  environment : Environment
  calls : List Call

namespace State

/-- Assigning a variable. -/
def assign (state : State) (name : String) (value : Word) : State :=
  { state with
    environment := fun other =>
      if other = name then value else state.environment other }

end State

/-- The rest of the program: its answer to a call may depend on the calls made
so far (this one included) and on the variables, which it may change. -/
structure Callee where
  respond : List Call -> Environment -> Word × Environment

namespace Callee

/-- The state after a call, with the word it returns. -/
def call (callee : Callee) (name : String) (arguments : List Word) (state : State) :
    Word × State :=
  let calls := state.calls ++ [{ name := name, arguments := arguments }]
  let answer := callee.respond calls state.environment
  (answer.1, { environment := answer.2, calls := calls })

/-- The callee changes only the given variables. -/
def ChangesOnly (callee : Callee) (globals : String -> Bool) : Prop :=
  forall calls environment name, globals name = false ->
    (callee.respond calls environment).2 name = environment name

end Callee

/-- What the operators and the truth literals mean. An operator may have no
meaning at all, and then an expression that evaluates it has none. -/
structure OperatorMeaning where
  binary : BinaryOperator -> Word -> Word -> Option Word
  connective : Option (Bool -> Word)
  unary : UnaryOperator -> Word -> Option Word
  boolean : Bool -> Word

namespace OperatorMeaning

/-- The arithmetic of the constant folding pass, completed by the operations it
leaves alone. -/
def host : OperatorMeaning :=
  { binary := fun operator left right =>
      match operator with
      | .divide => some (left.sdiv right)
      | .remainder => some (left.srem right)
      | .bitwiseAnd => some (left &&& right)
      | _ => foldIntegers operator left right
    connective := some truthWord
    unary := fun operator operand =>
      match operator with
      | .bitwiseNot => some (~~~operand)
      | _ => foldUnaryInteger operator operand
    boolean := truthWord }

/-- The values of the sequences that the code generator emits. The connectives
are emitted as branches to labels that no instruction defines, so they have no
value. -/
def emitted : OperatorMeaning :=
  { binary := emittedBinary
    connective := none
    unary := emittedUnary
    boolean := emittedBoolean }

end OperatorMeaning

/-- A computation of a word that may have no result. -/
abbrev Evaluation : Type := Computation State Word

namespace Evaluation

/-- An operator whose operands are both evaluated, the right one first. -/
def strict (meaning : Word -> Word -> Option Word) (left right : Evaluation) :
    Evaluation :=
  andThen right fun rightValue => andThen left fun leftValue =>
    lift (meaning leftValue rightValue)

/-- A connective: the right operand is evaluated only when the truth of the left
one is not `decisive`. -/
def connect (truth : Option (Bool -> Word)) (decisive : Bool)
    (left right : Evaluation) : Evaluation :=
  match truth with
  | none => lift none
  | some word =>
      andThen left fun leftValue =>
        if (leftValue != 0#64) = decisive then give (word decisive)
        else andThen right fun rightValue => give (word (rightValue != 0#64))

/-- An operator on one operand. -/
def apply (meaning : Word -> Option Word) (operand : Evaluation) : Evaluation :=
  andThen operand fun value => lift (meaning value)

/-- A conditional. -/
def choose (condition trueCase falseCase : Evaluation) : Evaluation :=
  andThen condition fun value => if value = 0#64 then falseCase else trueCase

end Evaluation

/-- A binary operator under a meaning. -/
def evaluateBinary (meaning : OperatorMeaning) (operator : BinaryOperator)
    (left right : Evaluation) : Evaluation :=
  match operator with
  | .logicalAnd => Evaluation.connect meaning.connective false left right
  | .logicalOr => Evaluation.connect meaning.connective true left right
  | _ => Evaluation.strict (meaning.binary operator) left right

mutual

/-- The value of an expression. Expressions other than integer trees have none
here. -/
def evaluate (meaning : OperatorMeaning) (callee : Callee) :
    Expression -> State -> Option (Word × State)
  | .integerLiteral value, state => some (value, state)
  | .booleanLiteral value, state => some (meaning.boolean value, state)
  | .variableAccess name, state => some (state.environment name, state)
  | .binaryOp operator left right, state =>
      evaluateBinary meaning operator (evaluate meaning callee left)
        (evaluate meaning callee right) state
  | .unaryOp operator operand, state =>
      Evaluation.apply (meaning.unary operator) (evaluate meaning callee operand) state
  | .conditional condition trueExpr falseExpr, state =>
      Evaluation.choose (evaluate meaning callee condition)
        (evaluate meaning callee trueExpr) (evaluate meaning callee falseExpr) state
  | .functionCall (.variableAccess name) arguments, state =>
      andThen (evaluateArguments meaning callee arguments)
        (fun values middle => some (callee.call name values middle)) state
  | _, _ => none

/-- The values of a list of arguments, from left to right. -/
def evaluateArguments (meaning : OperatorMeaning) (callee : Callee) :
    List Expression -> State -> Option (List Word × State)
  | [], state => some ([], state)
  | first :: rest, state =>
      andThen (evaluate meaning callee first)
        (fun value => andThen (evaluateArguments meaning callee rest)
          fun values => give (value :: values)) state

end

/-- The binary operators of integer trees. -/
def isIntegerOperator : BinaryOperator -> Bool
  | .floatAdd | .floatSubtract | .floatMultiply | .floatDivide
  | .floatEqual | .floatNotEqual | .floatLess | .floatLessEqual | .floatGreater
  | .floatGreaterEqual => false
  | _ => true

/-- The unary operators of integer trees. -/
def isArithmeticUnary : UnaryOperator -> Bool
  | .negate | .logicalNot | .bitwiseNot => true
  | _ => false

/-- The integer expression trees: literals, booleans, variables, operators,
conditionals and calls of named functions. -/
inductive IntegerTree : Expression -> Prop where
  | integer (value : Word) : IntegerTree (.integerLiteral value)
  | boolean (value : Bool) : IntegerTree (.booleanLiteral value)
  | access (name : String) : IntegerTree (.variableAccess name)
  | binary {operator : BinaryOperator} {left right : Expression} :
      isIntegerOperator operator = true -> IntegerTree left -> IntegerTree right ->
        IntegerTree (.binaryOp operator left right)
  | unary {operator : UnaryOperator} {operand : Expression} :
      isArithmeticUnary operator = true -> IntegerTree operand ->
        IntegerTree (.unaryOp operator operand)
  | conditional {condition trueExpr falseExpr : Expression} :
      IntegerTree condition -> IntegerTree trueExpr -> IntegerTree falseExpr ->
        IntegerTree (.conditional condition trueExpr falseExpr)
  | call (name : String) {arguments : List Expression} :
      (forall argument, argument ∈ arguments -> IntegerTree argument) ->
        IntegerTree (.functionCall (.variableAccess name) arguments)

end Semantics
end NewBcpl
