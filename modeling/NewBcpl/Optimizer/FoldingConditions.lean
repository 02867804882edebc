import NewBcpl.Semantics.Evaluation

namespace NewBcpl
namespace Optimizer

open Semantics

/-!
# Constants of expressions and the conditions of their folding

The integer constants of a tree are defined here on the tree itself, from the
constants its variables have. Two conditions on a tree are stated with them. One
is about the operators: every operation the fold performs at compile time agrees
with what the operator means at run time, and no product with zero discards a
call. The other is about the variables: a variable that has a recorded constant
holds it wherever it is read, in the order of evaluation, where a call may
change the global variables.
-/

/-- An integer literal node: a number or a truth value. -/
inductive Literal where
  | integer (value : Word)
  | boolean (value : Bool)
  deriving DecidableEq, Repr

namespace Literal

/-- The word the fold computes with. -/
def value : Literal -> Word
  | integer value => value
  | boolean value => truthWord value

/-- The word the literal has at run time. -/
def meant (meaning : OperatorMeaning) : Literal -> Word
  | integer value => value
  | boolean value => meaning.boolean value

/-- The node of the literal. -/
def node : Literal -> Expression
  | integer value => .integerLiteral value
  | boolean value => .booleanLiteral value

end Literal

/-- The literal that an expression is, if it is one. -/
def literalOf : Expression -> Option Literal
  | .integerLiteral value => some (.integer value)
  | .booleanLiteral value => some (.boolean value)
  | _ => none

@[simp] theorem literalOf_integerLiteral (value : Word) :
    literalOf (.integerLiteral value) = some (.integer value) := rfl

@[simp] theorem literalOf_binaryOp (operator : BinaryOperator)
    (left right : Expression) : literalOf (.binaryOp operator left right) = none := rfl

@[simp] theorem literalOf_unaryOp (operator : UnaryOperator) (operand : Expression) :
    literalOf (.unaryOp operator operand) = none := rfl

/-- The constant of an operator node, from the constants of its operands. -/
def combineLiterals (operator : BinaryOperator) :
    Option Literal -> Option Literal -> Option Literal
  | some left, some right =>
      (foldIntegers operator left.value right.value).map .integer
  | some left, none =>
      if operator = .multiply ∧ left.value = 0#64 then some (.integer 0#64) else none
  | none, some right =>
      if operator = .multiply ∧ right.value = 0#64 then some (.integer 0#64) else none
  | none, none => none

/-- The constant of an integer tree whose variables have the given constants. -/
def constantLiteral (constants : Constants) : Expression -> Option Literal
  | .integerLiteral value => some (.integer value)
  | .booleanLiteral value => some (.boolean value)
  | .variableAccess name => (constants name).map .integer
  | .binaryOp operator left right =>
      combineLiterals operator (constantLiteral constants left)
        (constantLiteral constants right)
  | .unaryOp operator operand =>
      match constantLiteral constants operand with
      | none => none
      | some literal => (foldUnaryInteger operator literal.value).map .integer
  | .conditional condition trueExpr falseExpr =>
      match constantLiteral constants condition with
      | none => none
      | some literal =>
          if literal.value = 0#64 then constantLiteral constants falseExpr
          else constantLiteral constants trueExpr
  | _ => none

/-- An operator applied to two words, connectives included. -/
def applyOperator (meaning : OperatorMeaning) (operator : BinaryOperator)
    (left right : Word) : Option Word :=
  match operator with
  | .logicalAnd =>
      meaning.connective.map fun truth => truth (left != 0#64 && right != 0#64)
  | .logicalOr =>
      meaning.connective.map fun truth => truth (left != 0#64 || right != 0#64)
  | _ => meaning.binary operator left right

/-- The expression has a value in every state and makes no call. -/
def Silent (meaning : OperatorMeaning) (callee : Callee) (expression : Expression) :
    Prop :=
  forall state, exists value, evaluate meaning callee expression state = some (value, state)

/-- What one operator node needs for its fold to be right: operations on two
constants agree with the run-time operator, and a product with a constant zero
discards only a silent operand. -/
def OperationFoldsRight (meaning : OperatorMeaning) (callee : Callee)
    (constants : Constants) (operator : BinaryOperator) (left right : Expression) :
    Prop :=
  match constantLiteral constants left, constantLiteral constants right with
  | some leftLiteral, some rightLiteral =>
      forall value, foldIntegers operator leftLiteral.value rightLiteral.value = some value ->
        applyOperator meaning operator (leftLiteral.meant meaning)
          (rightLiteral.meant meaning) = some value
  | some leftLiteral, none =>
      operator = .multiply -> leftLiteral.value = 0#64 -> Silent meaning callee right
  | none, some rightLiteral =>
      operator = .multiply -> rightLiteral.value = 0#64 -> Silent meaning callee left
  | none, none => True

mutual

/-- Every operation that the fold performs on a tree is right. The branch that a
constant condition discards is not entered. -/
def FoldsRight (meaning : OperatorMeaning) (callee : Callee) (constants : Constants) :
    Expression -> Prop
  | .binaryOp operator left right =>
      FoldsRight meaning callee constants left ∧
        FoldsRight meaning callee constants right ∧
        OperationFoldsRight meaning callee constants operator left right
  | .unaryOp operator operand =>
      FoldsRight meaning callee constants operand ∧
        forall literal value, constantLiteral constants operand = some literal ->
          foldUnaryInteger operator literal.value = some value ->
          meaning.unary operator (literal.meant meaning) = some value
  | .conditional condition trueExpr falseExpr =>
      FoldsRight meaning callee constants condition ∧
        match constantLiteral constants condition with
        | some literal =>
            if literal.value = 0#64 then FoldsRight meaning callee constants falseExpr
            else FoldsRight meaning callee constants trueExpr
        | none =>
            FoldsRight meaning callee constants trueExpr ∧
              FoldsRight meaning callee constants falseExpr
  | .functionCall _ arguments => AllFoldRight meaning callee constants arguments
  | _ => True

/-- The same for every argument of a list. -/
def AllFoldRight (meaning : OperatorMeaning) (callee : Callee) (constants : Constants) :
    List Expression -> Prop
  | [] => True
  | first :: rest =>
      FoldsRight meaning callee constants first ∧
        AllFoldRight meaning callee constants rest

end

/-- The evaluation of a tree may make a call. -/
def mayCall (constants : Constants) : Expression -> Bool
  | .binaryOp _ left right => mayCall constants left || mayCall constants right
  | .unaryOp _ operand => mayCall constants operand
  | .conditional condition trueExpr falseExpr =>
      mayCall constants condition ||
        match constantLiteral constants condition with
        | some literal =>
            if literal.value = 0#64 then mayCall constants falseExpr
            else mayCall constants trueExpr
        | none => mayCall constants trueExpr || mayCall constants falseExpr
  | .functionCall _ _ => true
  | _ => false

/-- The facts that are still known when a call may have been made. -/
def afterCalls (globals : String -> Bool) (called : Bool) (facts : Constants) :
    Constants :=
  fun name => if called && globals name then none else facts name

mutual

/-- Every variable with a recorded constant is a known fact where it is read, in
the order of evaluation, and no called name has a recorded constant. -/
def ReadsTrusted (constants : Constants) (globals : String -> Bool) :
    Constants -> Expression -> Prop
  | facts, .variableAccess name =>
      forall value, constants name = some value -> facts name = some value
  | facts, .binaryOp operator left right =>
      if operator = .logicalAnd ∨ operator = .logicalOr then
        ReadsTrusted constants globals facts left ∧
          ReadsTrusted constants globals
            (afterCalls globals (mayCall constants left) facts) right
      else
        ReadsTrusted constants globals facts right ∧
          ReadsTrusted constants globals
            (afterCalls globals (mayCall constants right) facts) left
  | facts, .unaryOp _ operand => ReadsTrusted constants globals facts operand
  | facts, .conditional condition trueExpr falseExpr =>
      ReadsTrusted constants globals facts condition ∧
        match constantLiteral constants condition with
        | some literal =>
            if literal.value = 0#64 then
              ReadsTrusted constants globals
                (afterCalls globals (mayCall constants condition) facts) falseExpr
            else
              ReadsTrusted constants globals
                (afterCalls globals (mayCall constants condition) facts) trueExpr
        | none =>
            ReadsTrusted constants globals
                (afterCalls globals (mayCall constants condition) facts) trueExpr ∧
              ReadsTrusted constants globals
                (afterCalls globals (mayCall constants condition) facts) falseExpr
  | facts, .functionCall (.variableAccess name) arguments =>
      constants name = none ∧ AllReadsTrusted constants globals facts arguments
  | _, _ => True

/-- The same for a list of arguments, read from left to right. -/
def AllReadsTrusted (constants : Constants) (globals : String -> Bool) :
    Constants -> List Expression -> Prop
  | _, [] => True
  | facts, first :: rest =>
      ReadsTrusted constants globals facts first ∧
        AllReadsTrusted constants globals
          (afterCalls globals (mayCall constants first) facts) rest

end

@[simp] theorem readsTrusted_binaryOp {constants facts : Constants}
    {globals : String -> Bool} {operator : BinaryOperator} {left right : Expression} :
    ReadsTrusted constants globals facts (.binaryOp operator left right) <->
      if operator = .logicalAnd ∨ operator = .logicalOr then
        ReadsTrusted constants globals facts left ∧
          ReadsTrusted constants globals
            (afterCalls globals (mayCall constants left) facts) right
      else
        ReadsTrusted constants globals facts right ∧
          ReadsTrusted constants globals
            (afterCalls globals (mayCall constants right) facts) left := by
  simp only [ReadsTrusted]

/-- Each argument of a trusted list is trusted under some facts. -/
theorem allReadsTrusted_member {constants : Constants} {globals : String -> Bool}
    {arguments : List Expression} {facts : Constants}
    (trusted : AllReadsTrusted constants globals facts arguments)
    {argument : Expression} (member : argument ∈ arguments) :
    exists own, ReadsTrusted constants globals own argument := by
  induction arguments generalizing facts with
  | nil => cases member
  | cons first rest ih =>
      simp only [AllReadsTrusted] at trusted
      rcases List.mem_cons.mp member with equal | later
      · rw [equal]
        exact ⟨facts, trusted.1⟩
      · exact ih trusted.2 later

/-- A list of arguments may make a call. -/
def mayCallAny (constants : Constants) (arguments : List Expression) : Bool :=
  arguments.any (mayCall constants)

/-- The environment has every known fact. -/
def Holds (facts : Constants) (environment : Environment) : Prop :=
  forall name value, facts name = some value -> environment name = value

/-- The laws of a meaning on which the algebraic identities rest. -/
structure IdentityLaws (meaning : OperatorMeaning) : Prop where
  falseWord : meaning.boolean false = 0#64
  trueWord : meaning.boolean true ≠ 0#64
  addZero : forall word, meaning.binary .add word 0#64 = some word
  zeroAdd : forall word, meaning.binary .add 0#64 word = some word
  subtractZero : forall word, meaning.binary .subtract word 0#64 = some word
  multiplyOne : forall word, meaning.binary .multiply word 1#64 = some word
  oneMultiply : forall word, meaning.binary .multiply 1#64 word = some word
  multiplyZero : forall word, meaning.binary .multiply word 0#64 = some 0#64
  zeroMultiply : forall word, meaning.binary .multiply 0#64 word = some 0#64
  divideOne : forall word, meaning.binary .divide word 1#64 = some word

theorem host_identityLaws : IdentityLaws OperatorMeaning.host := by
  constructor <;> simp [OperatorMeaning.host, foldIntegers, truthWord]

theorem emitted_identityLaws : IdentityLaws OperatorMeaning.emitted := by
  constructor <;> simp [OperatorMeaning.emitted, Codegen.emittedBinary,
    Codegen.emittedBoolean, Codegen.conditionWord]

end Optimizer
end NewBcpl
