import NewBcpl.Arm64.Machine

namespace NewBcpl
namespace Codegen

open Arm64

/-!
# The instruction sequences of the operators

What `visit(BinaryOp&)` and the integer path of `visit(UnaryOp&)` emit once the
operands are in registers, and the value each sequence computes. The tables of
values are consequences of the sequences, for any registers the generator can
have chosen.
-/

/-- X16, the register that the remainder sequence uses as a temporary. -/
def x16 : Register := .x 16

/-- The switch of `visit(BinaryOp&)` on integer operands. The two connectives
have no sequence here (they are emitted as branches), and a float operator
rejects its integer registers. An operator without a case reports an error and
emits nothing. -/
def binaryOpInstructions (operator : BinaryOperator) (left right : Register) :
    Option (List Instruction) :=
  match operator with
  | .add => some [.add left left right]
  | .subtract => some [.sub left left right]
  | .multiply => some [.mul left left right]
  | .divide => some [.sdiv left left right]
  | .remainder =>
      some [.sdiv x16 left right, .mul x16 x16 right, .sub left left x16]
  | .equal => some [.cmp left right, .cset left .eq]
  | .notEqual => some [.cmp left right, .csetm left .ne]
  | .less => some [.cmp left right, .cset left .lt]
  | .lessEqual => some [.cmp left right, .cset left .le]
  | .greater => some [.cmp left right, .cset left .gt]
  | .greaterEqual => some [.cmp left right, .cset left .ge]
  | .bitwiseAnd => some [.and left left right]
  | .equivalence => some [.cmp left right, .cset left .eq]
  | .leftShift => some [.lsl left left right]
  | .rightShift => some [.lsr left left right]
  | .bitwiseOr | .notEquivalence => some []
  | .logicalAnd | .logicalOr => none
  | .floatAdd | .floatSubtract | .floatMultiply | .floatDivide
  | .floatEqual | .floatNotEqual | .floatLess | .floatLessEqual | .floatGreater
  | .floatGreaterEqual => none

/-- The integer path of `visit(UnaryOp&)` for the arithmetic operators. -/
def unaryOpInstructions (operator : UnaryOperator) (dest operand : Register) :
    Option (List Instruction) :=
  match operator with
  | .negate => some [.sub dest .xzr operand]
  | .logicalNot => some [.cmp operand .xzr, .cset dest .eq]
  | .bitwiseNot => some [.ornShifted dest operand 2]
  | _ => none

/-- The machine word of a truth value as CSET leaves it. -/
def conditionWord (value : Bool) : Word :=
  if value then 1#64 else 0#64

/-- The value the sequence of a binary operator computes. -/
def emittedBinary (operator : BinaryOperator) (left right : Word) : Option Word :=
  match operator with
  | .add => some (left + right)
  | .subtract => some (left - right)
  | .multiply => some (left * right)
  | .divide => some (left.sdiv right)
  | .remainder => some (left - left.sdiv right * right)
  | .equal => some (conditionWord (left == right))
  | .notEqual => some (if left != right then -1#64 else 0#64)
  | .less => some (conditionWord (left.slt right))
  | .lessEqual => some (conditionWord (left.sle right))
  | .greater => some (conditionWord (right.slt left))
  | .greaterEqual => some (conditionWord (right.sle left))
  | .bitwiseAnd => some (left &&& right)
  | .equivalence => some (conditionWord (left == right))
  | .leftShift => some (left <<< (right.toNat % 64))
  | .rightShift => some (left >>> (right.toNat % 64))
  | .bitwiseOr | .notEquivalence => some left
  | _ => none

/-- The value the sequence of a unary operator computes. -/
def emittedUnary (operator : UnaryOperator) (operand : Word) : Option Word :=
  match operator with
  | .negate => some (0#64 - operand)
  | .logicalNot => some (conditionWord (operand == 0#64))
  | .bitwiseNot => some (~~~(operand <<< 2))
  | _ => none

/-- The word `visit(BooleanLiteral&)` loads. -/
def emittedBoolean (value : Bool) : Word := conditionWord value

/-- Registers that can hold the operands of a binary operator: a destination
that is a general register other than the remainder's temporary, and a right
operand that the sequence does not overwrite before reading it. -/
structure OperandRegisters (left right : Register) : Prop where
  leftGeneral : left ≠ .xzr
  leftNotTemporary : left ≠ x16
  rightNotTemporary : right ≠ x16

section Values

variable (callees : Callees)

/-- The sequence of a binary operator leaves the operator's value in the left
register. -/
theorem binaryOpInstructions_value {operator : BinaryOperator}
    {left right : Register} {instructions : List Instruction} (machine : Machine)
    (registers : OperandRegisters left right)
    (emitted : binaryOpInstructions operator left right = some instructions) :
    emittedBinary operator (machine.read left) (machine.read right) =
      some ((execute callees instructions machine).read left) := by
  have leftGeneral := registers.leftGeneral
  have leftNotTemporary := registers.leftNotTemporary
  have rightNotTemporary := registers.rightNotTemporary
  have temporary : x16 ≠ .xzr := by decide
  cases operator <;> simp only [binaryOpInstructions, Option.some.injEq,
    reduceCtorEq] at emitted <;> subst emitted <;>
    simp [emittedBinary, execute, perform, selected, conditionWord, leftGeneral,
      leftNotTemporary, rightNotTemporary, temporary, eq_holds, ne_holds, lt_holds,
      le_holds, gt_holds, ge_holds]

theorem unaryOpInstructions_value {operator : UnaryOperator}
    {dest operand : Register} {instructions : List Instruction} (machine : Machine)
    (destGeneral : dest ≠ .xzr)
    (emitted : unaryOpInstructions operator dest operand = some instructions) :
    emittedUnary operator (machine.read operand) =
      some ((execute callees instructions machine).read dest) := by
  have zero : machine.read .xzr = 0#64 := rfl
  cases operator <;> simp only [unaryOpInstructions, Option.some.injEq,
    reduceCtorEq] at emitted <;> subst emitted <;>
    simp [emittedUnary, execute, perform, selected, conditionWord, destGeneral, zero,
      eq_holds]

end Values

end Codegen
end NewBcpl
