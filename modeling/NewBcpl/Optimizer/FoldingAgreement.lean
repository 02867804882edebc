import NewBcpl.Optimizer.FoldedValues

namespace NewBcpl
namespace Optimizer

open Semantics Codegen Foundations.PartialState

/-!
# Compile-time operators against emitted operators

The fold computes with the host's arithmetic and the BCPL truth values 0 and -1;
the emitted sequences compute with ARM64 instructions. This module says for
which operand words the two agree, operator by operator, and then for which
trees the folded tree runs as the original one. They differ on a comparison that
is true (all but `~=` are emitted with CSET, which gives 1), on a right shift of
a negative word, on the operators that have no emitted sequence, and on the
literal `TRUE` as an operand; and a product with zero drops the calls of its
other operand.
-/

theorem sdiv_eq_ofInt (left right : Word) :
    left.sdiv right = BitVec.ofInt 64 (left.toInt.tdiv right.toInt) := by
  apply BitVec.eq_of_toInt_eq
  rw [BitVec.toInt_sdiv, BitVec.toInt_ofInt]

/-- The remainder sequence computes the truncating remainder. -/
theorem srem_eq_sub (left right : Word) :
    left.srem right = left - left.sdiv right * right := by
  have division := Int.mul_tdiv_add_tmod left.toInt right.toInt
  have remainder : left.toInt.tmod right.toInt =
      left.toInt + -(left.toInt.tdiv right.toInt * right.toInt) := by
    rw [Int.mul_comm]
    omega
  calc
    left.srem right = BitVec.ofInt 64 (left.srem right).toInt := BitVec.ofInt_toInt.symm
    _ = BitVec.ofInt 64 (left.toInt + -(left.toInt.tdiv right.toInt * right.toInt)) := by
        rw [BitVec.toInt_srem, remainder]
    _ = left - left.sdiv right * right := by
        rw [BitVec.ofInt_add, BitVec.ofInt_neg, BitVec.ofInt_mul, BitVec.ofInt_toInt,
          BitVec.ofInt_toInt, sdiv_eq_ofInt, BitVec.sub_eq_add_neg]

/-- When the fold of an operator on two integer constants is what its sequence
computes. A connective has no sequence, so its fold never is. -/
def OperatorAgrees (operator : BinaryOperator) (left right : Word) : Prop :=
  match operator with
  | .equal | .equivalence => left ≠ right
  | .less => left.slt right = false
  | .lessEqual => left.sle right = false
  | .greater => right.slt left = false
  | .greaterEqual => right.sle left = false
  | .rightShift => right.toNat % 64 = 0 ∨ left.msb = false
  | .bitwiseOr => left ||| right = left
  | .notEquivalence => (left = right ∧ left = 0#64) ∨ (left ≠ right ∧ left = -1#64)
  | .logicalAnd | .logicalOr => False
  | _ => True

/-- When the fold of a unary operator on an integer constant is what its
sequence computes. -/
def UnaryAgrees (operator : UnaryOperator) (operand : Word) : Prop :=
  match operator with
  | .logicalNot => operand ≠ 0#64
  | _ => True

private theorem conditionWord_eq_truthWord (value : Bool) :
    conditionWord value = truthWord value <-> value = false := by
  cases value <;> simp [conditionWord, truthWord]

/-- A logical shift is an arithmetic one exactly on words without a sign bit. -/
theorem logicalShift_eq_iff (left : Word) (amount : Nat) :
    left >>> amount = left.sshiftRight amount <-> amount = 0 ∨ left.msb = false := by
  constructor
  · intro equal
    by_cases zero : amount = 0
    · exact Or.inl zero
    · right
      have signs := congrArg BitVec.msb equal
      rw [BitVec.msb_ushiftRight, BitVec.msb_sshiftRight] at signs
      simpa [zero] using signs.symm
  · rintro (zero | positive)
    · rw [zero]
      simp
    · exact (BitVec.sshiftRight_eq_of_msb_false positive).symm

/-- Whatever the fold computes for two integer constants is what the emitted
sequence computes exactly under the listed condition. -/
theorem foldIntegers_agrees_iff {operator : BinaryOperator} {left right value : Word}
    (folded : foldIntegers operator left right = some value) :
    applyOperator OperatorMeaning.emitted operator left right = some value <->
      OperatorAgrees operator left right := by
  cases operator <;> simp only [foldIntegers, Option.some.injEq, reduceCtorEq] at folded
  case divide =>
    split at folded
    · cases folded
    · simpa [applyOperator, OperatorMeaning.emitted, emittedBinary, OperatorAgrees]
        using folded
  case remainder =>
    split at folded
    · cases folded
    · rw [srem_eq_sub] at folded
      simpa [applyOperator, OperatorMeaning.emitted, emittedBinary, OperatorAgrees]
        using folded
  case bitwiseOr =>
    rw [<- folded]
    simp only [applyOperator, OperatorMeaning.emitted, emittedBinary, OperatorAgrees,
      Option.some.injEq]
    exact eq_comm
  case notEquivalence =>
    rw [<- folded]
    simp only [applyOperator, OperatorMeaning.emitted, emittedBinary, OperatorAgrees,
      Option.some.injEq]
    by_cases equal : left = right <;> simp [equal, truthWord]
  case notEqual =>
    rw [<- folded]
    simp [applyOperator, OperatorMeaning.emitted, emittedBinary, OperatorAgrees, truthWord]
  all_goals
    rw [<- folded]
    simp [applyOperator, OperatorMeaning.emitted, emittedBinary, OperatorAgrees,
      conditionWord_eq_truthWord, logicalShift_eq_iff]

theorem foldUnaryInteger_agrees_iff {operator : UnaryOperator} {operand value : Word}
    (folded : foldUnaryInteger operator operand = some value) :
    OperatorMeaning.emitted.unary operator operand = some value <->
      UnaryAgrees operator operand := by
  cases operator <;> simp only [foldUnaryInteger, Option.some.injEq, reduceCtorEq] at folded
  case negate =>
    rw [<- folded]
    simp [OperatorMeaning.emitted, emittedUnary, UnaryAgrees]
  case logicalNot =>
    rw [<- folded]
    simp [OperatorMeaning.emitted, emittedUnary, UnaryAgrees, conditionWord_eq_truthWord]

mutual

/-- The names that a tree calls. -/
def calledNames : Expression -> List String
  | .binaryOp _ left right => calledNames left ++ calledNames right
  | .unaryOp _ operand => calledNames operand
  | .conditional condition trueExpr falseExpr =>
      calledNames condition ++ calledNames trueExpr ++ calledNames falseExpr
  | .functionCall (.variableAccess name) arguments => name :: calledNamesAll arguments
  | _ => []

/-- The names that a list of trees calls. -/
def calledNamesAll : List Expression -> List String
  | [] => []
  | first :: rest => calledNames first ++ calledNamesAll rest

end

theorem calledNames_member {arguments : List Expression} {argument : Expression}
    (member : argument ∈ arguments) {name : String}
    (called : name ∈ calledNames argument) : name ∈ calledNamesAll arguments := by
  induction arguments with
  | nil => cases member
  | cons first rest ih =>
      simp only [calledNamesAll, List.mem_append]
      rcases List.mem_cons.mp member with equal | later
      · left
        rw [<- equal]
        exact called
      · right
        exact ih later

/-- The variables that have no recorded constant. -/
def untracked (constants : Constants) (name : String) : Bool :=
  (constants name).isNone

theorem afterCalls_untracked (constants : Constants) (called : Bool) :
    afterCalls (untracked constants) called constants = constants := by
  funext name
  cases found : constants name with
  | none => simp [afterCalls, found]
  | some value => simp [afterCalls, untracked, found]

/-- When calls change no tracked variable, recorded constants can be trusted
everywhere. -/
theorem readsTrusted_untracked {constants : Constants} {expression : Expression}
    (tree : IntegerTree expression)
    (called : forall name, name ∈ calledNames expression -> constants name = none) :
    ReadsTrusted constants (untracked constants) constants expression := by
  induction tree with
  | integer value => trivial
  | boolean value => trivial
  | access name => exact fun value found => found
  | binary isInteger leftTree rightTree leftInduction rightInduction =>
      simp only [calledNames, List.mem_append] at called
      have left := leftInduction fun name member => called name (Or.inl member)
      have right := rightInduction fun name member => called name (Or.inr member)
      rw [readsTrusted_binaryOp, afterCalls_untracked, afterCalls_untracked]
      split
      · exact ⟨left, right⟩
      · exact ⟨right, left⟩
  | unary isArithmetic operandTree operandInduction =>
      simp only [ReadsTrusted]
      exact operandInduction called
  | conditional conditionTree trueTree falseTree conditionInduction trueInduction
      falseInduction =>
      simp only [calledNames, List.mem_append] at called
      have condition := conditionInduction fun name member =>
        called name (Or.inl (Or.inl member))
      have trueBranch := trueInduction fun name member =>
        called name (Or.inl (Or.inr member))
      have falseBranch := falseInduction fun name member => called name (Or.inr member)
      simp only [ReadsTrusted, afterCalls_untracked]
      refine ⟨condition, ?_⟩
      split
      · split
        · exact falseBranch
        · exact trueBranch
      · exact ⟨trueBranch, falseBranch⟩
  | @call name arguments trees inductions =>
      simp only [calledNames, List.mem_cons] at called
      simp only [ReadsTrusted]
      refine ⟨called name (Or.inl rfl), ?_⟩
      have each : forall argument, argument ∈ arguments ->
          ReadsTrusted constants (untracked constants) constants argument :=
        fun argument member => inductions argument member fun other isCalled =>
          called other (Or.inr (calledNames_member member isCalled))
      clear called inductions trees
      induction arguments with
      | nil => trivial
      | cons first rest ih =>
          simp only [AllReadsTrusted, afterCalls_untracked]
          exact ⟨each first List.mem_cons_self,
            ih fun argument member => each argument (List.mem_cons_of_mem _ member)⟩

/-- A product of a variable tree with the literal zero folds to zero; this keeps
the value and the calls exactly when the tree is evaluated without a call. -/
theorem zeroProduct_evaluates_iff {manifests known : Constants} {callee : Callee}
    {expression : Expression} {state : State}
    (visit : VisitOfTree manifests known expression)
    (variable_ : constantLiteral (Constants.lookup manifests known) expression = none) :
    (evaluate OperatorMeaning.emitted callee (visitExpression manifests
        (.binaryOp .multiply expression (.integerLiteral 0#64)) known).node state =
      evaluate OperatorMeaning.emitted callee
        (.binaryOp .multiply expression (.integerLiteral 0#64)) state) <->
    exists value, evaluate OperatorMeaning.emitted callee expression state =
      some (value, state) := by
  have noLiteral := visit.literal.trans variable_
  have replaced : (visitExpression manifests
      (.binaryOp .multiply expression (.integerLiteral 0#64)) known).node =
      .integerLiteral 0#64 := by
    rw [visitExpression_binaryOp_node _ _ visit]
    simp [visitExpression, ExpressionVisit.kept, foldedBinary, replaceBinaryOp,
      foldIntegerOperands, evaluateIntegerConstant_eq, noLiteral, simplifyIdentity,
      Literal.value]
  rw [replaced]
  simp only [evaluate, evaluateBinary, Evaluation.strict, andThen]
  cases step : evaluate OperatorMeaning.emitted callee expression state with
  | none => simp
  | some pair =>
      simp only [lift, OperatorMeaning.emitted, emittedBinary, BitVec.mul_zero,
        Option.map_some, Option.some.injEq, Prod.mk.injEq, true_and]
      constructor
      · intro equal
        exact ⟨pair.1, by rw [equal]⟩
      · rintro ⟨value, equal⟩
        rw [equal]

/-- A callee that answers every call with the same word and changes nothing. -/
def steadyCallee (answer : Word) : Callee :=
  { respond := fun _ environment => (answer, environment) }

/-- The state in which every variable is zero and nothing was called. -/
def initialState : State :=
  { environment := fun _ => 0#64, calls := [] }

end Optimizer
end NewBcpl
