import NewBcpl.Optimizer.StrengthReductionPass

namespace NewBcpl
namespace CompleteTree

open Foundations.PartialState Semantics

/-!
# Evaluations as sequences of calls

An evaluation in this setting either leaves the state as it found it or adds a
call, and a clone evaluates like the tree it is made from. What an operator node
does to the state is therefore what its operands do to it, the right one first.
-/

/-- A computation whose only effects are calls, which it appends. -/
def AppendsCalls {Result : Type} (computation : Computation State Result) : Prop :=
  forall state result final, computation state = some (result, final) ->
    final = state ∨ state.calls.length < final.calls.length

namespace AppendsCalls

variable {First Second : Type}

theorem reading (read : State -> Option First) :
    AppendsCalls fun state => (read state).map fun value => (value, state) := by
  intro state result final done
  rcases Option.map_eq_some_iff.mp done with ⟨value, _, pair⟩
  exact Or.inl (Prod.mk.inj pair).2.symm

theorem give (result : First) : AppendsCalls (give result) :=
  reading fun _ => some result

theorem lift (result : Option First) : AppendsCalls (lift result) :=
  reading fun _ => result

theorem andThen {first : Computation State First} {next : First -> Computation State Second}
    (firstAppends : AppendsCalls first) (nextAppends : forall value, AppendsCalls (next value)) :
    AppendsCalls (andThen first next) := by
  intro state result final done
  unfold Foundations.PartialState.andThen at done
  cases step : first state with
  | none =>
      rw [step] at done
      cases done
  | some pair =>
      rw [step] at done
      have before := firstAppends state pair.1 pair.2 step
      have after := nextAppends pair.1 pair.2 result final done
      rcases before with same | before
      · rw [<- same]
        exact after
      · apply Or.inr
        rcases after with same | after
        · rw [same]
          exact before
        · exact before.trans after

theorem call (callee : Callee) (name : String) (arguments : List Word) :
    AppendsCalls fun state => some (callee.call name arguments state) := by
  intro state result final done
  cases done
  apply Or.inr
  simp

theorem strict (meaning : Word -> Word -> Option Word) {left right : Evaluation}
    (leftAppends : AppendsCalls left) (rightAppends : AppendsCalls right) :
    AppendsCalls (Evaluation.strict meaning left right) :=
  andThen rightAppends fun _ => andThen leftAppends fun _ => lift _

theorem choose {condition trueCase falseCase : Evaluation}
    (conditionAppends : AppendsCalls condition) (trueAppends : AppendsCalls trueCase)
    (falseAppends : AppendsCalls falseCase) :
    AppendsCalls (Evaluation.choose condition trueCase falseCase) := by
  apply andThen conditionAppends
  intro value
  by_cases zero : value = 0#64
  · rw [if_pos zero]
    exact falseAppends
  · rw [if_neg zero]
    exact trueAppends

theorem subscript (load : State -> Word -> Word -> Word) {base index : Evaluation}
    (baseAppends : AppendsCalls base) (indexAppends : AppendsCalls index) :
    AppendsCalls (subscript load base index) :=
  andThen baseAppends fun address => andThen indexAppends fun offset =>
    reading fun state => some (load state address offset)

end AppendsCalls

section Operators

variable (target : Target)

/-- The connectives, which the generator emits as branches. -/
def isConnective : BinaryOperator -> Bool
  | .logicalAnd | .logicalOr => true
  | _ => false

/-- The value of an operator on two words. -/
def Target.operate (op : BinaryOperator) (left right : Word) : Word :=
  (target.operators.binary op left right).getD 0#64

/-- Every operator that evaluates both operands has a value on all words. -/
theorem binary_eq_operate {op : BinaryOperator} (strict : isConnective op = false)
    (left right : Word) :
    target.operators.binary op left right = some (target.operate op left right) := by
  cases op <;> first | rfl | cases strict

theorem evaluateBinary_strict {op : BinaryOperator} (strict : isConnective op = false)
    (left right : Evaluation) :
    evaluateBinary target.operators op left right =
      Evaluation.strict (target.operators.binary op) left right := by
  cases op <;> first | rfl | cases strict

theorem evaluateBinary_connective {op : BinaryOperator} (connective : isConnective op = true)
    (left right : Evaluation) :
    evaluateBinary target.operators op left right = lift none := by
  cases op <;> first | rfl | cases connective

end Operators

section Trees

variable (target : Target) (callee : Callee)

mutual

/-- The only effects of a tree are its calls. -/
theorem evaluate_appendsCalls :
    forall expression, AppendsCalls (evaluate target callee expression)
  | .integerLiteral _ | .floatLiteral _ | .booleanLiteral _ | .charLiteral _ =>
      AppendsCalls.give _
  | .variableAccess name _ =>
      AppendsCalls.reading fun state => some (state.environment name)
  | .binaryOp op left right => by
      rw [evaluate]
      cases connective : isConnective op with
      | true =>
          rw [evaluateBinary_connective target connective]
          exact AppendsCalls.lift none
      | false =>
          rw [evaluateBinary_strict target connective]
          exact AppendsCalls.strict _ (evaluate_appendsCalls left)
            (evaluate_appendsCalls right)
  | .unaryOp _ operand =>
      AppendsCalls.andThen (evaluate_appendsCalls operand) fun _ => AppendsCalls.lift _
  | .vectorAccess base index | .charIndirection base index
  | .floatVectorIndirection base index =>
      AppendsCalls.subscript _ (evaluate_appendsCalls base) (evaluate_appendsCalls index)
  | .conditional condition trueExpr falseExpr =>
      AppendsCalls.choose (evaluate_appendsCalls condition)
        (evaluate_appendsCalls trueExpr) (evaluate_appendsCalls falseExpr)
  | .functionCall functionExpr arguments => by
      cases functionExpr with
      | variableAccess name uniqueName =>
          exact AppendsCalls.andThen (evaluateArguments_appendsCalls arguments)
            fun values => AppendsCalls.call callee name values
      | _ => exact AppendsCalls.lift none
  | .stringLiteral _ | .bitfieldAccess _ _ _ | .sysCall _ _ _ | .valof _ | .floatValof _
  | .vecAllocation _ _ | .fvecAllocation _ _ | .stringAllocation _ | .table _ _
  | .vecInitializer _ | .list _ _ => AppendsCalls.lift none

theorem evaluateArguments_appendsCalls :
    forall arguments, AppendsCalls (evaluateArguments target callee arguments)
  | [] => AppendsCalls.give []
  | first :: rest =>
      AppendsCalls.andThen (evaluate_appendsCalls first) fun _ =>
        AppendsCalls.andThen (evaluateArguments_appendsCalls rest) fun _ =>
          AppendsCalls.give _

end

mutual

/-- A clone has the value of the tree it is made from: a name that the analyzer
made up is not part of it. -/
theorem evaluate_clone :
    forall expression : Expression,
      evaluate target callee expression.clone = evaluate target callee expression
  | .integerLiteral _ | .floatLiteral _ | .booleanLiteral _ | .charLiteral _
  | .variableAccess _ _ => rfl
  | .binaryOp op left right => by
      simp only [Expression.clone, evaluate, evaluate_clone left, evaluate_clone right]
  | .unaryOp op operand => by
      simp only [Expression.clone, evaluate, evaluate_clone operand]
  | .vectorAccess base index | .charIndirection base index
  | .floatVectorIndirection base index => by
      simp only [Expression.clone, evaluate, evaluate_clone base, evaluate_clone index]
  | .conditional condition trueExpr falseExpr => by
      simp only [Expression.clone, evaluate, evaluate_clone condition,
        evaluate_clone trueExpr, evaluate_clone falseExpr]
  | .functionCall functionExpr arguments => by
      cases functionExpr with
      | variableAccess name uniqueName =>
          simp only [Expression.clone, evaluate, evaluateArguments_clone arguments]
      | _ => rfl
  | .stringLiteral _ | .bitfieldAccess _ _ _ | .sysCall _ _ _ | .valof _ | .floatValof _
  | .vecAllocation _ _ | .fvecAllocation _ _ | .stringAllocation _ | .table _ _
  | .vecInitializer _ | .list _ _ => rfl

theorem evaluateArguments_clone :
    forall arguments, evaluateArguments target callee (cloneExpressions arguments) =
      evaluateArguments target callee arguments
  | [] => rfl
  | first :: rest => by
      simp only [cloneExpressions, evaluateArguments, evaluate_clone first,
        evaluateArguments_clone rest]

end

end Trees

end CompleteTree
end NewBcpl
