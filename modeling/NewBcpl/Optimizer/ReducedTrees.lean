import NewBcpl.Optimizer.NumericTrees

namespace NewBcpl
namespace CompleteTree

open Foundations.PartialState Foundations.PowersOfTwo Semantics

/-!
# The rewrites of strength reduction

The five things that can become of a node, and what each of them does to the
state: all but the doubled float multiplication run the operands of the node as
before. A doubled operand runs twice, and when neither run performs a call the
tree is as quiet as it was.
-/

section Rewrites

/-- The operand that `tryOptimizeFloatMultiply` clones. -/
def doubledOperand (op : BinaryOperator) (left right : Expression) : Option Expression :=
  match op, literalOperand left right with
  | .floatMultiply, some (.floatLiteral value, other) =>
      if value != 2.0 then none else some other
  | _, _ => none

/-- The divisor that `tryOptimizeIntegerDivision` replaces. -/
def shiftedDivisor (op : BinaryOperator) (right : Expression) : Option Word :=
  match op, right with
  | .divide, .integerLiteral value => if isPowerOfTwo value then some value else none
  | _, _ => none

/-- What the four attempts make of a node. -/
inductive Reduced (op : BinaryOperator) (left right : Expression) : Expression -> Prop where
  | shiftedLeft {value : Word} {other : Expression} :
      op = .multiply -> literalOperand left right = some (.integerLiteral value, other) ->
        isPowerOfTwo value = true ->
          Reduced op left right
            (.binaryOp .leftShift other (.integerLiteral (shiftAmount value)))
  | doubled {other : Expression} :
      doubledOperand op left right = some other ->
        Reduced op left right (.binaryOp .floatAdd other other.clone)
  | shiftedRight {value : Word} :
      shiftedDivisor op right = some value ->
        Reduced op left right
          (.binaryOp .rightShift left (.integerLiteral (shiftAmount value)))
  | reciprocal {value : Float} :
      op = .floatDivide -> right = .floatLiteral value ->
        Reduced op left right
          (.binaryOp .floatMultiply left (.floatLiteral (1.0 / value)))
  | kept :
      doubledOperand op left right = none -> shiftedDivisor op right = none ->
        Reduced op left right (.binaryOp op left right)

theorem reduceNode_multiply (left right : Expression) :
    Reduced .multiply left right (reduceNode .multiply left right) := by
  have unchanged : tryOptimizeIntegerMultiply .multiply left right = none ->
      Reduced .multiply left right (reduceNode .multiply left right) := by
    intro skipped
    unfold reduceNode
    rw [skipped]
    exact Reduced.kept rfl rfl
  cases found : literalOperand left right with
  | none =>
      apply unchanged
      simp [tryOptimizeIntegerMultiply, found]
  | some pair =>
      rcases pair with ⟨literal, other⟩
      cases literal with
      | integerLiteral value =>
          cases power : isPowerOfTwo value with
          | false =>
              apply unchanged
              simp [tryOptimizeIntegerMultiply, found, power]
          | true =>
              have shifted : reduceNode .multiply left right =
                  .binaryOp .leftShift other (.integerLiteral (shiftAmount value)) := by
                simp [reduceNode, tryOptimizeIntegerMultiply, found, power]
              rw [shifted]
              exact Reduced.shiftedLeft rfl found power
      | _ =>
          apply unchanged
          simp [tryOptimizeIntegerMultiply, found]

theorem tryOptimizeFloatMultiply_eq (left right : Expression) :
    tryOptimizeFloatMultiply .floatMultiply left right =
      (doubledOperand .floatMultiply left right).map fun other =>
        .binaryOp .floatAdd other other.clone := by
  cases found : literalOperand left right with
  | none => simp [tryOptimizeFloatMultiply, doubledOperand, found]
  | some pair =>
      rcases pair with ⟨literal, other⟩
      cases literal with
      | floatLiteral value =>
          by_cases two : (value != 2.0) = true <;>
            simp [tryOptimizeFloatMultiply, doubledOperand, found, two]
      | _ => simp [tryOptimizeFloatMultiply, doubledOperand, found]

theorem tryOptimizeIntegerDivision_eq (left right : Expression) :
    tryOptimizeIntegerDivision .divide left right =
      (shiftedDivisor .divide right).map fun value =>
        .binaryOp .rightShift left (.integerLiteral (shiftAmount value)) := by
  cases right with
  | integerLiteral value =>
      by_cases power : isPowerOfTwo value = true <;>
        simp [tryOptimizeIntegerDivision, shiftedDivisor, power]
  | _ => rfl

theorem reduceNode_floatMultiply (left right : Expression) :
    Reduced .floatMultiply left right (reduceNode .floatMultiply left right) := by
  have first : tryOptimizeIntegerMultiply .floatMultiply left right = none := rfl
  have third : tryOptimizeIntegerDivision .floatMultiply left right = none := rfl
  have fourth : tryOptimizeFloatDivision .floatMultiply left right = none := rfl
  unfold reduceNode
  rw [first, tryOptimizeFloatMultiply_eq, third, fourth]
  cases found : doubledOperand .floatMultiply left right with
  | none => exact Reduced.kept found rfl
  | some other => exact Reduced.doubled found

theorem reduceNode_divide (left right : Expression) :
    Reduced .divide left right (reduceNode .divide left right) := by
  have first : tryOptimizeIntegerMultiply .divide left right = none := rfl
  have second : tryOptimizeFloatMultiply .divide left right = none := rfl
  have fourth : tryOptimizeFloatDivision .divide left right = none := rfl
  unfold reduceNode
  rw [first, second, tryOptimizeIntegerDivision_eq, fourth]
  cases found : shiftedDivisor .divide right with
  | none => exact Reduced.kept rfl found
  | some other => exact Reduced.shiftedRight found

theorem reduceNode_floatDivide (left right : Expression) :
    Reduced .floatDivide left right (reduceNode .floatDivide left right) := by
  cases right with
  | floatLiteral value =>
      by_cases nonzero : (value != 0.0) = true
      · have replaced : reduceNode .floatDivide left (.floatLiteral value) =
            .binaryOp .floatMultiply left (.floatLiteral (1.0 / value)) := by
          simp [reduceNode, tryOptimizeIntegerMultiply, tryOptimizeFloatMultiply,
            tryOptimizeIntegerDivision, tryOptimizeFloatDivision, nonzero]
        rw [replaced]
        exact Reduced.reciprocal rfl rfl
      · have same : reduceNode .floatDivide left (.floatLiteral value) =
            .binaryOp .floatDivide left (.floatLiteral value) := by
          simp [reduceNode, tryOptimizeIntegerMultiply, tryOptimizeFloatMultiply,
            tryOptimizeIntegerDivision, tryOptimizeFloatDivision, nonzero]
        rw [same]
        exact Reduced.kept rfl rfl
  | _ => exact Reduced.kept rfl rfl

/-- The four attempts do what `Reduced` lists. -/
theorem reduceNode_reduced (op : BinaryOperator) (left right : Expression) :
    Reduced op left right (reduceNode op left right) := by
  cases op with
  | multiply => exact reduceNode_multiply left right
  | floatMultiply => exact reduceNode_floatMultiply left right
  | divide => exact reduceNode_divide left right
  | floatDivide => exact reduceNode_floatDivide left right
  | _ => exact Reduced.kept rfl rfl

theorem literalOperand_eq_some {left right literal other : Expression}
    (found : literalOperand left right = some (literal, other)) :
    isNumberLiteral literal = true ∧
      ((right = literal ∧ left = other) ∨ (left = literal ∧ right = other)) := by
  unfold literalOperand at found
  split at found
  · rename_i isLiteral
    cases found
    exact ⟨isLiteral, Or.inl ⟨rfl, rfl⟩⟩
  · split at found
    · rename_i isLiteral
      cases found
      exact ⟨isLiteral, Or.inr ⟨rfl, rfl⟩⟩
    · cases found

theorem doubledOperand_eq_some {op : BinaryOperator} {left right other : Expression}
    (found : doubledOperand op left right = some other) :
    op = .floatMultiply ∧ exists value,
      literalOperand left right = some (.floatLiteral value, other) := by
  unfold doubledOperand at found
  split at found
  · rename_i value operand located
    split at found
    · cases found
    · cases found
      exact ⟨rfl, value, located⟩
  · cases found

theorem shiftedDivisor_eq_some {op : BinaryOperator} {right : Expression} {value : Word}
    (found : shiftedDivisor op right = some value) :
    op = .divide ∧ right = .integerLiteral value ∧ isPowerOfTwo value = true := by
  unfold shiftedDivisor at found
  split at found
  · split at found
    · rename_i power
      cases found
      exact ⟨rfl, rfl, power⟩
    · cases found
  · cases found

theorem Reduced.isNumberLiteral {op : BinaryOperator} {left right node : Expression}
    (reduced : Reduced op left right node) : isNumberLiteral node = false := by
  cases reduced <;> rfl

theorem isNumberLiteral_reduceStrength (expression : Expression) :
    isNumberLiteral (reduceStrength expression) = isNumberLiteral expression := by
  cases expression with
  | binaryOp op left right =>
      rw [reduceStrength]
      exact (reduceNode_reduced op (reduceStrength left) (reduceStrength right)).isNumberLiteral
  | _ => rfl

theorem reduceStrength_literal {expression : Expression}
    (literal : isNumberLiteral expression = true) :
    reduceStrength expression = expression := by
  cases expression <;> first | rfl | cases literal

/-- The search for the literal finds the same one after the operands have been
visited. -/
theorem literalOperand_reduceStrength (left right : Expression) :
    literalOperand (reduceStrength left) (reduceStrength right) =
      (literalOperand left right).map fun pair => (pair.1, reduceStrength pair.2) := by
  unfold literalOperand
  rw [isNumberLiteral_reduceStrength, isNumberLiteral_reduceStrength]
  cases rightLiteral : isNumberLiteral right with
  | true => simp [reduceStrength_literal rightLiteral]
  | false =>
      cases leftLiteral : isNumberLiteral left with
      | true => simp [reduceStrength_literal leftLiteral]
      | false => simp

theorem doubledOperand_reduceStrength (op : BinaryOperator) (left right : Expression) :
    doubledOperand op (reduceStrength left) (reduceStrength right) =
      (doubledOperand op left right).map reduceStrength := by
  unfold doubledOperand
  rw [literalOperand_reduceStrength]
  cases op with
  | floatMultiply =>
      cases literalOperand left right with
      | none => rfl
      | some pair =>
          rcases pair with ⟨literal, other⟩
          cases literal with
          | floatLiteral value => by_cases two : (value != 2.0) = true <;> simp [two]
          | _ => rfl
  | _ => rfl

theorem shiftedDivisor_reduceStrength (op : BinaryOperator) (right : Expression) :
    shiftedDivisor op (reduceStrength right) = shiftedDivisor op right := by
  cases literal : isNumberLiteral right with
  | true => rw [reduceStrength_literal literal]
  | false =>
      have visited := isNumberLiteral_reduceStrength right
      rw [literal] at visited
      have skips : forall expression, isNumberLiteral expression = false ->
          shiftedDivisor op expression = none := by
        intro expression other
        cases op with
        | divide => cases expression <;> first | rfl | cases other
        | _ => rfl
      rw [skips right literal, skips _ visited]

end Rewrites
section Effects

variable (target : Target) (callee : Callee)

/-- The state that the evaluation of a tree leaves. -/
def effect (expression : Expression) (state : State) : Option State :=
  (evaluate target callee expression state).map Prod.snd

/-- An evaluation that performs no calls. -/
def IsQuiet (expression : Expression) (state : State) : Prop :=
  effect target callee expression state = some state

variable {target callee}

theorem effect_literal {expression : Expression} (literal : isNumberLiteral expression = true)
    (state : State) : effect target callee expression state = some state := by
  cases expression <;> first | rfl | cases literal

theorem effect_clone (expression : Expression) :
    effect target callee expression.clone = effect target callee expression := by
  funext state
  unfold effect
  rw [evaluate_clone]

theorem effect_connective {op : BinaryOperator} (connective : isConnective op = true)
    (left right : Expression) (state : State) :
    effect target callee (.binaryOp op left right) state = none := by
  unfold effect
  rw [evaluate, evaluateBinary_connective target connective]
  rfl

/-- The value of a strict operator, from the values of its operands. -/
theorem evaluate_strict {op : BinaryOperator} (strict : isConnective op = false)
    (left right : Expression) :
    evaluate target callee (.binaryOp op left right) =
      andThen (evaluate target callee right) fun rightValue =>
        andThen (evaluate target callee left) fun leftValue =>
          give (target.operate op leftValue rightValue) := by
  rw [evaluate, evaluateBinary_strict target strict]
  unfold Evaluation.strict
  simp only [binary_eq_operate target strict]
  rfl

/-- A strict operator runs its operands, the right one first. -/
theorem effect_strict {op : BinaryOperator} (strict : isConnective op = false)
    (left right : Expression) (state : State) :
    effect target callee (.binaryOp op left right) state =
      (effect target callee right state).bind (effect target callee left) := by
  unfold effect
  rw [evaluate_strict strict]
  unfold andThen
  cases evaluate target callee right state with
  | none => rfl
  | some rightPair =>
      cases leftDone : evaluate target callee left rightPair.2 <;> simp [leftDone, give]

theorem effect_appends {expression : Expression} {state final : State}
    (done : effect target callee expression state = some final) :
    final = state ∨ state.calls.length < final.calls.length := by
  rcases Option.map_eq_some_iff.mp done with ⟨pair, evaluated, same⟩
  rw [<- same]
  exact evaluate_appendsCalls target callee expression state pair.1 pair.2 evaluated

/-- The operands of a quiet node are quiet in the same state. -/
theorem isQuiet_strict {op : BinaryOperator} (strict : isConnective op = false)
    (left right : Expression) (state : State) :
    IsQuiet target callee (.binaryOp op left right) state <->
      IsQuiet target callee right state ∧ IsQuiet target callee left state := by
  unfold IsQuiet
  rw [effect_strict strict]
  constructor
  · intro quiet
    rcases Option.bind_eq_some_iff.mp quiet with ⟨middle, rightDone, leftDone⟩
    have same : middle = state := by
      rcases effect_appends rightDone with same | longer
      · exact same
      · rcases effect_appends leftDone with same | longest
        · exact same.symm
        · omega
    rw [same] at rightDone leftDone
    exact ⟨rightDone, leftDone⟩
  · rintro ⟨rightQuiet, leftQuiet⟩
    rw [rightQuiet]
    exact leftQuiet

theorem not_isQuiet_connective {op : BinaryOperator} (connective : isConnective op = true)
    (left right : Expression) (state : State) :
    ¬ IsQuiet target callee (.binaryOp op left right) state := by
  unfold IsQuiet
  rw [effect_connective connective]
  intro quiet
  cases quiet

/-- A node with a literal operand does what its other operand does. -/
theorem effect_literalOperand {op : BinaryOperator} (strict : isConnective op = false)
    {left right literal other : Expression}
    (found : literalOperand left right = some (literal, other)) (state : State) :
    effect target callee (.binaryOp op left right) state =
      effect target callee other state := by
  rw [effect_strict strict]
  rcases literalOperand_eq_some found with ⟨isLiteral, ⟨rfl, rfl⟩ | ⟨rfl, rfl⟩⟩
  · rw [effect_literal isLiteral]
    rfl
  · cases done : effect target callee right state with
    | none => rfl
    | some middle => exact effect_literal isLiteral middle

/-- A node that is not doubled does what it did before. -/
theorem effect_reduceNode {op : BinaryOperator} {left right : Expression}
    (single : doubledOperand op left right = none) (state : State) :
    effect target callee (reduceNode op left right) state =
      effect target callee (.binaryOp op left right) state := by
  have reduced := reduceNode_reduced op left right
  generalize reduceNode op left right = node at reduced
  cases reduced with
  | shiftedLeft isMultiply found power =>
      subst isMultiply
      rw [effect_literalOperand rfl found, effect_strict rfl, effect_literal rfl]
      rfl
  | doubled found =>
      rw [single] at found
      cases found
  | shiftedRight found =>
      rcases shiftedDivisor_eq_some found with ⟨rfl, rfl, power⟩
      rw [effect_strict rfl, effect_strict rfl, effect_literal rfl, effect_literal rfl]
  | reciprocal isDivide isLiteral =>
      subst isDivide isLiteral
      rw [effect_strict rfl, effect_strict rfl, effect_literal rfl, effect_literal rfl]
  | kept => rfl

/-- A doubled node runs its operand twice. -/
theorem effect_doubled {op : BinaryOperator} {left right other : Expression}
    (found : doubledOperand op left right = some other) (state : State) :
    effect target callee (reduceNode op left right) state =
      (effect target callee other state).bind (effect target callee other) := by
  have reduced := reduceNode_reduced op left right
  generalize reduceNode op left right = node at reduced
  cases reduced with
  | shiftedLeft isMultiply =>
      subst isMultiply
      cases found
  | doubled again =>
      rw [found] at again
      cases again
      rw [effect_strict rfl, effect_clone]
  | shiftedRight divisor =>
      rcases shiftedDivisor_eq_some divisor with ⟨rfl, _⟩
      cases found
  | reciprocal isDivide =>
      subst isDivide
      cases found
  | kept single =>
      rw [single] at found
      cases found

/-- Before the reduction the operand runs once. -/
theorem effect_undoubled {op : BinaryOperator} {left right other : Expression}
    (found : doubledOperand op left right = some other) (state : State) :
    effect target callee (.binaryOp op left right) state =
      effect target callee other state := by
  rcases doubledOperand_eq_some found with ⟨rfl, value, located⟩
  exact effect_literalOperand rfl located state

theorem isQuiet_reduceNode (op : BinaryOperator) (left right : Expression) (state : State) :
    IsQuiet target callee (reduceNode op left right) state <->
      IsQuiet target callee (.binaryOp op left right) state := by
  unfold IsQuiet
  cases found : doubledOperand op left right with
  | none => rw [effect_reduceNode found]
  | some other =>
      rw [effect_doubled found, effect_undoubled found]
      have twice : IsQuiet target callee (.binaryOp .floatAdd other other) state <->
          IsQuiet target callee other state ∧ IsQuiet target callee other state :=
        isQuiet_strict rfl other other state
      unfold IsQuiet at twice
      rw [effect_strict rfl] at twice
      rw [twice, and_self_iff]

/-- Whether a tree is quiet does not change. -/
theorem isQuiet_reduceStrength (expression : Expression) (state : State) :
    IsQuiet target callee (reduceStrength expression) state <->
      IsQuiet target callee expression state := by
  induction expression using reduceStrength.induct with
  | case1 op left right leftSame rightSame =>
      rw [reduceStrength, isQuiet_reduceNode]
      cases connective : isConnective op with
      | true =>
          constructor
          · exact fun quiet => absurd quiet (not_isQuiet_connective connective _ _ _)
          · exact fun quiet => absurd quiet (not_isQuiet_connective connective _ _ _)
      | false => rw [isQuiet_strict connective, isQuiet_strict connective, leftSame, rightSame]
  | case2 expression other =>
      rw [reduceStrength]
      exact other

end Effects

end CompleteTree
end NewBcpl
