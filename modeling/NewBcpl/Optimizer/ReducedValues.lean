import NewBcpl.Optimizer.ReducedTrees

namespace NewBcpl
namespace CompleteTree

open Foundations.PartialState Foundations.PowersOfTwo Semantics

/-!
# What strength reduction keeps

A multiplication by a power of two becomes the same shift on all words. The
division becomes a logical shift, which is the quotient of the nonnegative
dividends only, and a float multiplication by two evaluates its other operand a
second time. Both are stated at every node that the evaluation of the tree comes
to, in the state it comes there with.
-/

section Nodes

variable (target : Target) (callee : Callee)

/-- A property of nodes and states holds at every node that the evaluation of a
tree comes to, in the state it has there. A connective has no value, so nothing
below it is come to. -/
def AtEveryNode (property : Expression -> State -> Prop) : Expression -> State -> Prop
  | .binaryOp op left right, state =>
      property (.binaryOp op left right) state ∧
        (isConnective op = false ->
          AtEveryNode property right state ∧
            forall middle, effect target callee right state = some middle ->
              AtEveryNode property left middle)
  | expression, state => property expression state

/-- The reduced node evaluates to the word that the node evaluates to. -/
def KeepsValue (node : Expression) (state : State) : Prop :=
  (evaluate target callee (reduceStrength node) state).map Prod.fst =
    (evaluate target callee node state).map Prod.fst

/-- Every call is performed as often by the reduced node as by the node. -/
def KeepsCalls (node : Expression) (state : State) : Prop :=
  forall call : Call,
    (effect target callee (reduceStrength node) state).map (fun final => final.calls.count call) =
      (effect target callee node state).map fun final => final.calls.count call

/-- A division by a power of two other than one has a dividend that is not
negative. -/
def NonnegativeDividend : Expression -> State -> Prop
  | .binaryOp op left right, state =>
      forall value, shiftedDivisor op right = some value -> value ≠ 1#64 ->
        forall dividend final, evaluate target callee left state = some (dividend, final) ->
          0 ≤ dividend.toInt
  | _, _ => True

/-- The operand of a float multiplication by two, evaluated once more after
itself, has a value and performs no calls. -/
def RepeatsQuietly : Expression -> State -> Prop
  | .binaryOp op left right, state =>
      forall other, doubledOperand op left right = some other ->
        forall middle, effect target callee other state = some middle ->
          (effect target callee other middle).map State.calls = some middle.calls
  | _, _ => True

variable {target callee}

/-- Two properties hold at the same trees when they are equivalent at a node
whose operands agree, and the second one makes the node agree. -/
theorem atEveryNode_iff (Admissible : Expression -> Prop)
    (property condition agrees : Expression -> State -> Prop)
    (operands : forall {op left right}, Admissible (.binaryOp op left right) ->
      Admissible left ∧ Admissible right)
    (leaf : forall {expression} state, reduceStrength expression = expression ->
      (forall op left right, expression ≠ .binaryOp op left right) ->
        property expression state ∧ condition expression state ∧ agrees expression state)
    (node : forall {op left right} state, Admissible (.binaryOp op left right) ->
      (isConnective op = false -> agrees right state ∧
        forall middle, effect target callee right state = some middle -> agrees left middle) ->
      (property (.binaryOp op left right) state <-> condition (.binaryOp op left right) state) ∧
        (condition (.binaryOp op left right) state -> agrees (.binaryOp op left right) state))
    {expression : Expression} (admissible : Admissible expression) (state : State) :
    (AtEveryNode target callee property expression state <->
      AtEveryNode target callee condition expression state) ∧
      (AtEveryNode target callee condition expression state -> agrees expression state) := by
  induction expression using reduceStrength.induct generalizing state with
  | case1 op left right leftHypothesis rightHypothesis =>
      rcases operands admissible with ⟨leftAdmissible, rightAdmissible⟩
      have below : (isConnective op = false ->
          AtEveryNode target callee condition right state ∧
            forall middle, effect target callee right state = some middle ->
              AtEveryNode target callee condition left middle) ->
          isConnective op = false -> agrees right state ∧
            forall middle, effect target callee right state = some middle ->
              agrees left middle := by
        intro conditions strict
        rcases conditions strict with ⟨rightCondition, leftCondition⟩
        exact ⟨(rightHypothesis rightAdmissible state).2 rightCondition,
          fun middle done =>
            (leftHypothesis leftAdmissible middle).2 (leftCondition middle done)⟩
      simp only [AtEveryNode]
      constructor
      · constructor
        · rintro ⟨here, rest⟩
          have conditions : isConnective op = false ->
              AtEveryNode target callee condition right state ∧
                forall middle, effect target callee right state = some middle ->
                  AtEveryNode target callee condition left middle := by
            intro strict
            rcases rest strict with ⟨rightProperty, leftProperty⟩
            exact ⟨(rightHypothesis rightAdmissible state).1.mp rightProperty,
              fun middle done =>
                (leftHypothesis leftAdmissible middle).1.mp (leftProperty middle done)⟩
          exact ⟨(node state admissible (below conditions)).1.mp here, conditions⟩
        · rintro ⟨here, conditions⟩
          refine ⟨(node state admissible (below conditions)).1.mpr here, ?_⟩
          intro strict
          rcases conditions strict with ⟨rightCondition, leftCondition⟩
          exact ⟨(rightHypothesis rightAdmissible state).1.mpr rightCondition,
            fun middle done =>
              (leftHypothesis leftAdmissible middle).1.mpr (leftCondition middle done)⟩
      · rintro ⟨here, conditions⟩
        exact (node state admissible (below conditions)).2 here
  | case2 expression other =>
      have unchanged : reduceStrength expression = expression := by
        rw [reduceStrength]
        exact other
      have holds := leaf state unchanged fun op left right same => other op left right same
      have asIs : forall property, AtEveryNode target callee property expression state <->
          property expression state := by
        intro property
        rw [AtEveryNode]
        exact other
      rw [asIs, asIs]
      exact ⟨⟨fun _ => holds.2.1, fun _ => holds.1⟩, fun _ => holds.2.2⟩

end Nodes

section Values

variable {target : Target} {callee : Callee}

theorem isPowerOfTwo_shift {value : Word} (power : isPowerOfTwo value = true) :
    exists exponent, IsPositivePower value exponent ∧
      (shiftAmount value).toNat % 64 = exponent := by
  rcases Bool.and_eq_true_iff.mp power with ⟨positive, single⟩
  rcases exists_isPositivePower positive (eq_of_beq single) with ⟨exponent, isPower⟩
  refine ⟨exponent, isPower, ?_⟩
  have bound := isPower.1
  have counted : countLowZeros 64 value 0 = exponent := by
    rw [isPower.2, countLowZeros_twoPow 0 (by omega) (by omega), Nat.zero_add]
  unfold shiftAmount
  rw [counted, BitVec.toNat_ofNat]
  omega

theorem evaluate_rightLiteral {op : BinaryOperator} (strict : isConnective op = false)
    (left : Expression) (value : Word) (state : State) :
    evaluate target callee (.binaryOp op left (.integerLiteral value)) state =
      (evaluate target callee left state).map fun pair =>
        (target.operate op pair.1 value, pair.2) := by
  rw [evaluate_strict strict]
  unfold andThen
  cases done : evaluate target callee left state <;> simp [evaluate, give, done]

theorem evaluate_leftLiteral {op : BinaryOperator} (strict : isConnective op = false)
    (right : Expression) (value : Word) (state : State) :
    evaluate target callee (.binaryOp op (.integerLiteral value) right) state =
      (evaluate target callee right state).map fun pair =>
        (target.operate op value pair.1, pair.2) := by
  rw [evaluate_strict strict]
  unfold andThen
  cases evaluate target callee right state <;> simp [evaluate, give]

/-- A multiplication by a power of two is the shift on all words. -/
theorem evaluate_shiftedLeft {left right other : Expression} {value : Word}
    (found : literalOperand left right = some (.integerLiteral value, other))
    (power : isPowerOfTwo value = true) (state : State) :
    evaluate target callee
        (.binaryOp .leftShift other (.integerLiteral (shiftAmount value))) state =
      evaluate target callee (.binaryOp .multiply left right) state := by
  rcases isPowerOfTwo_shift power with ⟨exponent, isPower, amount⟩
  have product : forall operand : Word,
      target.operate .leftShift operand (shiftAmount value) = operand * value := by
    intro operand
    rw [mul_eq_shiftLeft isPower]
    change operand <<< ((shiftAmount value).toNat % 64) = _
    rw [amount]
  rw [evaluate_rightLiteral rfl]
  rcases literalOperand_eq_some found with ⟨_, ⟨rfl, rfl⟩ | ⟨rfl, rfl⟩⟩
  · rw [evaluate_rightLiteral rfl]
    simp only [product]
    rfl
  · rw [evaluate_leftLiteral rfl]
    simp only [product, BitVec.mul_comm _ value]
    rfl

/-- A division by a power of two is the shift exactly on the words that are not
negative, and on all words when the power is one. -/
theorem operate_divide_iff (target : Target) {value : Word}
    (power : isPowerOfTwo value = true) (dividend : Word) :
    target.operate .rightShift dividend (shiftAmount value) =
        target.operate .divide dividend value <->
      (value ≠ 1#64 -> 0 ≤ dividend.toInt) := by
  rcases isPowerOfTwo_shift power with ⟨exponent, isPower, amount⟩
  have isOne : value = 1#64 <-> exponent = 0 := by
    constructor
    · intro one
      apply isPower.unique
      exact ⟨by omega, by rw [one, BitVec.twoPow_zero]⟩
    · intro zero
      rw [isPower.2, zero, BitVec.twoPow_zero]
  have sign : dividend.msb = false <-> 0 ≤ dividend.toInt := by
    rw [BitVec.msb_eq_toInt, decide_eq_false_iff_not]
    omega
  change dividend >>> ((shiftAmount value).toNat % 64) = dividend.sdiv value <-> _
  rw [amount, eq_comm, sdiv_eq_ushiftRight_iff isPower, <- sign, ne_eq, ne_eq, isOne]

/-- A division by a power of two and its shift, on one dividend. -/
theorem evaluate_shiftedRight {left : Expression} {value : Word}
    (power : isPowerOfTwo value = true) (state : State) :
    ((evaluate target callee
        (.binaryOp .rightShift left (.integerLiteral (shiftAmount value))) state).map Prod.fst =
      (evaluate target callee
        (.binaryOp .divide left (.integerLiteral value)) state).map Prod.fst <->
      (value ≠ 1#64 -> forall dividend final,
        evaluate target callee left state = some (dividend, final) -> 0 ≤ dividend.toInt)) ∧
    ((value ≠ 1#64 -> forall dividend final,
        evaluate target callee left state = some (dividend, final) -> 0 ≤ dividend.toInt) ->
      evaluate target callee
        (.binaryOp .rightShift left (.integerLiteral (shiftAmount value))) state =
      evaluate target callee (.binaryOp .divide left (.integerLiteral value)) state) := by
  rw [evaluate_rightLiteral rfl, evaluate_rightLiteral rfl]
  cases evaluate target callee left state with
  | none => simp
  | some pair =>
      have onPair : (value ≠ 1#64 -> forall dividend final,
          some pair = some (dividend, final) -> 0 ≤ dividend.toInt) <->
          (value ≠ 1#64 -> 0 ≤ pair.1.toInt) := by
        constructor
        · exact fun condition other => condition other pair.1 pair.2 rfl
        · intro condition other dividend final same
          cases same
          exact condition other
      rw [onPair, <- operate_divide_iff target power]
      simp only [Option.map_some, Option.some.injEq, true_and]
      exact fun same => by rw [same]

end Values

section Conditions

variable {target : Target} {callee : Callee}

theorem evaluate_connective {op : BinaryOperator} (connective : isConnective op = true)
    (left right : Expression) (state : State) :
    evaluate target callee (.binaryOp op left right) state = none := by
  rw [evaluate, evaluateBinary_connective target connective]
  rfl

theorem reduceNode_connective {op : BinaryOperator} (connective : isConnective op = true)
    (left right : Expression) : reduceNode op left right = .binaryOp op left right := by
  cases op <;> first | rfl | cases connective

/-- A strict node takes the values of its operands, so operands that evaluate
alike can replace them. -/
theorem evaluate_operands {op : BinaryOperator} (strict : isConnective op = false)
    {left right leftOther rightOther : Expression} {state : State}
    (rightSame : evaluate target callee rightOther state = evaluate target callee right state)
    (leftSame : forall middle, effect target callee right state = some middle ->
      evaluate target callee leftOther middle = evaluate target callee left middle) :
    evaluate target callee (.binaryOp op leftOther rightOther) state =
      evaluate target callee (.binaryOp op left right) state := by
  rw [evaluate_strict strict, evaluate_strict strict]
  unfold andThen
  rw [rightSame]
  cases done : evaluate target callee right state with
  | none => rfl
  | some pair =>
      have reached : effect target callee right state = some pair.2 := by
        unfold effect
        rw [done]
        rfl
      simp only [leftSame pair.2 reached]

/-- An integer node evaluates as before unless it is a division by a power of
two. -/
theorem reduceNode_value {op : BinaryOperator} (isInteger : isIntegerOperator op = true)
    (left right : Expression) :
    (shiftedDivisor op right = none ∧
      evaluate target callee (reduceNode op left right) =
        evaluate target callee (.binaryOp op left right)) ∨
      exists value, op = .divide ∧ right = .integerLiteral value ∧
        isPowerOfTwo value = true ∧
        reduceNode op left right =
          .binaryOp .rightShift left (.integerLiteral (shiftAmount value)) := by
  have reduced := reduceNode_reduced op left right
  generalize reduceNode op left right = node at reduced
  cases reduced with
  | shiftedLeft isMultiply found power =>
      subst isMultiply
      exact Or.inl ⟨rfl, funext fun state => evaluate_shiftedLeft found power state⟩
  | doubled found =>
      rcases doubledOperand_eq_some found with ⟨rfl, _⟩
      cases isInteger
  | shiftedRight found =>
      rcases shiftedDivisor_eq_some found with ⟨isDivide, isLiteral, power⟩
      exact Or.inr ⟨_, isDivide, isLiteral, power, rfl⟩
  | reciprocal isDivide =>
      subst isDivide
      cases isInteger
  | kept single unshifted => exact Or.inl ⟨unshifted, rfl⟩

theorem keepsValue_of_same {op : BinaryOperator} {left right : Expression} {state : State}
    (same : evaluate target callee (reduceStrength (.binaryOp op left right)) state =
      evaluate target callee (.binaryOp op left right) state)
    (unshifted : shiftedDivisor op right = none) :
    (KeepsValue target callee (.binaryOp op left right) state <->
      NonnegativeDividend target callee (.binaryOp op left right) state) ∧
      (NonnegativeDividend target callee (.binaryOp op left right) state ->
        evaluate target callee (reduceStrength (.binaryOp op left right)) state =
          evaluate target callee (.binaryOp op left right) state) := by
  have holds : NonnegativeDividend target callee (.binaryOp op left right) state := by
    intro value found
    rw [unshifted] at found
    cases found
  have keeps : KeepsValue target callee (.binaryOp op left right) state := by
    unfold KeepsValue
    rw [same]
  exact ⟨⟨fun _ => holds, fun _ => keeps⟩, fun _ => same⟩

/-- One node of an integer tree. -/
theorem keepsValue_node {op : BinaryOperator} {left right : Expression} (state : State)
    (isInteger : isIntegerOperator op = true)
    (operands : isConnective op = false ->
      evaluate target callee (reduceStrength right) state = evaluate target callee right state ∧
        forall middle, effect target callee right state = some middle ->
          evaluate target callee (reduceStrength left) middle =
            evaluate target callee left middle) :
    (KeepsValue target callee (.binaryOp op left right) state <->
      NonnegativeDividend target callee (.binaryOp op left right) state) ∧
      (NonnegativeDividend target callee (.binaryOp op left right) state ->
        evaluate target callee (reduceStrength (.binaryOp op left right)) state =
          evaluate target callee (.binaryOp op left right) state) := by
  cases connective : isConnective op with
  | true =>
      apply keepsValue_of_same
      · rw [reduceStrength, reduceNode_connective connective, evaluate_connective connective,
          evaluate_connective connective]
      · cases op <;> first | rfl | cases connective
  | false =>
      rcases operands connective with ⟨rightSame, leftSame⟩
      have plain := evaluate_operands connective rightSame leftSame
      have shape : reduceStrength (.binaryOp op left right) =
          reduceNode op (reduceStrength left) (reduceStrength right) := by
        rw [reduceStrength]
      rcases reduceNode_value isInteger (reduceStrength left) (reduceStrength right) with
        ⟨unshifted, same⟩ | ⟨value, isDivide, isLiteral, power, shifted⟩
      · rw [shiftedDivisor_reduceStrength] at unshifted
        apply keepsValue_of_same _ unshifted
        rw [shape, same, plain]
      · have found := shiftedDivisor_reduceStrength op right
        subst isDivide
        rw [isLiteral] at found plain
        have located : shiftedDivisor .divide right = some value := by
          rw [<- found]
          exact if_pos power
        have literal := (shiftedDivisor_eq_some located).2.1
        have dividendSame : evaluate target callee (reduceStrength left) state =
            evaluate target callee left state := by
          apply leftSame state
          rw [literal]
          exact effect_literal rfl state
        have condition : NonnegativeDividend target callee (.binaryOp .divide left right) state <->
            (value ≠ 1#64 -> forall dividend final,
              evaluate target callee (reduceStrength left) state = some (dividend, final) ->
                0 ≤ dividend.toInt) := by
          rw [dividendSame]
          constructor
          · exact fun condition => condition value located
          · intro condition other otherLocated
            rw [located] at otherLocated
            cases otherLocated
            exact condition
        rw [condition]
        unfold KeepsValue
        rw [shape, shifted, <- plain]
        exact evaluate_shiftedRight power state

theorem isQuiet_iff_calls (expression : Expression) (state : State) :
    IsQuiet target callee expression state <->
      (effect target callee expression state).map State.calls = some state.calls := by
  constructor
  · intro quiet
    rw [quiet]
    rfl
  · intro sameCalls
    rcases Option.map_eq_some_iff.mp sameCalls with ⟨final, done, same⟩
    rcases effect_appends done with unchanged | longer
    · rw [unchanged] at done
      exact done
    · rw [same] at longer
      exact absurd longer (lt_irrefl _)

/-- An evaluation that performs every call as often as before performs none. -/
theorem isQuiet_iff_counts (expression : Expression) (state : State) :
    IsQuiet target callee expression state <->
      forall call : Call, (effect target callee expression state).map
        (fun final => final.calls.count call) = some (state.calls.count call) := by
  constructor
  · intro quiet call
    rw [quiet]
    rfl
  · intro counts
    rcases Option.map_eq_some_iff.mp (counts ⟨"", []⟩) with ⟨final, done, _⟩
    have sameCounts : List.Perm final.calls state.calls := by
      apply List.perm_iff_count.mpr
      intro call
      have count := counts call
      rw [done] at count
      exact Option.some.inj count
    rcases effect_appends done with unchanged | longer
    · rw [unchanged] at done
      exact done
    · rw [sameCounts.length_eq] at longer
      exact absurd longer (lt_irrefl _)

theorem keepsCalls_of_same {op : BinaryOperator} {left right : Expression} {state : State}
    (same : effect target callee (reduceStrength (.binaryOp op left right)) state =
      effect target callee (.binaryOp op left right) state)
    (single : doubledOperand op left right = none) :
    (KeepsCalls target callee (.binaryOp op left right) state <->
      RepeatsQuietly target callee (.binaryOp op left right) state) ∧
      (RepeatsQuietly target callee (.binaryOp op left right) state ->
        effect target callee (reduceStrength (.binaryOp op left right)) state =
          effect target callee (.binaryOp op left right) state) := by
  have holds : RepeatsQuietly target callee (.binaryOp op left right) state := by
    intro other found
    rw [single] at found
    cases found
  have keeps : KeepsCalls target callee (.binaryOp op left right) state := by
    intro call
    rw [same]
  exact ⟨⟨fun _ => holds, fun _ => keeps⟩, fun _ => same⟩

/-- The operand that is doubled runs in the state of the node. -/
theorem effect_doubledOperand {op : BinaryOperator} {left right other : Expression}
    (found : doubledOperand op left right = some other) {state : State}
    (rightSame : effect target callee (reduceStrength right) state =
      effect target callee right state)
    (leftSame : forall middle, effect target callee right state = some middle ->
      effect target callee (reduceStrength left) middle = effect target callee left middle) :
    effect target callee (reduceStrength other) state = effect target callee other state := by
  rcases doubledOperand_eq_some found with ⟨_, value, located⟩
  rcases literalOperand_eq_some located with ⟨isLiteral, ⟨rfl, rfl⟩ | ⟨rfl, rfl⟩⟩
  · exact leftSame state (effect_literal isLiteral state)
  · exact rightSame

/-- One node of any tree. -/
theorem keepsCalls_node {op : BinaryOperator} {left right : Expression} (state : State)
    (operands : isConnective op = false ->
      effect target callee (reduceStrength right) state = effect target callee right state ∧
        forall middle, effect target callee right state = some middle ->
          effect target callee (reduceStrength left) middle =
            effect target callee left middle) :
    (KeepsCalls target callee (.binaryOp op left right) state <->
      RepeatsQuietly target callee (.binaryOp op left right) state) ∧
      (RepeatsQuietly target callee (.binaryOp op left right) state ->
        effect target callee (reduceStrength (.binaryOp op left right)) state =
          effect target callee (.binaryOp op left right) state) := by
  cases connective : isConnective op with
  | true =>
      apply keepsCalls_of_same
      · rw [reduceStrength, reduceNode_connective connective, effect_connective connective,
          effect_connective connective]
      · cases op <;> first | rfl | cases connective
  | false =>
      rcases operands connective with ⟨rightSame, leftSame⟩
      have visited := doubledOperand_reduceStrength op left right
      cases found : doubledOperand op left right with
      | none =>
          rw [found] at visited
          apply keepsCalls_of_same _ found
          rw [reduceStrength, effect_reduceNode visited, effect_strict connective,
            effect_strict connective, rightSame]
          cases done : effect target callee right state with
          | none => rfl
          | some middle => exact leftSame middle done
      | some other =>
          rw [found] at visited
          have twice : effect target callee (reduceStrength (.binaryOp op left right)) state =
              (effect target callee other state).bind
                (effect target callee (reduceStrength other)) := by
            rw [reduceStrength, effect_doubled visited,
              effect_doubledOperand found rightSame leftSame]
          have once : effect target callee (.binaryOp op left right) state =
              effect target callee other state := effect_undoubled found state
          have condition : RepeatsQuietly target callee (.binaryOp op left right) state <->
              forall middle, effect target callee other state = some middle ->
                IsQuiet target callee (reduceStrength other) middle := by
            simp only [isQuiet_reduceStrength]
            simp only [isQuiet_iff_calls]
            constructor
            · exact fun holds => holds other found
            · intro holds another same
              rw [found] at same
              cases same
              exact holds
          rw [condition]
          unfold KeepsCalls
          rw [twice, once]
          cases done : effect target callee other state with
          | none => simp
          | some middle =>
              simp only [Option.some.injEq, forall_eq', Option.bind_some, Option.map_some]
              exact ⟨(isQuiet_iff_counts _ _).symm, fun quiet => quiet⟩

theorem keepsValue_leaf {expression : Expression} (state : State)
    (unchanged : reduceStrength expression = expression)
    (other : forall op left right, expression ≠ .binaryOp op left right) :
    KeepsValue target callee expression state ∧
      NonnegativeDividend target callee expression state ∧
      evaluate target callee (reduceStrength expression) state =
        evaluate target callee expression state := by
  unfold KeepsValue
  rw [unchanged]
  refine ⟨rfl, ?_, rfl⟩
  cases expression with
  | binaryOp op left right => exact absurd rfl (other op left right)
  | _ => trivial

theorem keepsCalls_leaf {expression : Expression} (state : State)
    (unchanged : reduceStrength expression = expression)
    (other : forall op left right, expression ≠ .binaryOp op left right) :
    KeepsCalls target callee expression state ∧
      RepeatsQuietly target callee expression state ∧
      effect target callee (reduceStrength expression) state =
        effect target callee expression state := by
  unfold KeepsCalls
  rw [unchanged]
  refine ⟨fun _ => rfl, ?_, rfl⟩
  cases expression with
  | binaryOp op left right => exact absurd rfl (other op left right)
  | _ => trivial

/-- Strength reduction on a tree of integer operators keeps the value of every
node that is evaluated exactly when no division by a power of two other than one
meets a negative dividend there. On every tree it keeps how often each call is
performed exactly when no operand of a float multiplication by two performs a
call when it is evaluated again. -/
theorem reduceStrength_keeps_iff (target : Target) (callee : Callee) (tree : Expression)
    (state : State) :
    (HasIntegerOperators tree ->
      (AtEveryNode target callee (KeepsValue target callee) tree state <->
        AtEveryNode target callee (NonnegativeDividend target callee) tree state)) ∧
    (AtEveryNode target callee (KeepsCalls target callee) tree state <->
      AtEveryNode target callee (RepeatsQuietly target callee) tree state) := by
  constructor
  · intro integers
    exact (atEveryNode_iff HasIntegerOperators (KeepsValue target callee)
      (NonnegativeDividend target callee)
      (fun expression state =>
        evaluate target callee (reduceStrength expression) state =
          evaluate target callee expression state)
      (fun admissible => admissible.2) (fun state => keepsValue_leaf state)
      (fun state admissible => keepsValue_node state admissible.1) integers state).1
  · exact (atEveryNode_iff (fun _ => True) (KeepsCalls target callee)
      (RepeatsQuietly target callee)
      (fun expression state =>
        effect target callee (reduceStrength expression) state =
          effect target callee expression state)
      (fun _ => ⟨trivial, trivial⟩) (fun state => keepsCalls_leaf state)
      (fun state _ => keepsCalls_node state) trivial state).1

/-- A target without floats and memory. -/
def integerTarget : Target :=
  { floatBits := fun _ => 0#64
    floatBinary := fun _ _ _ => 0#64
    floatUnary := fun _ _ => 0#64
    vectorElement := fun _ _ _ => 0#64
    character := fun _ _ _ => 0#64
    floatElement := fun _ _ _ => 0#64 }

/-- A program in which every call returns zero. -/
def zeroCallee : Callee := { respond := fun _ environment => (0#64, environment) }

/-- The tree `x / 2`. -/
def halfOfX : Expression :=
  .binaryOp .divide (.variableAccess "x" "") (.integerLiteral 2#64)

/-- Every variable has the same value. -/
def constantState (value : Word) : State := { environment := fun _ => value, calls := [] }

/-- On a dividend that is not negative the theorem gives the value of the tree. -/
theorem halfOfX_nine :
    AtEveryNode integerTarget zeroCallee (KeepsValue integerTarget zeroCallee) halfOfX
      (constantState 9#64) := by
  have integers : HasIntegerOperators halfOfX := ⟨rfl, trivial, trivial⟩
  apply ((reduceStrength_keeps_iff integerTarget zeroCallee halfOfX
    (constantState 9#64)).1 integers).mpr
  refine ⟨?_, fun _ => ⟨trivial, fun _ _ => trivial⟩⟩
  intro value _ _ dividend final evaluated
  cases evaluated
  decide

/-- With -3 for `x` the tree is -1 and the shift that replaces it a large
positive number. -/
theorem halfOfX_negative :
    HasIntegerOperators halfOfX ∧
      (evaluate integerTarget zeroCallee halfOfX
        (constantState (-3#64))).map Prod.fst = some (-1#64) ∧
      (evaluate integerTarget zeroCallee (reduceStrength halfOfX)
        (constantState (-3#64))).map Prod.fst = some 0x7FFFFFFFFFFFFFFE#64 :=
  ⟨⟨rfl, trivial, trivial⟩, by decide, by decide⟩

end Conditions

end CompleteTree
end NewBcpl
