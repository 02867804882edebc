import NewBcpl.Optimizer.FoldedExpressions

namespace NewBcpl
namespace Optimizer

open Semantics Foundations.PartialState

/-!
# The folded tree has the value of the original

The facts known about the variables are an assertion on states. Under it the
folded tree and the original agree as computations, provided that the fold of
every operation is right and that recorded constants are read only where they
are known; and the evaluation leads to the facts that survive the calls it may
have made. The induction proves both at once, because a constant condition
chooses the branch that is actually evaluated.
-/

/-- The states that have every known fact. -/
def Known (facts : Constants) (state : State) : Prop :=
  Holds facts state.environment

section Facts

variable {globals : String -> Bool}

theorem afterCalls_twice (first second : Bool) (facts : Constants) :
    afterCalls globals second (afterCalls globals first facts) =
      afterCalls globals (first || second) facts := by
  funext name
  cases first <;> cases second <;> cases marked : globals name <;>
    simp [afterCalls, marked]

theorem afterCalls_false (facts : Constants) :
    afterCalls globals false facts = facts := by
  funext name
  simp [afterCalls]

theorem known_afterCalls {first second : Bool} {facts : Constants} {state : State}
    (implies : first = true -> second = true)
    (known : Known (afterCalls globals first facts) state) :
    Known (afterCalls globals second facts) state := by
  intro name value found
  apply known name value
  unfold afterCalls at found ⊢
  split at found
  · cases found
  · rename_i noneForgotten
    rw [if_neg]
    · exact found
    · intro forgotten
      apply noneForgotten
      simp only [Bool.and_eq_true] at forgotten ⊢
      exact ⟨implies forgotten.1, forgotten.2⟩

/-- After a call the facts about variables that are not global remain. -/
theorem known_call {callee : Callee} (changes : callee.ChangesOnly globals)
    {called : Bool} {facts : Constants} {state : State} (name : String)
    (arguments : List Word) (known : Known (afterCalls globals called facts) state) :
    Known (afterCalls globals true facts) (callee.call name arguments state).2 := by
  intro variableName value found
  unfold afterCalls at found
  rw [Bool.true_and] at found
  split at found
  · cases found
  · rename_i local_
    have unmarked : globals variableName = false := by simpa using local_
    change (callee.respond _ state.environment).2 variableName = value
    rw [changes _ _ _ unmarked]
    apply known
    unfold afterCalls
    simp [unmarked, found]

end Facts

section Nodes

variable {meaning : OperatorMeaning} {callee : Callee}

theorem evaluate_node (literal : Literal) :
    evaluate meaning callee literal.node = give (literal.meant meaning) := by
  cases literal <;> rfl

theorem meant_zero (laws : IdentityLaws meaning) {literal : Literal} :
    literal.value = 0#64 <-> literal.meant meaning = 0#64 := by
  cases literal with
  | integer value => exact Iff.rfl
  | boolean value =>
      cases value with
      | false => simp [Literal.value, Literal.meant, truthWord, laws.falseWord]
      | true => simp [Literal.value, Literal.meant, truthWord, laws.trueWord]

theorem meant_one {literal : Literal} (one : literal.value = 1#64) :
    literal.meant meaning = 1#64 := by
  cases literal with
  | integer value => exact one
  | boolean value => cases value <;> simp [Literal.value, truthWord] at one

/-- A strict operator whose right operand is a unit is its left operand. -/
theorem strict_give_right {operation : Word -> Word -> Option Word} {right : Word}
    (unit : forall left, operation left right = some left) (left : Evaluation) :
    Evaluation.strict operation left (give right) = left := by
  funext state
  cases step : left state with
  | none => simp [Evaluation.strict, andThen, give, step]
  | some pair => simp [Evaluation.strict, andThen, give, lift, step, unit]

/-- A strict operator whose left operand is a unit is its right operand. -/
theorem strict_give_left {operation : Word -> Word -> Option Word} {left : Word}
    (unit : forall right, operation left right = some right) (right : Evaluation) :
    Evaluation.strict operation (give left) right = right := by
  funext state
  cases step : right state with
  | none => simp [Evaluation.strict, andThen, step]
  | some pair => simp [Evaluation.strict, andThen, give, lift, step, unit]

/-- An operator on two literals. -/
theorem evaluateBinary_give (operator : BinaryOperator) (left right : Word) :
    evaluateBinary meaning operator (give left) (give right) =
      lift (applyOperator meaning operator left right) := by
  funext state
  cases operator <;>
    simp only [evaluateBinary, applyOperator, Evaluation.strict, andThen, give]
  all_goals
    cases truth : meaning.connective with
    | none => rfl
    | some word =>
        cases leftTruth : left != 0#64 <;>
          simp [Evaluation.connect, andThen, give, lift, leftTruth]

/-- The expression has a value and makes no call in the given states. -/
def SilentFrom (meaning : OperatorMeaning) (callee : Callee) (before : State -> Prop)
    (expression : Expression) : Prop :=
  forall state, before state ->
    exists value, evaluate meaning callee expression state = some (value, state)

/-- What a folded operator node needs in order to have the value of the
operator on its operands. -/
structure NodeFoldsRight (meaning : OperatorMeaning) (callee : Callee)
    (before : State -> Prop) (operator : BinaryOperator) (left right : Expression) :
    Prop where
  operation : forall leftLiteral rightLiteral value,
    literalOf left = some leftLiteral -> literalOf right = some rightLiteral ->
    foldIntegers operator leftLiteral.value rightLiteral.value = some value ->
    applyOperator meaning operator (leftLiteral.meant meaning)
      (rightLiteral.meant meaning) = some value
  silentRight : forall literal, operator = .multiply -> literalOf left = some literal ->
    literalOf right = none -> literal.value = 0#64 ->
    SilentFrom meaning callee before right
  silentLeft : forall literal, operator = .multiply -> literalOf left = none ->
    literalOf right = some literal -> literal.value = 0#64 ->
    SilentFrom meaning callee before left

/-- A folded operator node has the value of the operator on its operands. -/
theorem evaluate_foldedBinary (laws : IdentityLaws meaning)
    {operator : BinaryOperator} (isInteger : isIntegerOperator operator = true)
    {left right : Expression} {before : State -> Prop}
    (folds : NodeFoldsRight meaning callee before operator left right) :
    Agree before (evaluate meaning callee (foldedBinary operator left right))
      (evaluateBinary meaning operator (evaluate meaning callee left)
        (evaluate meaning callee right)) := by
  intro state holds
  have described := replaceBinaryOp_cases isInteger left right
  unfold foldedBinary
  generalize replaceBinaryOp operator left right = replacement at described
  cases described with
  | folded leftKnown rightKnown folded =>
      rw [literalOf_node leftKnown, literalOf_node rightKnown, evaluate_node,
        evaluate_node, evaluateBinary_give,
        folds.operation _ _ _ leftKnown rightKnown folded]
      rfl
  | addLeft leftKnown zero rightUnknown =>
      rw [literalOf_node leftKnown, evaluate_node, (meant_zero laws).mp zero]
      exact congrFun (strict_give_left laws.zeroAdd _).symm state
  | addRight leftUnknown rightKnown zero =>
      rw [literalOf_node rightKnown, evaluate_node, (meant_zero laws).mp zero]
      exact congrFun (strict_give_right laws.addZero _).symm state
  | subtractRight leftUnknown rightKnown zero =>
      rw [literalOf_node rightKnown, evaluate_node, (meant_zero laws).mp zero]
      exact congrFun (strict_give_right laws.subtractZero _).symm state
  | multiplyLeft leftKnown one rightUnknown =>
      rw [literalOf_node leftKnown, evaluate_node, meant_one one]
      exact congrFun (strict_give_left laws.oneMultiply _).symm state
  | multiplyRight leftUnknown rightKnown one =>
      rw [literalOf_node rightKnown, evaluate_node, meant_one one]
      exact congrFun (strict_give_right laws.multiplyOne _).symm state
  | zeroLeft leftKnown zero rightUnknown =>
      rcases folds.silentRight _ rfl leftKnown rightUnknown zero state holds with
        ⟨value, silent⟩
      rw [literalOf_node leftKnown, evaluate_node, (meant_zero laws).mp zero]
      simp [evaluateBinary, Evaluation.strict, andThen, silent, give, lift,
        laws.zeroMultiply, evaluate]
  | zeroRight leftUnknown rightKnown zero =>
      rcases folds.silentLeft _ rfl leftUnknown rightKnown zero state holds with
        ⟨value, silent⟩
      rw [literalOf_node rightKnown, evaluate_node, (meant_zero laws).mp zero]
      simp [evaluateBinary, Evaluation.strict, andThen, silent, give, lift,
        laws.multiplyZero, evaluate]
  | divideRight leftUnknown rightKnown one =>
      rw [literalOf_node rightKnown, evaluate_node, meant_one one]
      exact congrFun (strict_give_right laws.divideOne _).symm state
  | kept noLiteral => rfl

/-- A folded unary node has the value of the operator on its operand. -/
theorem evaluate_foldedUnary {operator : UnaryOperator} {operand : Expression}
    (tree : IntegerTree operand)
    (folds : forall literal value, literalOf operand = some literal ->
      foldUnaryInteger operator literal.value = some value ->
      meaning.unary operator (literal.meant meaning) = some value) :
    evaluate meaning callee (foldedUnary operator operand) =
      Evaluation.apply (meaning.unary operator) (evaluate meaning callee operand) := by
  funext state
  unfold foldedUnary
  rw [replaceUnaryOp_eq tree]
  cases isLiteral : literalOf operand with
  | none => rfl
  | some literal =>
      cases folded : foldUnaryInteger operator literal.value with
      | none =>
          simp only [Option.bind_some, folded, Option.map_none, Option.getD_none]
          rfl
      | some value =>
          simp only [Option.bind_some, folded, Option.map_some, Option.getD_some]
          rw [literalOf_node isLiteral, evaluate_node]
          simp [Evaluation.apply, andThen, give, lift, folds literal value isLiteral folded,
            evaluate]

end Nodes

section Trees

variable {meaning : OperatorMeaning} {callee : Callee} {globals : String -> Bool}

/-- A binary operator agrees when its operands do, each in the states that its
evaluation starts from. -/
theorem strict_agree {operation : Word -> Word -> Option Word}
    {before middle : State -> Prop} {left leftOther right rightOther : Evaluation}
    (rightAgree : Agree before right rightOther) (rightLeads : Leads before rightOther middle)
    (leftAgree : Agree middle left leftOther) :
    Agree before (Evaluation.strict operation left right)
      (Evaluation.strict operation leftOther rightOther) :=
  Agree.andThen rightAgree rightLeads fun _ =>
    fun state holds => by
      simp only [andThen, leftAgree state holds]

theorem strict_leads (operation : Word -> Word -> Option Word)
    {before middle after : State -> Prop} {left right : Evaluation}
    (rightLeads : Leads before right middle) (leftLeads : Leads middle left after) :
    Leads before (Evaluation.strict operation left right) after :=
  Leads.andThen rightLeads fun _ => Leads.andThen leftLeads fun _ => Leads.lift

theorem connect_agree {truth : Option (Bool -> Word)} {decisive : Bool}
    {before middle : State -> Prop} {left leftOther right rightOther : Evaluation}
    (leftAgree : Agree before left leftOther) (leftLeads : Leads before leftOther middle)
    (rightAgree : Agree middle right rightOther) :
    Agree before (Evaluation.connect truth decisive left right)
      (Evaluation.connect truth decisive leftOther rightOther) := by
  cases truth with
  | none => exact Agree.refl _
  | some word =>
      apply Agree.andThen leftAgree leftLeads
      intro leftValue state holds
      split
      · rfl
      · simp only [andThen, rightAgree state holds]

theorem connect_leads (truth : Option (Bool -> Word)) (decisive : Bool)
    {before middle after : State -> Prop} {left right : Evaluation}
    (leftLeads : Leads before left middle) (rightLeads : Leads middle right after)
    (skipped : forall state, middle state -> after state) :
    Leads before (Evaluation.connect truth decisive left right) after := by
  cases truth with
  | none =>
      intro state value final holds equal
      cases equal
  | some word =>
      simp only [Evaluation.connect]
      refine Leads.andThen leftLeads fun leftValue => ?_
      split
      · exact Leads.give.weaken skipped
      · exact Leads.andThen rightLeads fun _ => Leads.give

/-- The folded tree agrees with the original, and evaluation leads to the facts
that survive its calls. -/
structure FoldedTree (meaning : OperatorMeaning) (callee : Callee)
    (globals : String -> Bool) (manifests known facts : Constants)
    (expression : Expression) : Prop where
  agree : Agree (Known facts)
    (evaluate meaning callee (visitExpression manifests expression known).node)
    (evaluate meaning callee expression)
  leads : Leads (Known facts) (evaluate meaning callee expression)
    (Known (afterCalls globals
      (mayCall (Constants.lookup manifests known) expression) facts))

/-- A subtree that evaluates without a call, seen through its folded form. -/
theorem FoldedTree.silent {manifests known facts : Constants} {expression : Expression}
    (folded : FoldedTree meaning callee globals manifests known facts expression)
    (silent : Silent meaning callee expression) :
    SilentFrom meaning callee (Known facts)
      (visitExpression manifests expression known).node := by
  intro state holds
  rw [folded.agree state holds]
  exact silent state

/-- A constant subtree leaves the state unchanged. -/
theorem FoldedTree.constant {manifests known facts : Constants} {expression : Expression}
    (folded : FoldedTree meaning callee globals manifests known facts expression)
    (visit : VisitOfTree manifests known expression) {literal : Literal}
    (constant : constantLiteral (Constants.lookup manifests known) expression =
      some literal) {state : State} (holds : Known facts state) :
    evaluate meaning callee expression state = some (literal.meant meaning, state) ∧
      Known (afterCalls globals
        (mayCall (Constants.lookup manifests known) expression) facts) state := by
  have value : evaluate meaning callee expression state =
      some (literal.meant meaning, state) := by
    rw [<- folded.agree state holds, literalOf_node (visit.literal.trans constant),
      evaluate_node]
    rfl
  exact ⟨value, folded.leads state _ state holds value⟩

section Induction

variable {manifests known facts : Constants}

/-- The condition on an operator node of the tree, for the folded operands. -/
theorem nodeFoldsRight {operator : BinaryOperator} {left right : Expression}
    (leftVisit : VisitOfTree manifests known left)
    (rightVisit : VisitOfTree manifests known right)
    (folds : OperationFoldsRight meaning callee (Constants.lookup manifests known)
      operator left right)
    (silentRight : operator = .multiply -> Silent meaning callee right ->
      SilentFrom meaning callee (Known facts) (visitExpression manifests right known).node)
    (silentLeft : operator = .multiply -> Silent meaning callee left ->
      forall literal, constantLiteral (Constants.lookup manifests known) right =
        some literal ->
      SilentFrom meaning callee (Known facts) (visitExpression manifests left known).node) :
    NodeFoldsRight meaning callee (Known facts) operator
      (visitExpression manifests left known).node
      (visitExpression manifests right known).node := by
  constructor
  · intro leftLiteral rightLiteral value leftConstant rightConstant folded
    rw [leftVisit.literal] at leftConstant
    rw [rightVisit.literal] at rightConstant
    simp only [OperationFoldsRight, leftConstant, rightConstant] at folds
    exact folds value folded
  · intro literal isMultiply leftConstant rightVariable zero
    rw [leftVisit.literal] at leftConstant
    rw [rightVisit.literal] at rightVariable
    simp only [OperationFoldsRight, leftConstant, rightVariable] at folds
    exact silentRight isMultiply (folds isMultiply zero)
  · intro literal isMultiply leftVariable rightConstant zero
    rw [leftVisit.literal] at leftVariable
    rw [rightVisit.literal] at rightConstant
    simp only [OperationFoldsRight, leftVariable, rightConstant] at folds
    exact silentLeft isMultiply (folds isMultiply zero) literal rightConstant

theorem visitExpression_binaryOp_node (operator : BinaryOperator)
    {left : Expression} (right : Expression)
    (leftVisit : VisitOfTree manifests known left) :
    (visitExpression manifests (.binaryOp operator left right) known).node =
      foldedBinary operator (visitExpression manifests left known).node
        (visitExpression manifests right known).node := by
  rw [visitExpression_binaryOp manifests known operator leftVisit.known_eq, orKept_node]
  rfl

/-- Operators whose operands are both evaluated. -/
theorem FoldedTree.strict (laws : IdentityLaws meaning) {operator : BinaryOperator}
    (isInteger : isIntegerOperator operator = true)
    (isStrict : ¬(operator = .logicalAnd ∨ operator = .logicalOr))
    {left right : Expression}
    (leftVisit : VisitOfTree manifests known left)
    (rightVisit : VisitOfTree manifests known right)
    (leftFolded : FoldedTree meaning callee globals manifests known
      (afterCalls globals (mayCall (Constants.lookup manifests known) right) facts) left)
    (rightFolded : FoldedTree meaning callee globals manifests known facts right)
    (folds : OperationFoldsRight meaning callee (Constants.lookup manifests known)
      operator left right) :
    FoldedTree meaning callee globals manifests known facts
      (.binaryOp operator left right) := by
  have isStrictMeaning (first second : Evaluation) :
      evaluateBinary meaning operator first second =
        Evaluation.strict (meaning.binary operator) first second := by
    cases operator <;> simp [evaluateBinary] at isStrict ⊢
  have node : NodeFoldsRight meaning callee (Known facts) operator
      (visitExpression manifests left known).node
      (visitExpression manifests right known).node :=
    nodeFoldsRight leftVisit rightVisit folds
    (fun _ silent => rightFolded.silent silent)
    (fun _ silent literal constant state holds =>
      leftFolded.silent silent state
        (rightFolded.constant rightVisit constant holds).2)
  constructor
  · intro state holds
    rw [visitExpression_binaryOp_node operator right leftVisit,
      evaluate_foldedBinary laws isInteger node state holds, isStrictMeaning]
    simp only [evaluate, isStrictMeaning]
    exact strict_agree rightFolded.agree rightFolded.leads leftFolded.agree state holds
  · have leads := strict_leads (meaning.binary operator) rightFolded.leads
      leftFolded.leads
    rw [afterCalls_twice] at leads
    intro state value final holds equal
    simp only [evaluate, isStrictMeaning] at equal
    have reached := leads state value final holds equal
    exact known_afterCalls (fun called => by
      rw [mayCall, Bool.or_comm]
      exact called) reached

/-- The connectives. -/
theorem FoldedTree.connective (laws : IdentityLaws meaning) {operator : BinaryOperator}
    (isConnective : operator = .logicalAnd ∨ operator = .logicalOr)
    {left right : Expression}
    (leftVisit : VisitOfTree manifests known left)
    (rightVisit : VisitOfTree manifests known right)
    (leftFolded : FoldedTree meaning callee globals manifests known facts left)
    (rightFolded : FoldedTree meaning callee globals manifests known
      (afterCalls globals (mayCall (Constants.lookup manifests known) left) facts) right)
    (folds : OperationFoldsRight meaning callee (Constants.lookup manifests known)
      operator left right) :
    FoldedTree meaning callee globals manifests known facts
      (.binaryOp operator left right) := by
  have isInteger : isIntegerOperator operator = true := by
    rcases isConnective with equal | equal <;> rw [equal] <;> rfl
  have notProduct : operator ≠ .multiply := by
    rcases isConnective with equal | equal <;> rw [equal] <;> decide
  have isConnect : exists decisive, forall first second : Evaluation,
      evaluateBinary meaning operator first second =
        Evaluation.connect meaning.connective decisive first second := by
    rcases isConnective with equal | equal
    · exact ⟨false, fun _ _ => by rw [equal]; rfl⟩
    · exact ⟨true, fun _ _ => by rw [equal]; rfl⟩
  rcases isConnect with ⟨decisive, isConnect⟩
  have node : NodeFoldsRight meaning callee (Known facts) operator
      (visitExpression manifests left known).node
      (visitExpression manifests right known).node :=
    nodeFoldsRight leftVisit rightVisit folds
    (fun isProduct => absurd isProduct notProduct)
    (fun isProduct => absurd isProduct notProduct)
  constructor
  · intro state holds
    rw [visitExpression_binaryOp_node operator right leftVisit,
      evaluate_foldedBinary laws isInteger node state holds, isConnect]
    simp only [evaluate, isConnect]
    exact connect_agree leftFolded.agree leftFolded.leads rightFolded.agree state holds
  · intro state value final holds equal
    simp only [evaluate, isConnect] at equal
    have leads := connect_leads meaning.connective decisive
      leftFolded.leads rightFolded.leads
      (fun middle reached => by
        rw [afterCalls_twice]
        exact known_afterCalls (fun called => by rw [called]; rfl) reached)
    rw [afterCalls_twice] at leads
    exact leads state value final holds equal

/-- The lists of arguments. -/
theorem evaluateArguments_folded {arguments : List Expression}
    (folded : forall argument own, argument ∈ arguments ->
      ReadsTrusted (Constants.lookup manifests known) globals own argument ->
      FoldsRight meaning callee (Constants.lookup manifests known) argument ->
      FoldedTree meaning callee globals manifests known own argument)
    (trusted : AllReadsTrusted (Constants.lookup manifests known) globals facts arguments)
    (folds : AllFoldRight meaning callee (Constants.lookup manifests known) arguments) :
    Agree (Known facts)
        (evaluateArguments meaning callee
          (arguments.map fun argument => (visitExpression manifests argument known).node))
        (evaluateArguments meaning callee arguments) ∧
      Leads (Known facts) (evaluateArguments meaning callee arguments)
        (Known (afterCalls globals
          (mayCallAny (Constants.lookup manifests known) arguments) facts)) := by
  induction arguments generalizing facts with
  | nil =>
      constructor
      · exact Agree.refl _
      · intro state values final holds equal
        simp only [evaluateArguments, Option.some.injEq, Prod.mk.injEq] at equal
        rw [<- equal.2]
        simpa [mayCallAny, afterCalls_false] using holds
  | cons first rest ih =>
      simp only [AllReadsTrusted] at trusted
      simp only [AllFoldRight] at folds
      have firstFolded := folded first facts List.mem_cons_self trusted.1 folds.1
      have restFolded := ih (fun argument own member =>
        folded argument own (List.mem_cons_of_mem _ member)) trusted.2 folds.2
      constructor
      · intro state holds
        simp only [List.map_cons, evaluateArguments]
        exact Agree.andThen firstFolded.agree firstFolded.leads
          (fun value middle reached => by
            simp only [andThen, restFolded.1 middle reached]) state holds
      · intro state values final holds equal
        simp only [evaluateArguments] at equal
        have leads := Leads.andThen firstFolded.leads fun value =>
          Leads.andThen restFolded.2 fun values => @Leads.give _ _ _ (value :: values)
        have reached := leads state values final holds equal
        rw [afterCalls_twice] at reached
        exact reached

/-- A conditional whose condition is not constant. -/
theorem FoldedTree.conditional_none {condition trueExpr falseExpr : Expression}
    (conditionVisit : VisitOfTree manifests known condition)
    (trueVisit : VisitOfTree manifests known trueExpr)
    (constant : constantLiteral (Constants.lookup manifests known) condition = none)
    (conditionFolded : FoldedTree meaning callee globals manifests known facts condition)
    (trueFolded : FoldedTree meaning callee globals manifests known
      (afterCalls globals (mayCall (Constants.lookup manifests known) condition) facts)
      trueExpr)
    (falseFolded : FoldedTree meaning callee globals manifests known
      (afterCalls globals (mayCall (Constants.lookup manifests known) condition) facts)
      falseExpr) :
    FoldedTree meaning callee globals manifests known facts
      (.conditional condition trueExpr falseExpr) := by
  have visit := visitExpression_conditional_none manifests known falseExpr
    conditionVisit trueVisit constant
  constructor
  · intro state holds
    rw [visit]
    simp only [ExpressionVisit.kept, evaluate]
    refine Agree.andThen conditionFolded.agree conditionFolded.leads
      (fun value middle reached => ?_) state holds
    split
    · exact falseFolded.agree middle reached
    · exact trueFolded.agree middle reached
  · intro state value final holds equal
    simp only [evaluate] at equal
    have leads : Leads (Known facts)
        (Evaluation.choose (evaluate meaning callee condition)
          (evaluate meaning callee trueExpr) (evaluate meaning callee falseExpr))
        (Known (afterCalls globals (mayCall (Constants.lookup manifests known)
          (.conditional condition trueExpr falseExpr)) facts)) := by
      refine Leads.andThen conditionFolded.leads fun value => ?_
      split
      · refine falseFolded.leads.weaken fun reachedState reached => ?_
        rw [afterCalls_twice] at reached
        refine known_afterCalls (fun called => ?_) reached
        rw [mayCall, constant]
        rcases Bool.or_eq_true_iff.mp called with inCondition | inBranch
        · simp [inCondition]
        · simp [inBranch]
      · refine trueFolded.leads.weaken fun reachedState reached => ?_
        rw [afterCalls_twice] at reached
        refine known_afterCalls (fun called => ?_) reached
        rw [mayCall, constant]
        rcases Bool.or_eq_true_iff.mp called with inCondition | inBranch
        · simp [inCondition]
        · simp [inBranch]
    exact leads state value final holds equal

/-- A conditional whose condition is constant. -/
theorem FoldedTree.conditional_some (laws : IdentityLaws meaning)
    {condition trueExpr falseExpr : Expression} {literal : Literal}
    (conditionVisit : VisitOfTree manifests known condition)
    (constant : constantLiteral (Constants.lookup manifests known) condition =
      some literal)
    (conditionFolded : FoldedTree meaning callee globals manifests known facts condition)
    (branchFolded : FoldedTree meaning callee globals manifests known
      (afterCalls globals (mayCall (Constants.lookup manifests known) condition) facts)
      (if literal.value = 0#64 then falseExpr else trueExpr)) :
    FoldedTree meaning callee globals manifests known facts
      (.conditional condition trueExpr falseExpr) := by
  have visit := visitExpression_conditional_some manifests known trueExpr falseExpr
    conditionVisit constant
  have chosen (state : State) (holds : Known facts state) :
      evaluate meaning callee (.conditional condition trueExpr falseExpr) state =
        evaluate meaning callee
          (if literal.value = 0#64 then falseExpr else trueExpr) state := by
    have value := (conditionFolded.constant conditionVisit constant holds).1
    simp only [evaluate, Evaluation.choose, andThen, value]
    by_cases zero : literal.value = 0#64
    · rw [if_pos ((meant_zero laws).mp zero), if_pos zero]
    · rw [if_neg (fun meantZero => zero ((meant_zero laws).mpr meantZero)), if_neg zero]
  constructor
  · intro state holds
    rw [visit.1, chosen state holds]
    exact branchFolded.agree state
      (conditionFolded.constant conditionVisit constant holds).2
  · intro state value final holds equal
    rw [chosen state holds] at equal
    have reached := branchFolded.leads state value final
      (conditionFolded.constant conditionVisit constant holds).2 equal
    rw [afterCalls_twice] at reached
    refine known_afterCalls (fun called => ?_) reached
    rw [mayCall, constant]
    split at called
    · rename_i zero
      simpa [zero] using called
    · rename_i nonzero
      simpa [nonzero] using called

/-- The fold of an integer tree under facts that its reads can trust. -/
theorem visitExpression_folded (laws : IdentityLaws meaning)
    (changes : callee.ChangesOnly globals) {expression : Expression}
    (tree : IntegerTree expression)
    (trusted : ReadsTrusted (Constants.lookup manifests known) globals facts expression)
    (folds : FoldsRight meaning callee (Constants.lookup manifests known) expression) :
    FoldedTree meaning callee globals manifests known facts expression := by
  induction tree generalizing facts with
  | integer value =>
      exact ⟨Agree.refl _, fun state result final holds equal => by
        simp only [evaluate, Option.some.injEq, Prod.mk.injEq] at equal
        rw [<- equal.2]
        simpa [mayCall, afterCalls_false] using holds⟩
  | boolean value =>
      exact ⟨Agree.refl _, fun state result final holds equal => by
        simp only [evaluate, Option.some.injEq, Prod.mk.injEq] at equal
        rw [<- equal.2]
        simpa [mayCall, afterCalls_false] using holds⟩
  | access name =>
      constructor
      · intro state holds
        simp only [visitExpression, orKept_node]
        cases found : Constants.lookup manifests known name with
        | none => rfl
        | some value =>
            have recorded := holds name value (trusted value found)
            simp only [Option.map_some, Option.getD_some, evaluate, recorded]
      · intro state result final holds equal
        simp only [evaluate, Option.some.injEq, Prod.mk.injEq] at equal
        rw [<- equal.2]
        simpa [mayCall, afterCalls_false] using holds
  | @binary operator left right isInteger leftTree rightTree leftInduction rightInduction =>
      rw [readsTrusted_binaryOp] at trusted
      simp only [FoldsRight] at folds
      split at trusted
      · rename_i isConnective
        exact FoldedTree.connective laws isConnective
          (visitExpression_tree manifests known leftTree trusted.1)
          (visitExpression_tree manifests known rightTree trusted.2)
          (leftInduction trusted.1 folds.1) (rightInduction trusted.2 folds.2.1) folds.2.2
      · rename_i isStrict
        exact FoldedTree.strict laws isInteger isStrict
          (visitExpression_tree manifests known leftTree trusted.2)
          (visitExpression_tree manifests known rightTree trusted.1)
          (leftInduction trusted.2 folds.1) (rightInduction trusted.1 folds.2.1) folds.2.2
  | @unary operator operand isArithmetic operandTree operandInduction =>
      simp only [ReadsTrusted] at trusted
      simp only [FoldsRight] at folds
      have operandVisit := visitExpression_tree manifests known operandTree trusted
      have operandFolded := operandInduction trusted folds.1
      have node : (visitExpression manifests (.unaryOp operator operand) known).node =
          foldedUnary operator (visitExpression manifests operand known).node := by
        simp only [visitExpression, orKept_node]
        rfl
      constructor
      · intro state holds
        rw [node, evaluate_foldedUnary operandVisit.tree
          (fun literal value isLiteral folded =>
            folds.2 literal value (operandVisit.literal.symm.trans isLiteral) folded)]
        simp only [evaluate, Evaluation.apply, andThen, operandFolded.agree state holds]
      · intro state value final holds equal
        simp only [evaluate] at equal
        exact Leads.andThen operandFolded.leads (fun _ => Leads.lift)
          state value final holds equal
  | @conditional condition trueExpr falseExpr conditionTree trueTree falseTree
      conditionInduction trueInduction falseInduction =>
      simp only [ReadsTrusted] at trusted
      simp only [FoldsRight] at folds
      have conditionVisit := visitExpression_tree manifests known conditionTree trusted.1
      have conditionFolded := conditionInduction trusted.1 folds.1
      cases constant :
          constantLiteral (Constants.lookup manifests known) condition with
      | none =>
          have branches := trusted.2
          have branchFolds := folds.2
          simp only [constant] at branches branchFolds
          exact FoldedTree.conditional_none conditionVisit
            (visitExpression_tree manifests known trueTree branches.1) constant
            conditionFolded (trueInduction branches.1 branchFolds.1)
            (falseInduction branches.2 branchFolds.2)
      | some literal =>
          have branch := trusted.2
          have branchFolds := folds.2
          simp only [constant] at branch branchFolds
          apply FoldedTree.conditional_some laws conditionVisit constant conditionFolded
          by_cases zero : literal.value = 0#64
          · rw [if_pos zero] at branch branchFolds ⊢
            exact falseInduction branch branchFolds
          · rw [if_neg zero] at branch branchFolds ⊢
            exact trueInduction branch branchFolds
  | @call name arguments trees inductions =>
      simp only [ReadsTrusted] at trusted
      simp only [FoldsRight] at folds
      have visits : forall argument, argument ∈ arguments ->
          VisitOfTree manifests known argument := by
        intro argument member
        rcases allReadsTrusted_member trusted.2 member with ⟨own, ownTrusted⟩
        exact visitExpression_tree manifests known (trees argument member) ownTrusted
      have argumentsFolded := evaluateArguments_folded
        (fun argument own member => inductions argument member) trusted.2 folds
      constructor
      · intro state holds
        rw [visitExpression_call manifests known trusted.1 visits]
        simp only [ExpressionVisit.kept, evaluate, andThen, argumentsFolded.1 state holds]
      · intro state value final holds equal
        simp only [evaluate] at equal
        refine Leads.andThen argumentsFolded.2
          (fun values middle result reached known step => ?_) state value final holds equal
        simp only [Option.some.injEq] at step
        have after := known_call changes name values known
        rw [step] at after
        exact after

end Induction

end Trees

end Optimizer
end NewBcpl
