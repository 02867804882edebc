import NewBcpl.Optimizer.FoldingConditions

namespace NewBcpl
namespace Optimizer

open Semantics

/-!
# The fold of an integer expression

First the visit of one operator node is brought into a list of cases, by the
literals that its folded operands are. From these cases the visit of a tree is
followed by induction: the literal it leaves is the constant of the tree, the
map of known constants does not change, and the folded tree evaluates as the
original one in every state that has the recorded constants.
-/


theorem evaluateIntegerConstant_eq (expression : Expression) :
    evaluateIntegerConstant expression = (literalOf expression).map Literal.value := by
  cases expression <;> rfl

theorem evaluateBooleanConstant_eq {expression : Expression}
    (tree : IntegerTree expression) :
    evaluateBooleanConstant expression =
      (literalOf expression).map fun literal => literal.value != 0#64 := by
  cases tree with
  | boolean value => cases value <;> rfl
  | _ => rfl

theorem literalOf_node {expression : Expression} {literal : Literal}
    (isLiteral : literalOf expression = some literal) : expression = literal.node := by
  cases expression <;> simp only [literalOf, Option.some.injEq, reduceCtorEq] at isLiteral
  all_goals
    rw [<- isLiteral]
    rfl

theorem foldFloatOperands_integer {operator : BinaryOperator}
    (isInteger : isIntegerOperator operator = true) (left right : Expression) :
    foldFloatOperands operator left right = none := by
  unfold foldFloatOperands
  cases evaluateFloatConstant left with
  | none => rfl
  | some leftValue =>
      cases evaluateFloatConstant right with
      | none => rfl
      | some rightValue =>
          cases operator <;> simp [isIntegerOperator, foldFloats] at isInteger ⊢

/-- The ways in which the visit of an integer operator node replaces it, by the
literals that its folded operands are. -/
inductive BinaryReplacement :
    BinaryOperator -> Expression -> Expression -> Option Expression -> Prop where
  | folded {operator : BinaryOperator} {left right : Expression}
      {leftLiteral rightLiteral : Literal} {value : Word} :
      literalOf left = some leftLiteral -> literalOf right = some rightLiteral ->
      foldIntegers operator leftLiteral.value rightLiteral.value = some value ->
      BinaryReplacement operator left right (some (.integerLiteral value))
  | addLeft {left right : Expression} {literal : Literal} :
      literalOf left = some literal -> literal.value = 0#64 -> literalOf right = none ->
      BinaryReplacement .add left right (some right)
  | addRight {left right : Expression} {literal : Literal} :
      literalOf left = none -> literalOf right = some literal -> literal.value = 0#64 ->
      BinaryReplacement .add left right (some left)
  | subtractRight {left right : Expression} {literal : Literal} :
      literalOf left = none -> literalOf right = some literal -> literal.value = 0#64 ->
      BinaryReplacement .subtract left right (some left)
  | multiplyLeft {left right : Expression} {literal : Literal} :
      literalOf left = some literal -> literal.value = 1#64 -> literalOf right = none ->
      BinaryReplacement .multiply left right (some right)
  | multiplyRight {left right : Expression} {literal : Literal} :
      literalOf left = none -> literalOf right = some literal -> literal.value = 1#64 ->
      BinaryReplacement .multiply left right (some left)
  | zeroLeft {left right : Expression} {literal : Literal} :
      literalOf left = some literal -> literal.value = 0#64 -> literalOf right = none ->
      BinaryReplacement .multiply left right (some (.integerLiteral 0#64))
  | zeroRight {left right : Expression} {literal : Literal} :
      literalOf left = none -> literalOf right = some literal -> literal.value = 0#64 ->
      BinaryReplacement .multiply left right (some (.integerLiteral 0#64))
  | divideRight {left right : Expression} {literal : Literal} :
      literalOf left = none -> literalOf right = some literal -> literal.value = 1#64 ->
      BinaryReplacement .divide left right (some left)
  | kept {operator : BinaryOperator} {left right : Expression} :
      combineLiterals operator (literalOf left) (literalOf right) = none ->
      BinaryReplacement operator left right none

section Replacements

variable {operator : BinaryOperator} {left right : Expression}
variable (isInteger : isIntegerOperator operator = true)

include isInteger

theorem replaceBinaryOp_two {leftLiteral rightLiteral : Literal}
    (leftKnown : literalOf left = some leftLiteral)
    (rightKnown : literalOf right = some rightLiteral) :
    BinaryReplacement operator left right (replaceBinaryOp operator left right) := by
  have noFloat := foldFloatOperands_integer isInteger left right
  cases folded : foldIntegers operator leftLiteral.value rightLiteral.value with
  | some value =>
      have replaced : replaceBinaryOp operator left right = some (.integerLiteral value) := by
        simp [replaceBinaryOp, foldIntegerOperands, evaluateIntegerConstant_eq, leftKnown,
          rightKnown, folded]
      rw [replaced]
      exact .folded leftKnown rightKnown folded
  | none =>
      have noIdentity : simplifyIdentity operator left right = none := by
        cases operator <;> simp [foldIntegers] at folded <;>
          simp [simplifyIdentity, evaluateIntegerConstant_eq, rightKnown, folded]
      have replaced : replaceBinaryOp operator left right = none := by
        simp [replaceBinaryOp, foldIntegerOperands, evaluateIntegerConstant_eq, leftKnown,
          rightKnown, folded, noIdentity, noFloat]
      rw [replaced]
      apply BinaryReplacement.kept
      simp [combineLiterals, leftKnown, rightKnown, folded]

theorem replaceBinaryOp_left {literal : Literal} (leftKnown : literalOf left = some literal)
    (rightUnknown : literalOf right = none) :
    BinaryReplacement operator left right (replaceBinaryOp operator left right) := by
  have noFloat := foldFloatOperands_integer isInteger left right
  have simplified : replaceBinaryOp operator left right =
      simplifyIdentity operator left right := by
    simp only [replaceBinaryOp, foldIntegerOperands, evaluateIntegerConstant_eq, leftKnown,
      rightUnknown, Option.map_some, Option.map_none, noFloat]
    cases simplifyIdentity operator left right <;> rfl
  rw [simplified]
  by_cases zero : literal.value = 0#64
  · cases operator <;>
      simp [simplifyIdentity, evaluateIntegerConstant_eq, leftKnown, rightUnknown, zero]
    case add => exact .addLeft leftKnown zero rightUnknown
    case multiply => exact .zeroLeft leftKnown zero rightUnknown
    all_goals exact .kept (by simp [combineLiterals, leftKnown, rightUnknown])
  · by_cases one : literal.value = 1#64
    · cases operator <;>
        simp [simplifyIdentity, evaluateIntegerConstant_eq, leftKnown, rightUnknown, one]
      case multiply => exact .multiplyLeft leftKnown one rightUnknown
      all_goals exact .kept (by simp [combineLiterals, leftKnown, rightUnknown])
    · cases operator <;>
        simp [simplifyIdentity, evaluateIntegerConstant_eq, leftKnown, rightUnknown, zero, one]
      all_goals exact .kept (by simp [combineLiterals, leftKnown, rightUnknown, zero])

theorem replaceBinaryOp_right {literal : Literal} (leftUnknown : literalOf left = none)
    (rightKnown : literalOf right = some literal) :
    BinaryReplacement operator left right (replaceBinaryOp operator left right) := by
  have noFloat := foldFloatOperands_integer isInteger left right
  have simplified : replaceBinaryOp operator left right =
      simplifyIdentity operator left right := by
    simp only [replaceBinaryOp, foldIntegerOperands, evaluateIntegerConstant_eq,
      leftUnknown, rightKnown, Option.map_some, Option.map_none, noFloat]
    cases simplifyIdentity operator left right <;> rfl
  rw [simplified]
  by_cases zero : literal.value = 0#64
  · cases operator <;>
      simp [simplifyIdentity, evaluateIntegerConstant_eq, leftUnknown, rightKnown, zero]
    case add => exact .addRight leftUnknown rightKnown zero
    case subtract => exact .subtractRight leftUnknown rightKnown zero
    case multiply => exact .zeroRight leftUnknown rightKnown zero
    all_goals exact .kept (by simp [combineLiterals, leftUnknown, rightKnown])
  · by_cases one : literal.value = 1#64
    · cases operator <;>
        simp [simplifyIdentity, evaluateIntegerConstant_eq, leftUnknown, rightKnown, one]
      case multiply => exact .multiplyRight leftUnknown rightKnown one
      case divide => exact .divideRight leftUnknown rightKnown one
      all_goals exact .kept (by simp [combineLiterals, leftUnknown, rightKnown])
    · cases operator <;>
        simp [simplifyIdentity, evaluateIntegerConstant_eq, leftUnknown, rightKnown, zero, one]
      all_goals exact .kept (by simp [combineLiterals, leftUnknown, rightKnown, zero])

theorem replaceBinaryOp_neither (leftUnknown : literalOf left = none) (rightUnknown : literalOf right = none) :
    BinaryReplacement operator left right (replaceBinaryOp operator left right) := by
  have noFloat := foldFloatOperands_integer isInteger left right
  have kept : replaceBinaryOp operator left right = none := by
    cases operator <;>
      simp [replaceBinaryOp, foldIntegerOperands, evaluateIntegerConstant_eq, leftUnknown,
        rightUnknown, noFloat, simplifyIdentity]
  rw [kept]
  exact .kept (by simp [combineLiterals, leftUnknown, rightUnknown])

end Replacements

/-- The visit of an integer operator node replaces it in one of the listed ways. -/
theorem replaceBinaryOp_cases {operator : BinaryOperator}
    (isInteger : isIntegerOperator operator = true) (left right : Expression) :
    BinaryReplacement operator left right (replaceBinaryOp operator left right) := by
  cases leftLiteral : literalOf left with
  | some leftValue =>
      cases rightLiteral : literalOf right with
      | some rightValue => exact replaceBinaryOp_two isInteger leftLiteral rightLiteral
      | none => exact replaceBinaryOp_left isInteger leftLiteral rightLiteral
  | none =>
      cases rightLiteral : literalOf right with
      | some rightValue => exact replaceBinaryOp_right isInteger leftLiteral rightLiteral
      | none => exact replaceBinaryOp_neither isInteger leftLiteral rightLiteral

/-- What an operator node becomes when its operands are folded. -/
def foldedBinary (operator : BinaryOperator) (left right : Expression) : Expression :=
  (replaceBinaryOp operator left right).getD (.binaryOp operator left right)

/-- What a unary operator node becomes when its operand is folded. -/
def foldedUnary (operator : UnaryOperator) (operand : Expression) : Expression :=
  (replaceUnaryOp operator operand).getD (.unaryOp operator operand)

theorem orKept_node (replacement : Option Expression) (node : Expression)
    (known : Constants) :
    (ExpressionVisit.orKept replacement node known).node = replacement.getD node := by
  cases replacement <;> rfl

theorem orKept_known (replacement : Option Expression) (node : Expression)
    (known : Constants) :
    (ExpressionVisit.orKept replacement node known).known = known := by
  cases replacement <;> rfl

/-- The literal of a folded operator node. -/
theorem literalOf_foldedBinary {operator : BinaryOperator}
    (isInteger : isIntegerOperator operator = true) (left right : Expression) :
    literalOf (foldedBinary operator left right) =
      combineLiterals operator (literalOf left) (literalOf right) := by
  have described := replaceBinaryOp_cases isInteger left right
  unfold foldedBinary
  generalize replaceBinaryOp operator left right = replacement at described
  cases described with
  | folded leftKnown rightKnown folded =>
      simp [leftKnown, rightKnown, folded, combineLiterals]
  | addLeft leftKnown zero rightUnknown =>
      simp [leftKnown, rightUnknown, combineLiterals]
  | addRight leftUnknown rightKnown zero =>
      simp [leftUnknown, rightKnown, combineLiterals]
  | subtractRight leftUnknown rightKnown zero =>
      simp [leftUnknown, rightKnown, combineLiterals]
  | multiplyLeft leftKnown one rightUnknown =>
      simp [leftKnown, rightUnknown, combineLiterals, one]
  | multiplyRight leftUnknown rightKnown one =>
      simp [leftUnknown, rightKnown, combineLiterals, one]
  | zeroLeft leftKnown zero rightUnknown =>
      simp [leftKnown, rightUnknown, combineLiterals, zero]
  | zeroRight leftUnknown rightKnown zero =>
      simp [leftUnknown, rightKnown, combineLiterals, zero]
  | divideRight leftUnknown rightKnown one =>
      simp [leftUnknown, rightKnown, combineLiterals]
  | kept noLiteral =>
      rw [noLiteral]
      rfl

/-- A folded operator node on integer trees is an integer tree. -/
theorem integerTree_foldedBinary {operator : BinaryOperator}
    (isInteger : isIntegerOperator operator = true) {left right : Expression}
    (leftTree : IntegerTree left) (rightTree : IntegerTree right) :
    IntegerTree (foldedBinary operator left right) := by
  have described := replaceBinaryOp_cases isInteger left right
  unfold foldedBinary
  generalize replaceBinaryOp operator left right = replacement at described
  cases described with
  | folded => exact .integer _
  | addLeft => exact rightTree
  | addRight => exact leftTree
  | subtractRight => exact leftTree
  | multiplyLeft => exact rightTree
  | multiplyRight => exact leftTree
  | zeroLeft => exact .integer _
  | zeroRight => exact .integer _
  | divideRight => exact leftTree
  | kept => exact .binary isInteger leftTree rightTree

/-- The replacement of a unary operator node, by the literal of its operand. -/
theorem replaceUnaryOp_eq {operator : UnaryOperator} {operand : Expression}
    (tree : IntegerTree operand) :
    replaceUnaryOp operator operand =
      ((literalOf operand).bind fun literal =>
        foldUnaryInteger operator literal.value).map .integerLiteral := by
  cases tree with
  | integer value =>
      cases operator <;> rfl
  | boolean value =>
      cases operator <;> cases value <;> rfl
  | _ => cases operator <;> rfl

theorem literalOf_foldedUnary (operator : UnaryOperator) {operand : Expression}
    (tree : IntegerTree operand) :
    literalOf (foldedUnary operator operand) =
      match literalOf operand with
      | none => none
      | some literal => (foldUnaryInteger operator literal.value).map .integer := by
  unfold foldedUnary
  rw [replaceUnaryOp_eq tree]
  cases literalOf operand with
  | none => rfl
  | some literal =>
      cases folded : foldUnaryInteger operator literal.value with
      | none => simp [folded]
      | some value => simp [folded]

theorem integerTree_foldedUnary {operator : UnaryOperator}
    (isArithmetic : isArithmeticUnary operator = true) {operand : Expression}
    (tree : IntegerTree operand) : IntegerTree (foldedUnary operator operand) := by
  unfold foldedUnary
  rw [replaceUnaryOp_eq tree]
  cases (literalOf operand).bind fun literal => foldUnaryInteger operator literal.value with
  | none => exact .unary isArithmetic tree
  | some value => exact .integer value

/-- What the visit of an integer tree leaves: the same known constants, an
integer tree, and a literal exactly when the tree is constant. -/
structure VisitOfTree (manifests known : Constants) (expression : Expression) :
    Prop where
  known_eq : (visitExpression manifests expression known).known = known
  tree : IntegerTree (visitExpression manifests expression known).node
  literal : literalOf (visitExpression manifests expression known).node =
    constantLiteral (Constants.lookup manifests known) expression

section Visits

variable (manifests known : Constants)

theorem visitExpression_binaryOp (operator : BinaryOperator) {left right : Expression}
    (leftKnown : (visitExpression manifests left known).known = known) :
    visitExpression manifests (.binaryOp operator left right) known =
      .orKept (replaceBinaryOp operator (visitExpression manifests left known).node
          (visitExpression manifests right known).node)
        (.binaryOp operator (visitExpression manifests left known).node
          (visitExpression manifests right known).node)
        (visitExpression manifests right known).known := by
  simp only [visitExpression, leftKnown]

/-- A visited conditional whose condition is constant is the branch it selects. -/
theorem visitExpression_conditional_some {condition : Expression}
    (trueExpr falseExpr : Expression) {literal : Literal} (visit : VisitOfTree manifests known condition)
    (constant : constantLiteral (Constants.lookup manifests known) condition =
      some literal) :
    (visitExpression manifests (.conditional condition trueExpr falseExpr) known).node =
        (visitExpression manifests
          (if literal.value = 0#64 then falseExpr else trueExpr) known).node ∧
      (visitExpression manifests (.conditional condition trueExpr falseExpr) known).known =
        (visitExpression manifests
          (if literal.value = 0#64 then falseExpr else trueExpr) known).known := by
  have truth := evaluateBooleanConstant_eq visit.tree
  rw [visit.literal, constant, Option.map_some] at truth
  by_cases zero : literal.value = 0#64
  · rw [if_pos zero]
    simp only [zero, bne_self_eq_false] at truth
    simp only [visitExpression, truth, visit.known_eq, and_self]
  · rw [if_neg zero]
    have nonzero : (literal.value != 0#64) = true := bne_iff_ne.mpr zero
    rw [nonzero] at truth
    simp only [visitExpression, truth, visit.known_eq, and_self]

/-- A visited conditional whose condition is not constant keeps both branches. -/
theorem visitExpression_conditional_none {condition trueExpr : Expression}
    (falseExpr : Expression) (visit : VisitOfTree manifests known condition)
    (trueVisit : VisitOfTree manifests known trueExpr)
    (constant : constantLiteral (Constants.lookup manifests known) condition = none) :
    visitExpression manifests (.conditional condition trueExpr falseExpr) known =
      .kept (.conditional (visitExpression manifests condition known).node
          (visitExpression manifests trueExpr known).node
          (visitExpression manifests falseExpr known).node)
        (visitExpression manifests falseExpr known).known := by
  have truth := evaluateBooleanConstant_eq visit.tree
  rw [visit.literal, constant, Option.map_none] at truth
  simp only [visitExpression, truth, visit.known_eq, trueVisit.known_eq]

/-- The visits of a list of integer trees. -/
theorem visitExpressions_trees {arguments : List Expression}
    (visits : forall argument, argument ∈ arguments ->
      VisitOfTree manifests known argument) :
    visitExpressions manifests arguments known =
      (arguments.map fun argument => (visitExpression manifests argument known).node,
        known) := by
  induction arguments with
  | nil => rfl
  | cons first rest ih =>
      have firstVisit := visits first List.mem_cons_self
      have restVisits := ih fun argument member =>
        visits argument (List.mem_cons_of_mem _ member)
      simp only [visitExpressions, firstVisit.known_eq, restVisits, List.map_cons]

/-- The visit of a call of a name that has no constant. -/
theorem visitExpression_call {name : String} {arguments : List Expression}
    (untracked : Constants.lookup manifests known name = none)
    (visits : forall argument, argument ∈ arguments ->
      VisitOfTree manifests known argument) :
    visitExpression manifests (.functionCall (.variableAccess name) arguments) known =
      .kept (.functionCall (.variableAccess name)
        (arguments.map fun argument => (visitExpression manifests argument known).node))
        known := by
  have functionVisit : visitExpression manifests (.variableAccess name) known =
      .kept (.variableAccess name) known := by
    simp only [visitExpression, untracked, Option.map_none]
    rfl
  have argumentsVisit := visitExpressions_trees manifests known visits
  simp only [visitExpression] at functionVisit
  simp only [visitExpression, functionVisit, ExpressionVisit.kept, argumentsVisit]

/-- The visit of an integer tree none of whose called names has a constant. -/
theorem visitExpression_tree {expression : Expression} (tree : IntegerTree expression)
    {globals : String -> Bool} {facts : Constants}
    (trusted : ReadsTrusted (Constants.lookup manifests known) globals facts expression) :
    VisitOfTree manifests known expression := by
  induction tree generalizing facts with
  | integer value => exact ⟨rfl, .integer value, rfl⟩
  | boolean value => exact ⟨rfl, .boolean value, rfl⟩
  | access name =>
      cases found : Constants.lookup manifests known name with
      | none =>
          constructor
          · simp only [visitExpression, orKept_known]
          · simp only [visitExpression, found, orKept_node]
            exact .access name
          · simp only [visitExpression, found, orKept_node, constantLiteral]
            rfl
      | some value =>
          constructor
          · simp only [visitExpression, orKept_known]
          · simp only [visitExpression, found, orKept_node]
            exact .integer value
          · simp only [visitExpression, found, orKept_node, constantLiteral]
            rfl
  | @binary operator left right isInteger leftTree rightTree leftInduction rightInduction =>
      have leftVisit : VisitOfTree manifests known left := by
        rw [readsTrusted_binaryOp] at trusted
        split at trusted
        · exact leftInduction trusted.1
        · exact leftInduction trusted.2
      have rightVisit : VisitOfTree manifests known right := by
        rw [readsTrusted_binaryOp] at trusted
        split at trusted
        · exact rightInduction trusted.2
        · exact rightInduction trusted.1
      constructor
      · rw [visitExpression_binaryOp manifests known operator leftVisit.known_eq,
          orKept_known, rightVisit.known_eq]
      · rw [visitExpression_binaryOp manifests known operator leftVisit.known_eq,
          orKept_node]
        exact integerTree_foldedBinary isInteger leftVisit.tree rightVisit.tree
      · rw [visitExpression_binaryOp manifests known operator leftVisit.known_eq,
          orKept_node]
        have literal := literalOf_foldedBinary isInteger
          (visitExpression manifests left known).node
          (visitExpression manifests right known).node
        rw [leftVisit.literal, rightVisit.literal] at literal
        exact literal
  | @unary operator operand isArithmetic operandTree operandInduction =>
      have operandVisit := operandInduction trusted
      constructor
      · simp only [visitExpression, orKept_known, operandVisit.known_eq]
      · simp only [visitExpression, orKept_node]
        exact integerTree_foldedUnary isArithmetic operandVisit.tree
      · simp only [visitExpression, orKept_node]
        have literal := literalOf_foldedUnary operator operandVisit.tree
        rw [operandVisit.literal] at literal
        exact literal
  | @conditional condition trueExpr falseExpr conditionTree trueTree falseTree
      conditionInduction trueInduction falseInduction =>
      simp only [ReadsTrusted] at trusted
      have conditionVisit := conditionInduction trusted.1
      cases constant :
          constantLiteral (Constants.lookup manifests known) condition with
      | none =>
          have branches := trusted.2
          simp only [constant] at branches
          have trueVisit := trueInduction branches.1
          have falseVisit := falseInduction branches.2
          have visit := visitExpression_conditional_none manifests known falseExpr
            conditionVisit trueVisit constant
          constructor
          · rw [visit]
            exact falseVisit.known_eq
          · rw [visit]
            exact .conditional conditionVisit.tree trueVisit.tree falseVisit.tree
          · rw [visit]
            simp only [constantLiteral, constant]
            rfl
      | some literal =>
          have visit := visitExpression_conditional_some manifests known trueExpr
            falseExpr conditionVisit constant
          have chosen : VisitOfTree manifests known
              (if literal.value = 0#64 then falseExpr else trueExpr) := by
            have branch := trusted.2
            simp only [constant] at branch
            split at branch
            · rw [if_pos (by assumption)]
              exact falseInduction branch
            · rw [if_neg (by assumption)]
              exact trueInduction branch
          constructor
          · rw [visit.2, chosen.known_eq]
          · rw [visit.1]
            exact chosen.tree
          · rw [visit.1, chosen.literal]
            simp only [constantLiteral, constant]
            split <;> rfl
  | @call name arguments trees inductions =>
      simp only [ReadsTrusted] at trusted
      have visits : forall argument, argument ∈ arguments ->
          VisitOfTree manifests known argument := by
        intro argument member
        rcases allReadsTrusted_member trusted.2 member with ⟨own, ownTrusted⟩
        exact inductions argument member ownTrusted
      have visit := visitExpression_call manifests known trusted.1 visits
      constructor
      · rw [visit]
        rfl
      · rw [visit]
        apply IntegerTree.call
        intro visited member
        rcases List.mem_map.mp member with ⟨argument, isArgument, equal⟩
        rw [<- equal]
        exact (visits argument isArgument).tree
      · rw [visit]
        rfl

end Visits

end Optimizer
end NewBcpl
