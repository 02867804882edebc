import NewBcpl.Ast

namespace NewBcpl
namespace Optimizer

/-!
# The constant folding pass

`ConstantFoldingPass` over the default traversal of `Optimizer`. The pass keeps
one map of known constants, which the visits thread through the tree in visiting
order; a visit says which node it leaves, whether it replaced the node under
visit, and which constants are known afterwards. The host arithmetic of the fold
is that of the machine the compiler runs on: 64-bit two's complement, with shift
amounts taken modulo 64.
-/

/-- A map from names to integer constants: `known_constants_` and `manifests_`. -/
abbrev Constants : Type := String -> Option Word

namespace Constants

/-- The cleared map. -/
def empty : Constants := fun _ => none

/-- `known_constants_[name] = value`. -/
def insert (known : Constants) (name : String) (value : Word) : Constants :=
  fun other => if other = name then some value else known other

/-- `known_constants_.erase(name)`. -/
def erase (known : Constants) (name : String) : Constants :=
  fun other => if other = name then none else known other

/-- The lookup of `visit(VariableAccess&)`: local constants first, then the
manifests. -/
def lookup (manifests known : Constants) (name : String) : Option Word :=
  match known name with
  | some value => some value
  | none => manifests name

end Constants

/-- The BCPL truth values of the fold: `TRUE` is -1. -/
def truthWord (value : Bool) : Word :=
  if value then -1#64 else 0#64

/-- `evaluate_integer_constant`. -/
def evaluateIntegerConstant : Expression -> Option Word
  | .integerLiteral value => some value
  | .booleanLiteral value => some (truthWord value)
  | _ => none

/-- `evaluate_float_constant`; an integer literal also counts as a float. -/
def evaluateFloatConstant : Expression -> Option Float
  | .floatLiteral value => some value
  | .integerLiteral value => some (Int64.ofBitVec value).toFloat
  | _ => none

/-- `evaluate_boolean_constant`. -/
def evaluateBooleanConstant : Expression -> Option Bool
  | .booleanLiteral value => some value
  | .integerLiteral value => some (value != 0#64)
  | .floatLiteral value => some (value != 0.0)
  | _ => none

/-- The integer switch of `visit(BinaryOp&)`; `none` is `foldable = false`. -/
def foldIntegers (operator : BinaryOperator) (left right : Word) : Option Word :=
  match operator with
  | .add => some (left + right)
  | .subtract => some (left - right)
  | .multiply => some (left * right)
  | .divide => if right = 0#64 then none else some (left.sdiv right)
  | .remainder => if right = 0#64 then none else some (left.srem right)
  | .leftShift => some (left <<< (right.toNat % 64))
  | .rightShift => some (left.sshiftRight (right.toNat % 64))
  | .equal => some (truthWord (left == right))
  | .notEqual => some (truthWord (left != right))
  | .less => some (truthWord (left.slt right))
  | .lessEqual => some (truthWord (left.sle right))
  | .greater => some (truthWord (right.slt left))
  | .greaterEqual => some (truthWord (right.sle left))
  | .logicalAnd => some (truthWord (left != 0#64 && right != 0#64))
  | .logicalOr => some (truthWord (left != 0#64 || right != 0#64))
  | .bitwiseOr => some (left ||| right)
  | .equivalence => some (truthWord (left == right))
  | .notEquivalence => some (truthWord (left != right))
  | _ => none

/-- The algebraic identities of `visit(BinaryOp&)`, tried when the integer switch
did not fold. -/
def simplifyIdentity (operator : BinaryOperator) (left right : Expression) :
    Option Expression :=
  match operator with
  | .add =>
      if evaluateIntegerConstant left = some 0#64 then some right
      else if evaluateIntegerConstant right = some 0#64 then some left
      else none
  | .subtract =>
      if evaluateIntegerConstant right = some 0#64 then some left
      else if (evaluateIntegerConstant left).isSome &&
          evaluateIntegerConstant left == evaluateIntegerConstant right then
        some (.integerLiteral 0#64)
      else none
  | .multiply =>
      if evaluateIntegerConstant left = some 1#64 then some right
      else if evaluateIntegerConstant right = some 1#64 then some left
      else if evaluateIntegerConstant left = some 0#64 ||
          evaluateIntegerConstant right = some 0#64 then
        some (.integerLiteral 0#64)
      else none
  | .divide =>
      if evaluateIntegerConstant right = some 1#64 then some left else none
  | _ => none

/-- The float switch of `visit(BinaryOp&)`. -/
def foldFloats (operator : BinaryOperator) (left right : Float) :
    Option Expression :=
  match operator with
  | .floatAdd => some (.floatLiteral (left + right))
  | .floatSubtract => some (.floatLiteral (left - right))
  | .floatMultiply => some (.floatLiteral (left * right))
  | .floatDivide =>
      if right == 0.0 then none else some (.floatLiteral (left / right))
  | .floatEqual => some (.integerLiteral (truthWord (left == right)))
  | .floatNotEqual => some (.integerLiteral (truthWord (left != right)))
  | .floatLess => some (.integerLiteral (truthWord (left < right)))
  | .floatLessEqual => some (.integerLiteral (truthWord (left <= right)))
  | .floatGreater => some (.integerLiteral (truthWord (left > right)))
  | .floatGreaterEqual => some (.integerLiteral (truthWord (left >= right)))
  | _ => none

/-- The integer part of the fold of a binary operator on two folded operands. -/
def foldIntegerOperands (operator : BinaryOperator) (left right : Expression) :
    Option Word :=
  match evaluateIntegerConstant left, evaluateIntegerConstant right with
  | some leftValue, some rightValue => foldIntegers operator leftValue rightValue
  | _, _ => none

/-- The float part of the fold of a binary operator on two folded operands. -/
def foldFloatOperands (operator : BinaryOperator) (left right : Expression) :
    Option Expression :=
  match evaluateFloatConstant left, evaluateFloatConstant right with
  | some leftValue, some rightValue => foldFloats operator leftValue rightValue
  | _, _ => none

/-- What `visit(BinaryOp&)` replaces the node by once both operands are folded:
the integer switch, then the identities, then the float switch. -/
def replaceBinaryOp (operator : BinaryOperator) (left right : Expression) :
    Option Expression :=
  match foldIntegerOperands operator left right with
  | some value => some (.integerLiteral value)
  | none =>
      match simplifyIdentity operator left right with
      | some simplified => some simplified
      | none => foldFloatOperands operator left right

/-- The integer switch of `visit(UnaryOp&)`. -/
def foldUnaryInteger (operator : UnaryOperator) (value : Word) : Option Word :=
  match operator with
  | .negate => some (-value)
  | .logicalNot => some (truthWord (value == 0#64))
  | _ => none

/-- What `visit(UnaryOp&)` replaces the node by once its operand is folded. -/
def replaceUnaryOp (operator : UnaryOperator) (operand : Expression) :
    Option Expression :=
  match (evaluateIntegerConstant operand).bind (foldUnaryInteger operator) with
  | some value => some (.integerLiteral value)
  | none =>
      match operator, evaluateFloatConstant operand with
      | .negate, some value => some (.floatLiteral (-value))
      | _, _ => none

/-- What a visit of an expression leaves: the node in its place, whether the
visit stored a replacement in `current_transformed_node_`, and the map of known
constants. -/
structure ExpressionVisit where
  node : Expression
  replaced : Bool
  known : Constants

namespace ExpressionVisit

/-- The node stays (its children may have been folded in place). -/
def kept (node : Expression) (known : Constants) : ExpressionVisit :=
  { node := node, replaced := false, known := known }

/-- The replacement if there is one, else the node itself. -/
def orKept (replacement : Option Expression) (node : Expression)
    (known : Constants) : ExpressionVisit :=
  match replacement with
  | some other => { node := other, replaced := true, known := known }
  | none => kept node known

end ExpressionVisit

/-- The tracking step of `visit(AssignmentStatement&)`: only a single assignment
to a variable is followed, a literal is recorded and anything else erased. -/
def trackAssignment (lhs rhs : List Expression) (known : Constants) : Constants :=
  match lhs, rhs with
  | [.variableAccess name], [.integerLiteral value] => known.insert name value
  | [.variableAccess name], [_] => known.erase name
  | _, _ => known

mutual

/-- `visit_expr`: the visit of an expression under the constants known so far. A
conditional with a constant condition visits only the branch it keeps; lists,
bit fields, tables and allocations are not entered. -/
def visitExpression (manifests : Constants) :
    Expression -> Constants -> ExpressionVisit
  | .variableAccess name, known =>
      .orKept ((Constants.lookup manifests known name).map .integerLiteral)
        (.variableAccess name) known
  | .binaryOp operator left right, known =>
      let leftVisit := visitExpression manifests left known
      let rightVisit := visitExpression manifests right leftVisit.known
      .orKept (replaceBinaryOp operator leftVisit.node rightVisit.node)
        (.binaryOp operator leftVisit.node rightVisit.node) rightVisit.known
  | .unaryOp operator operand, known =>
      let visit := visitExpression manifests operand known
      .orKept (replaceUnaryOp operator visit.node)
        (.unaryOp operator visit.node) visit.known
  | .vectorAccess vector index, known =>
      let vectorVisit := visitExpression manifests vector known
      let indexVisit := visitExpression manifests index vectorVisit.known
      .kept (.vectorAccess vectorVisit.node indexVisit.node) indexVisit.known
  | .charIndirection string index, known =>
      let stringVisit := visitExpression manifests string known
      let indexVisit := visitExpression manifests index stringVisit.known
      .kept (.charIndirection stringVisit.node indexVisit.node) indexVisit.known
  | .floatVectorIndirection vector index, known =>
      let vectorVisit := visitExpression manifests vector known
      let indexVisit := visitExpression manifests index vectorVisit.known
      .kept (.floatVectorIndirection vectorVisit.node indexVisit.node) indexVisit.known
  | .functionCall function arguments, known =>
      let functionVisit := visitExpression manifests function known
      let argumentsVisit := visitExpressions manifests arguments functionVisit.known
      .kept (.functionCall functionVisit.node argumentsVisit.1) argumentsVisit.2
  | .sysCall functionName syscallNumber arguments, known =>
      let numberVisit := visitExpression manifests syscallNumber known
      let argumentsVisit := visitExpressions manifests arguments numberVisit.known
      .kept (.sysCall functionName numberVisit.node argumentsVisit.1) argumentsVisit.2
  | .conditional condition trueExpr falseExpr, known =>
      let conditionVisit := visitExpression manifests condition known
      match evaluateBooleanConstant conditionVisit.node with
      | some true =>
          let visit := visitExpression manifests trueExpr conditionVisit.known
          { visit with replaced := true }
      | some false =>
          let visit := visitExpression manifests falseExpr conditionVisit.known
          { visit with replaced := true }
      | none =>
          let trueVisit := visitExpression manifests trueExpr conditionVisit.known
          let falseVisit := visitExpression manifests falseExpr trueVisit.known
          .kept (.conditional conditionVisit.node trueVisit.node falseVisit.node)
            falseVisit.known
  | .valof body, known =>
      let visit := visitStatement manifests body known
      .kept (.valof visit.1) visit.2
  | .floatValof body, known =>
      let visit := visitStatement manifests body known
      .kept (.floatValof visit.1) visit.2
  | expression, known => .kept expression known

/-- `visit_expr` on each expression of a vector in turn. -/
def visitExpressions (manifests : Constants) :
    List Expression -> Constants -> List Expression × Constants
  | [], known => ([], known)
  | first :: rest, known =>
      let firstVisit := visitExpression manifests first known
      let restVisit := visitExpressions manifests rest firstVisit.known
      (firstVisit.node :: restVisit.1, restVisit.2)

/-- `visit_stmt`. The targets of an assignment are not visited, and a `RESULTIS`
visits its expression in the context of the statement itself, so that an
expression which is replaced replaces the whole statement. -/
def visitStatement (manifests : Constants) :
    Statement -> Constants -> Statement × Constants
  | .letDeclaration names initializers, known =>
      let visit := visitExpressions manifests initializers known
      (.letDeclaration names visit.1, visit.2)
  | .assignment lhs rhs, known =>
      let visit := visitExpressions manifests rhs known
      (.assignment lhs visit.1, trackAssignment lhs visit.1 visit.2)
  | .routineCall routine arguments, known =>
      let routineVisit := visitExpression manifests routine known
      let argumentsVisit := visitExpressions manifests arguments routineVisit.known
      (.routineCall routineVisit.node argumentsVisit.1, argumentsVisit.2)
  | .ifStatement condition thenBranch, known =>
      let conditionVisit := visitExpression manifests condition known
      match evaluateBooleanConstant conditionVisit.node with
      | some true => visitStatement manifests thenBranch conditionVisit.known
      | some false => (.compound [], conditionVisit.known)
      | none =>
          let thenVisit := visitStatement manifests thenBranch conditionVisit.known
          (.ifStatement conditionVisit.node thenVisit.1, thenVisit.2)
  | .unless condition thenBranch, known =>
      let conditionVisit := visitExpression manifests condition known
      let thenVisit := visitStatement manifests thenBranch conditionVisit.known
      (.unless conditionVisit.node thenVisit.1, thenVisit.2)
  | .test condition thenBranch elseBranch, known =>
      let conditionVisit := visitExpression manifests condition known
      match evaluateBooleanConstant conditionVisit.node with
      | some true => visitStatement manifests thenBranch conditionVisit.known
      | some false => visitStatement manifests elseBranch conditionVisit.known
      | none =>
          let thenVisit := visitStatement manifests thenBranch conditionVisit.known
          let elseVisit := visitStatement manifests elseBranch thenVisit.2
          (.test conditionVisit.node thenVisit.1 elseVisit.1, elseVisit.2)
  | .whileStatement condition body, known =>
      let conditionVisit := visitExpression manifests condition known
      if evaluateBooleanConstant conditionVisit.node = some false then
        (.compound [], conditionVisit.known)
      else
        let bodyVisit := visitStatement manifests body conditionVisit.known
        (.whileStatement conditionVisit.node bodyVisit.1, bodyVisit.2)
  | .untilStatement condition body, known =>
      let conditionVisit := visitExpression manifests condition known
      let bodyVisit := visitStatement manifests body conditionVisit.known
      (.untilStatement conditionVisit.node bodyVisit.1, bodyVisit.2)
  | .repeatStatement loopType body none, known =>
      let bodyVisit := visitStatement manifests body known
      (.repeatStatement loopType bodyVisit.1 none, bodyVisit.2)
  | .repeatStatement loopType body (some condition), known =>
      let bodyVisit := visitStatement manifests body known
      let conditionVisit := visitExpression manifests condition bodyVisit.2
      (.repeatStatement loopType bodyVisit.1 (some conditionVisit.node),
        conditionVisit.known)
  | .forStatement loopVariable uniqueName startExpr endExpr none body, known =>
      let startVisit := visitExpression manifests startExpr known
      let endVisit := visitExpression manifests endExpr startVisit.known
      let bodyVisit := visitStatement manifests body endVisit.known
      (.forStatement loopVariable uniqueName startVisit.node endVisit.node none
        bodyVisit.1, bodyVisit.2)
  | .forStatement loopVariable uniqueName startExpr endExpr (some stepExpr) body,
      known =>
      let startVisit := visitExpression manifests startExpr known
      let endVisit := visitExpression manifests endExpr startVisit.known
      let stepVisit := visitExpression manifests stepExpr endVisit.known
      let bodyVisit := visitStatement manifests body stepVisit.known
      (.forStatement loopVariable uniqueName startVisit.node endVisit.node
        (some stepVisit.node) bodyVisit.1, bodyVisit.2)
  | .switchon expression cases none, known =>
      let visit := visitExpression manifests expression known
      let casesVisit := visitCases manifests cases visit.known
      (.switchon visit.node casesVisit.1 none, casesVisit.2)
  | .switchon expression cases (some defaultCase), known =>
      let visit := visitExpression manifests expression known
      let casesVisit := visitCases manifests cases visit.known
      let defaultVisit := visitStatement manifests defaultCase casesVisit.2
      (.switchon visit.node casesVisit.1 (some defaultVisit.1), defaultVisit.2)
  | .goto label, known =>
      let visit := visitExpression manifests label known
      (.goto visit.node, visit.known)
  | .resultis expression, known =>
      let visit := visitExpression manifests expression known
      if visit.replaced then (.misplacedExpression visit.node, visit.known)
      else (.resultis visit.node, visit.known)
  | .compound statements, known =>
      let visit := visitStatements manifests statements known
      (.compound visit.1, visit.2)
  | .block declarations statements, known =>
      let visit := visitStatements manifests statements known
      (.block declarations visit.1, visit.2)
  | .stringStatement size, known =>
      let visit := visitExpression manifests size known
      (.stringStatement visit.node, visit.known)
  | .free listExpr, known =>
      let visit := visitExpression manifests listExpr known
      (.free visit.node, visit.known)
  | .misplacedExpression expression, known =>
      let visit := visitExpression manifests expression known
      (.misplacedExpression visit.node, visit.known)
  | statement, known => (statement, known)

/-- `visit_stmt` on each statement of a vector in turn. -/
def visitStatements (manifests : Constants) :
    List Statement -> Constants -> List Statement × Constants
  | [], known => ([], known)
  | first :: rest, known =>
      let firstVisit := visitStatement manifests first known
      let restVisit := visitStatements manifests rest firstVisit.2
      (firstVisit.1 :: restVisit.1, restVisit.2)

/-- The rebuilding of the cases of a `SWITCHON`. -/
def visitCases (manifests : Constants) :
    List CaseStatement -> Constants -> List CaseStatement × Constants
  | [], known => ([], known)
  | .mk constantExpr resolved command :: rest, known =>
      let constantVisit := visitExpression manifests constantExpr known
      let commandVisit := visitStatement manifests command constantVisit.known
      let restVisit := visitCases manifests rest commandVisit.2
      (.mk constantVisit.node resolved commandVisit.1 :: restVisit.1, restVisit.2)

end

attribute [simp] visitExpressions visitStatement visitStatements visitCases

/-- `visit(FunctionDeclaration&)` and `visit(RoutineDeclaration&)`: the known
constants are cleared before the body is visited. -/
def visitTopLevel (manifests : Constants) :
    TopLevelDeclaration -> TopLevelDeclaration
  | .function name parameters body =>
      .function name parameters (visitExpression manifests body Constants.empty).node
  | .routine name parameters body =>
      .routine name parameters (visitStatement manifests body Constants.empty).1

end Optimizer
end NewBcpl
