import NewBcpl.Semantics.Execution
import NewBcpl.Optimizer.FoldedValues

namespace NewBcpl
namespace Optimizer

open Semantics Foundations.PartialState Foundations.FueledLoop

/-!
# Bodies whose recorded constants can be trusted

The pass keeps one map that follows the text of a body. The facts that hold on
every path to a point are a different thing: they are lost where two paths
disagree, where a loop comes back with another value, when a call may change a
global variable, and when a variable is the target of a multiple assignment or
of a `FOR`. A body is settled when each use of a variable whose textually last
assignment was constant is reached only with that constant. The rules below
derive this from the statements, with the recorded constants and the known
facts before and after each of them.
-/

namespace Constants

/-- Every fact of the weaker map is one of the stronger map. -/
def Implies (stronger weaker : Constants) : Prop :=
  forall name value, weaker name = some value -> stronger name = some value

/-- Recording the constant of an assigned expression, or forgetting the variable
when there is none. A truth literal is not recorded. -/
def record (name : String) (literal : Option Literal) (constants : Constants) :
    Constants :=
  match literal with
  | some (.integer value) => constants.insert name value
  | _ => constants.erase name

/-- Forgetting several variables. -/
def forget (names : List String) (constants : Constants) : Constants :=
  fun name => if name ∈ names then none else constants name

/-- The facts after a loop over a variable of its own: what was known of the
outer variable is known again. -/
def restore (name : String) (outside inside : Constants) : Constants :=
  fun other => if other = name then outside other else inside other

end Constants

/-- An expression whose reads can be trusted and whose fold is right. Under the
host's own arithmetic the latter only excludes that a product with zero discards
a call. -/
structure ExpressionSettled (manifests : Constants) (globals : String -> Bool)
    (callee : Callee) (known facts : Constants) (expression : Expression) : Prop where
  tree : IntegerTree expression
  trusted : ReadsTrusted (Constants.lookup manifests known) globals facts expression
  folds : FoldsRight OperatorMeaning.host callee (Constants.lookup manifests known)
    expression

/-- The same for a list of expressions evaluated from left to right. -/
structure AllSettled (manifests : Constants) (globals : String -> Bool)
    (callee : Callee) (known facts : Constants) (expressions : List Expression) :
    Prop where
  trees : forall expression, expression ∈ expressions -> IntegerTree expression
  trusted : AllReadsTrusted (Constants.lookup manifests known) globals facts expressions
  fold : AllFoldRight OperatorMeaning.host callee (Constants.lookup manifests known)
    expressions

/-- `Settled known facts statement known' facts'`: the statement is settled when
its text starts with the recorded constants `known` and its execution with the
facts `facts`; afterwards `known'` are recorded and `facts'` hold. -/
inductive Settled (manifests : Constants) (globals : String -> Bool) (callee : Callee) :
    Constants -> Constants -> Statement -> Constants -> Constants -> Prop where
  | assign {known facts : Constants} (name : String) {expression : Expression} :
      ExpressionSettled manifests globals callee known facts expression ->
      Settled manifests globals callee known facts
        (.assignment [.variableAccess name] [expression])
        (known.record name
          (constantLiteral (Constants.lookup manifests known) expression))
        ((afterCalls globals (mayCall (Constants.lookup manifests known) expression)
          facts).record name
          (constantLiteral (Constants.lookup manifests known) expression))
  | assignMany {known facts : Constants} {lhs rhs : List Expression}
      {names : List String} :
      targetNames lhs = some names -> ¬(lhs.length = 1 ∧ rhs.length = 1) ->
      AllSettled manifests globals callee known facts rhs ->
      Settled manifests globals callee known facts (.assignment lhs rhs) known
        ((afterCalls globals (mayCallAny (Constants.lookup manifests known) rhs)
          facts).forget names)
  | call {known facts : Constants} {name : String} {arguments : List Expression} :
      Constants.lookup manifests known name = none ->
      AllSettled manifests globals callee known facts arguments ->
      Settled manifests globals callee known facts
        (.routineCall (.variableAccess name) arguments) known
        (afterCalls globals true facts)
  | ifConstant {known facts known' facts' : Constants} {condition : Expression}
      {thenBranch : Statement} {literal : Literal} :
      ExpressionSettled manifests globals callee known facts condition ->
      constantLiteral (Constants.lookup manifests known) condition = some literal ->
      Settled manifests globals callee known facts
        (if literal.value = 0#64 then .compound [] else thenBranch) known' facts' ->
      Settled manifests globals callee known facts
        (.ifStatement condition thenBranch) known' facts'
  | ifEither {known facts known' facts' : Constants} {condition : Expression}
      {thenBranch : Statement} :
      ExpressionSettled manifests globals callee known facts condition ->
      constantLiteral (Constants.lookup manifests known) condition = none ->
      Settled manifests globals callee known
        (afterCalls globals (mayCall (Constants.lookup manifests known) condition) facts)
        thenBranch known' facts' ->
      (afterCalls globals (mayCall (Constants.lookup manifests known) condition)
        facts).Implies facts' ->
      Settled manifests globals callee known facts
        (.ifStatement condition thenBranch) known' facts'
  | unlessEither {known facts known' facts' : Constants} {condition : Expression}
      {thenBranch : Statement} :
      ExpressionSettled manifests globals callee known facts condition ->
      Settled manifests globals callee known
        (afterCalls globals (mayCall (Constants.lookup manifests known) condition) facts)
        thenBranch known' facts' ->
      (afterCalls globals (mayCall (Constants.lookup manifests known) condition)
        facts).Implies facts' ->
      Settled manifests globals callee known facts
        (.unless condition thenBranch) known' facts'
  | testConstant {known facts known' facts' : Constants} {condition : Expression}
      {thenBranch elseBranch : Statement} {literal : Literal} :
      ExpressionSettled manifests globals callee known facts condition ->
      constantLiteral (Constants.lookup manifests known) condition = some literal ->
      Settled manifests globals callee known facts
        (if literal.value = 0#64 then elseBranch else thenBranch) known' facts' ->
      Settled manifests globals callee known facts
        (.test condition thenBranch elseBranch) known' facts'
  | testEither {known facts middle known' facts' : Constants} {condition : Expression}
      {thenBranch elseBranch : Statement} :
      ExpressionSettled manifests globals callee known facts condition ->
      constantLiteral (Constants.lookup manifests known) condition = none ->
      Settled manifests globals callee known
        (afterCalls globals (mayCall (Constants.lookup manifests known) condition) facts)
        thenBranch middle facts' ->
      Settled manifests globals callee middle
        (afterCalls globals (mayCall (Constants.lookup manifests known) condition) facts)
        elseBranch known' facts' ->
      Settled manifests globals callee known facts
        (.test condition thenBranch elseBranch) known' facts'
  | whileNever {known facts : Constants} {condition : Expression} {body : Statement}
      {literal : Literal} :
      ExpressionSettled manifests globals callee known facts condition ->
      constantLiteral (Constants.lookup manifests known) condition = some literal ->
      literal.value = 0#64 ->
      Settled manifests globals callee known facts (.whileStatement condition body)
        known facts
  | whileLoop {known invariant known' : Constants} {condition : Expression}
      {body : Statement} :
      ExpressionSettled manifests globals callee known invariant condition ->
      (forall literal,
        constantLiteral (Constants.lookup manifests known) condition = some literal ->
        literal.value ≠ 0#64) ->
      Settled manifests globals callee known
        (afterCalls globals (mayCall (Constants.lookup manifests known) condition)
          invariant) body known' invariant ->
      Settled manifests globals callee known invariant (.whileStatement condition body)
        known'
        (afterCalls globals (mayCall (Constants.lookup manifests known) condition)
          invariant)
  | untilLoop {known invariant known' : Constants} {condition : Expression}
      {body : Statement} :
      ExpressionSettled manifests globals callee known invariant condition ->
      Settled manifests globals callee known
        (afterCalls globals (mayCall (Constants.lookup manifests known) condition)
          invariant) body known' invariant ->
      Settled manifests globals callee known invariant (.untilStatement condition body)
        known'
        (afterCalls globals (mayCall (Constants.lookup manifests known) condition)
          invariant)
  | repeatForever {known invariant known' facts' : Constants} {body : Statement} :
      Settled manifests globals callee known invariant body known' invariant ->
      Settled manifests globals callee known invariant
        (.repeatStatement .repeatForever body none) known' facts'
  | repeatTested {known invariant known' middle : Constants} {loopType : LoopType}
      {condition : Expression} {body : Statement} :
      loopType ≠ .repeatForever ->
      Settled manifests globals callee known invariant body known' middle ->
      ExpressionSettled manifests globals callee known' middle condition ->
      (afterCalls globals (mayCall (Constants.lookup manifests known') condition)
        middle).Implies invariant ->
      Settled manifests globals callee known invariant
        (.repeatStatement loopType body (some condition)) known'
        (afterCalls globals (mayCall (Constants.lookup manifests known') condition)
          middle)
  | forLoop {known facts invariant known' final : Constants} {name uniqueName : String}
      {startExpr endExpr : Expression} {body : Statement} :
      AllSettled manifests globals callee known facts [startExpr, endExpr] ->
      ((afterCalls globals (mayCallAny (Constants.lookup manifests known)
        [startExpr, endExpr]) facts).erase name).Implies invariant ->
      Settled manifests globals callee known invariant body known' final ->
      (final.erase name).Implies invariant ->
      Settled manifests globals callee known facts
        (.forStatement name uniqueName startExpr endExpr none body) known'
        (Constants.restore name
          (afterCalls globals (mayCallAny (Constants.lookup manifests known)
            [startExpr, endExpr]) facts) invariant)
  | forStepLoop {known facts invariant known' final : Constants}
      {name uniqueName : String} {startExpr endExpr stepExpr : Expression}
      {body : Statement} :
      AllSettled manifests globals callee known facts [startExpr, endExpr, stepExpr] ->
      ((afterCalls globals (mayCallAny (Constants.lookup manifests known)
        [startExpr, endExpr, stepExpr]) facts).erase name).Implies invariant ->
      Settled manifests globals callee known invariant body known' final ->
      (final.erase name).Implies invariant ->
      Settled manifests globals callee known facts
        (.forStatement name uniqueName startExpr endExpr (some stepExpr) body) known'
        (Constants.restore name
          (afterCalls globals (mayCallAny (Constants.lookup manifests known)
            [startExpr, endExpr, stepExpr]) facts) invariant)
  | nil {known facts : Constants} :
      Settled manifests globals callee known facts (.compound []) known facts
  | cons {known facts middle middleFacts known' facts' : Constants}
      {first : Statement} {rest : List Statement} :
      Settled manifests globals callee known facts first middle middleFacts ->
      Settled manifests globals callee middle middleFacts (.compound rest) known' facts' ->
      Settled manifests globals callee known facts (.compound (first :: rest)) known'
        facts'
  | weaken {known stronger facts known' facts' weaker : Constants}
      {statement : Statement} :
      stronger.Implies facts ->
      Settled manifests globals callee known facts statement known' facts' ->
      facts'.Implies weaker ->
      Settled manifests globals callee known stronger statement known' weaker

end Optimizer
end NewBcpl
