import NewBcpl.LocalOptimization.BlockExecution

namespace NewBcpl
namespace LocalOptimization

open Foundations.PartialState

/-!
# The blocks that the pass may rewrite

What has to hold of a block for common subexpressions to be shared by their strings.
An expression that the pass finds available must mean what the earlier expression with
its string means, must have no effect of its own, and nothing that happens in between
may change its value. An expression that the pass moves in front of its assignment must
not be separated in that way from the right-hand sides before it, and must have the
type that the pass declares for it. The names of the temporaries must be free.
-/

/-- What happens in a block, in order: the right-hand sides of assignments are computed,
their targets receive the values, and other statements are executed. -/
inductive Step where
  | compute (expression : Expression)
  | receive (target : Expression)
  | other (statement : Statement)

/-- The steps of a statement. -/
def statementSteps : Statement -> List Step
  | .assignment lhs rhs => rhs.map .compute ++ lhs.map .receive
  | statement => [.other statement]

/-- The steps of a block. -/
def blockSteps (statements : List Statement) : List Step :=
  statements.flatMap statementSteps

/-- The value of an expression in a state. -/
def valueIn (language : Language) (expression : Expression) (state : State) :
    Option Value :=
  (language.evaluate expression state).map Prod.fst

/-- A computation does not change the value of an expression. -/
def KeepsValue {Result : Type} (language : Language) (run : Run Result)
    (expression : Expression) : Prop :=
  forall state result final, run state = some (result, final) ->
    valueIn language expression final = valueIn language expression state

namespace Step

/-- The pass gives up what is available under the text. -/
def kills (text : String) : Step -> Bool
  | receive (.variableAccess name) => mentionsVariable text name
  | _ => false

/-- A step does not change the value of an expression. -/
def Keeps (language : Language) (expression : Expression) : Step -> Prop
  | compute computed => KeepsValue language (language.evaluate computed) expression
  | receive target =>
      forall value, KeepsValue language (language.store target value) expression
  | other statement => KeepsValue language (language.execute statement) expression

end Step

/-- The value of the first expression can stand for the later one. -/
structure Reusable (language : Language) (first later : Expression)
    (between : List Step) : Prop where
  quiet : Quiet (language.evaluate first)
  sameValue : language.evaluate later = language.evaluate first
  kept : forall step, step ∈ between -> step.Keeps language first

/-- The expression has values of the type that the pass declares for its temporary. -/
def Typed (language : Language) (expression : Expression) : Prop :=
  forall state value final, language.evaluate expression state = some (value, final) ->
    value.isReal = decide (inferExpressionType expression = .float)

section Conditions

variable (floatText : Float -> String) (language : Language)

/-- Wherever a string is still available, its expression can be used again. -/
def ReusesSafely (steps : List Step) : Prop :=
  forall before first between later after,
    steps = before ++ .compute first :: (between ++ .compute later :: after) ->
      isBinaryOp first = true ->
        expressionToString floatText later = expressionToString floatText first ->
          (forall step, step ∈ between ->
            step.kills (expressionToString floatText first) = false) ->
            Reusable language first later between

/-- The common right-hand sides of an assignment may be computed in front of it. -/
def HoistsSafely (counts : String -> Nat) (rhs : List Expression) : Prop :=
  forall before expression after, rhs = before ++ expression :: after ->
    isCommon floatText counts expression = true ->
      Typed language expression ∧
        forall earlier, earlier ∈ before -> isCommon floatText counts earlier = false ->
          Commute (language.evaluate earlier) (language.evaluate expression)

/-- Sharing the common subexpressions of the block does no harm. -/
structure Harmless (statements : List Statement) : Prop where
  temporariesFree : forall counter, tempVarName counter ∉ statementsNames statements
  temporariesLocal : forall counter, language.shared (tempVarName counter) = false
  hoists : forall lhs rhs, Statement.assignment lhs rhs ∈ statements ->
    HoistsSafely floatText language (exprCounts floatText statements) rhs
  reuses : ReusesSafely floatText language (blockSteps statements)

end Conditions

/-! ## The places of reuse -/

/-- A place where the pass may use a value again. -/
structure ReuseSite where
  first : Expression
  later : Expression
  between : List Step

section Sites

variable (floatText : Float -> String)

/-- The later expressions that find the first one available, after the steps already
passed. -/
def sitesAfter (first : Expression) (passed : List Step) : List Step -> List ReuseSite
  | [] => []
  | step :: rest =>
      let text := expressionToString floatText first
      let here :=
        match step with
        | .compute later =>
            if expressionToString floatText later = text then
              [{ first := first, later := later, between := passed }]
            else []
        | _ => []
      here ++ if step.kills text then [] else sitesAfter first (passed ++ [step]) rest

/-- All places of reuse in the steps of a block. -/
def reuseSites : List Step -> List ReuseSite
  | [] => []
  | .compute first :: rest =>
      (if isBinaryOp first then sitesAfter floatText first [] rest else []) ++
        reuseSites rest
  | _ :: rest => reuseSites rest

variable {floatText}

theorem mem_sitesAfter {first later : Expression} {passed between after : List Step}
    (sameText : expressionToString floatText later = expressionToString floatText first)
    (survived : forall step, step ∈ between ->
      step.kills (expressionToString floatText first) = false) :
    { first := first, later := later, between := passed ++ between } ∈
      sitesAfter floatText first passed (between ++ .compute later :: after) := by
  induction between generalizing passed with
  | nil => simp [sitesAfter, sameText]
  | cons step between hypothesis =>
      have survives := survived step List.mem_cons_self
      have further := @hypothesis (passed ++ [step]) fun other member =>
        survived other (List.mem_cons_of_mem _ member)
      rw [List.append_assoc, List.cons_append, List.nil_append] at further
      simp only [List.cons_append, sitesAfter, survives, Bool.false_eq_true, if_false]
      exact List.mem_append_right _ further

/-- It is enough to look at the places of reuse. -/
theorem reusesSafely_of_sites {language : Language} {steps : List Step}
    (safe : forall site, site ∈ reuseSites floatText steps ->
      Reusable language site.first site.later site.between) :
    ReusesSafely floatText language steps := by
  intro before first between later after split binary sameText survived
  have isSite : ReuseSite.mk first later between ∈ reuseSites floatText steps := by
    rw [split]
    clear split safe
    induction before with
    | nil =>
        have found := @mem_sitesAfter floatText first later [] between after sameText survived
        simp only [List.nil_append, reuseSites, binary, if_true]
        exact List.mem_append_left _ found
    | cons step before hypothesis =>
        cases step with
        | compute earlier => exact List.mem_append_right _ hypothesis
        | receive target => exact hypothesis
        | other statement => exact hypothesis
  exact safe _ isSite

end Sites

end LocalOptimization
end NewBcpl
