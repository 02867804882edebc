import NewBcpl.Optimizer.SettledBodies

namespace NewBcpl
namespace Optimizer

open Semantics Foundations.PartialState Foundations.FueledLoop

/-!
# A settled body runs as written after folding

One lemma for each kind of statement says how the folded statement runs when the
parts of the statement do, under the facts that hold where the parts start. The
run lemma is the induction over the derivation that the body is settled. The
arithmetic is that of the fold itself, so that only the flow of the constants is
at stake here.
-/

section Assertions

variable {facts : Constants} {state : State}

theorem known_implies {stronger weaker : Constants} (implies : stronger.Implies weaker)
    (known : Known stronger state) : Known weaker state :=
  fun name value found => known name value (implies name value found)

/-- Assigning a variable leaves the facts about the others. -/
theorem known_erase (name : String) (value : Word) (known : Known facts state) :
    Known (facts.erase name) (state.assign name value) := by
  intro other recorded found
  unfold Constants.erase at found
  split at found
  · cases found
  · rename_i different
    simp only [State.assign, if_neg different]
    exact known other recorded found

theorem known_insert (name : String) (value : Word) (known : Known facts state) :
    Known (facts.insert name value) (state.assign name value) := by
  intro other recorded found
  unfold Constants.insert at found
  split at found
  · rename_i same
    simp only [State.assign, if_pos same]
    exact Option.some.inj found
  · rename_i different
    simp only [State.assign, if_neg different]
    exact known other recorded found

/-- Assigning several variables leaves the facts about the others. -/
theorem known_forget (names : List String) (values : List Word)
    (known : Known facts state) :
    Known (facts.forget names) (state.assignAll names values) := by
  induction names generalizing facts state values with
  | nil =>
      refine known_implies (fun name value found => ?_) known
      simpa [Constants.forget] using found
  | cons first rest ih =>
      cases values with
      | nil =>
          refine known_implies (fun name value found => ?_) known
          unfold Constants.forget at found
          split at found
          · cases found
          · exact found
      | cons value values =>
          refine known_implies (fun name recorded found => ?_)
            (ih values (known_erase first value known))
          unfold Constants.forget at found ⊢
          unfold Constants.erase
          split at found
          · cases found
          · rename_i absent
            rw [List.mem_cons, not_or] at absent
            rw [if_neg absent.2, if_neg absent.1]
            exact found

end Assertions

section Commands

variable {before middle after : State -> Prop} {first firstOther : Evaluation}

theorem testing_agree (expected : Bool) (agree : Agree before first firstOther) :
    Agree before (testing first expected) (testing firstOther expected) := by
  intro state holds
  simp only [testing, andThen, agree state holds]

theorem testing_leads (expected : Bool) (leads : Leads before first after) :
    Leads before (testing first expected) after :=
  Leads.andThen leads fun _ => Leads.give

theorem branch_same {whenTrue whenTrueOther whenFalse whenFalseOther : Command State}
    (agree : Agree before first firstOther) (leads : Leads before firstOther middle)
    (sameTrue : Same middle whenTrue whenTrueOther)
    (sameFalse : Same middle whenFalse whenFalseOther) :
    Same before (branch first whenTrue whenFalse)
      (branch firstOther whenTrueOther whenFalseOther) := by
  refine Same.computing agree leads fun value => ?_
  by_cases zero : value = 0#64
  · rw [if_pos zero, if_pos zero]
    exact sameFalse
  · rw [if_neg zero, if_neg zero]
    exact sameTrue

theorem branch_reaches {whenTrue whenFalse : Command State}
    (leads : Leads before first middle) (reachesTrue : Reaches middle whenTrue after)
    (reachesFalse : Reaches middle whenFalse after) :
    Reaches before (branch first whenTrue whenFalse) after := by
  refine Reaches.computing leads fun value => ?_
  by_cases zero : value = 0#64
  · rw [if_pos zero]
    exact reachesFalse
  · rw [if_neg zero]
    exact reachesTrue

end Commands

section Rounds

variable {facts invariant final : Constants} {name : String} {body bodyOther : Command State}

/-- A round keeps an invariant that says nothing about the loop variable. -/
private theorem forRound_reaches (step : Word)
    (reaches : Reaches (Known invariant) body (Known final))
    (keeps : (final.erase name).Implies invariant) :
    Reaches (Known invariant) (forRound name step body) (Known invariant) := by
  refine Reaches.sequence reaches fun state reached holds finished => ?_
  cases finished
  exact known_implies keeps (known_erase name _ holds)

private theorem boundTest_leads (name : String) (last step : Word) :
    Leads (Known invariant) (boundTest name last step) (Known invariant) := by
  intro state result reached holds equal
  simp only [boundTest, Option.some.injEq, Prod.mk.injEq] at equal
  rw [<- equal.2]
  exact holds

theorem forRounds_same (fuel : Nat) (start last step : Word)
    (enters : (facts.erase name).Implies invariant)
    (same : Same (Known invariant) body bodyOther)
    (reaches : Reaches (Known invariant) bodyOther (Known final))
    (keeps : (final.erase name).Implies invariant) :
    Same (Known facts) (forRounds fuel name start last step body)
      (forRounds fuel name start last step bodyOther) := by
  intro state holds
  have entered : Known invariant (state.assign name start) :=
    known_implies enters (known_erase name start holds)
  have rounds : Same (Known invariant)
      (iterate (boundTest name last step) (forRound name step body) fuel)
      (iterate (boundTest name last step) (forRound name step bodyOther) fuel) :=
    Same.iterate (Agree.refl _) (boundTest_leads name last step)
      (Same.sequence same reaches (Same.refl _)) (forRound_reaches step reaches keeps) fuel
  simp only [forRounds, Foundations.FueledLoop.sequence, rounds _ entered]

/-- After the loop the outer variable has the value that it had before, and the
invariant holds of the others. -/
theorem forRounds_reaches (fuel : Nat) (start last step : Word)
    (enters : (facts.erase name).Implies invariant)
    (reaches : Reaches (Known invariant) body (Known final))
    (keeps : (final.erase name).Implies invariant) :
    Reaches (Known facts) (forRounds fuel name start last step body)
      (Known (Constants.restore name facts invariant)) := by
  intro state ended holds finished
  have entered : Known invariant (state.assign name start) :=
    known_implies enters (known_erase name start holds)
  have rounds : Reaches (Known invariant)
      (iterate (boundTest name last step) (forRound name step body) fuel)
      (Known invariant) :=
    Reaches.iterate (boundTest_leads name last step)
      (forRound_reaches step reaches keeps) fuel
  have closes : Reaches (Known invariant)
      (fun inner => .finished (inner.assign name (state.environment name)))
      (Known (Constants.restore name facts invariant)) := by
    intro inner closed known equal
    cases equal
    intro other value found
    unfold Constants.restore at found
    split at found
    · rename_i same
      rw [same] at found ⊢
      simp only [State.assign, if_pos]
      exact holds name value found
    · rename_i different
      simp only [State.assign, if_neg different]
      exact known other value found
  exact Reaches.sequence rounds closes _ ended entered finished

end Rounds

/-- How the visit leaves a settled statement: the constants it records, the
outcome of the folded statement under the facts before it, and the facts after
it, for every fuel. -/
structure FoldedStatement (manifests : Constants) (callee : Callee)
    (known facts : Constants) (statement : Statement) (known' facts' : Constants) :
    Prop where
  known_eq : (visitStatement manifests statement known).2 = known'
  same : forall fuel, Same (Known facts)
    (execute OperatorMeaning.host callee fuel
      (visitStatement manifests statement known).1)
    (execute OperatorMeaning.host callee fuel statement)
  reaches : forall fuel, Reaches (Known facts)
    (execute OperatorMeaning.host callee fuel statement) (Known facts')

section Expressions

variable {manifests known facts : Constants} {globals : String -> Bool} {callee : Callee}

theorem ExpressionSettled.visit {expression : Expression}
    (settled : ExpressionSettled manifests globals callee known facts expression) :
    VisitOfTree manifests known expression :=
  visitExpression_tree manifests known settled.tree settled.trusted

theorem ExpressionSettled.folded (changes : callee.ChangesOnly globals)
    {expression : Expression}
    (settled : ExpressionSettled manifests globals callee known facts expression) :
    FoldedTree OperatorMeaning.host callee globals manifests known facts expression :=
  visitExpression_folded host_identityLaws changes settled.tree settled.trusted
    settled.folds

/-- A condition that the pass finds constant, as the pass sees it. -/
theorem ExpressionSettled.truth {expression : Expression}
    (settled : ExpressionSettled manifests globals callee known facts expression) :
    evaluateBooleanConstant (visitExpression manifests expression known).node =
      (constantLiteral (Constants.lookup manifests known) expression).map
        fun literal => literal.value != 0#64 := by
  rw [evaluateBooleanConstant_eq settled.visit.tree, settled.visit.literal]

theorem AllSettled.visit {expressions : List Expression}
    (settled : AllSettled manifests globals callee known facts expressions)
    {expression : Expression} (member : expression ∈ expressions) :
    VisitOfTree manifests known expression := by
  rcases allReadsTrusted_member settled.trusted member with ⟨own, trusted⟩
  exact visitExpression_tree manifests known (settled.trees expression member) trusted

theorem AllSettled.visits {expressions : List Expression}
    (settled : AllSettled manifests globals callee known facts expressions) :
    visitExpressions manifests expressions known =
      (expressions.map fun expression =>
        (visitExpression manifests expression known).node, known) :=
  visitExpressions_trees manifests known fun _ => settled.visit

theorem AllSettled.folded (changes : callee.ChangesOnly globals)
    {expressions : List Expression}
    (settled : AllSettled manifests globals callee known facts expressions) :
    Agree (Known facts)
        (evaluateArguments OperatorMeaning.host callee
          (expressions.map fun expression =>
            (visitExpression manifests expression known).node))
        (evaluateArguments OperatorMeaning.host callee expressions) ∧
      Leads (Known facts) (evaluateArguments OperatorMeaning.host callee expressions)
        (Known (afterCalls globals
          (mayCallAny (Constants.lookup manifests known) expressions) facts)) :=
  evaluateArguments_folded
    (fun argument _ member trusted folds =>
      visitExpression_folded host_identityLaws changes (settled.trees argument member)
        trusted folds)
    settled.trusted settled.fold

end Expressions

section Statements

variable {manifests known facts known' facts' : Constants} {globals : String -> Bool}
  {callee : Callee}

/-- What an assignment records of its folded right-hand side. -/
theorem trackAssignment_record (name : String) {node : Expression} :
    trackAssignment [.variableAccess name] [node] known =
      known.record name (literalOf node) := by
  cases node <;> rfl

theorem trackAssignment_many {lhs rhs : List Expression}
    (many : ¬(lhs.length = 1 ∧ rhs.length = 1)) : trackAssignment lhs rhs known = known := by
  unfold trackAssignment
  split
  · exact absurd ⟨rfl, rfl⟩ many
  · exact absurd ⟨rfl, rfl⟩ many
  · rfl

theorem FoldedStatement.assign (changes : callee.ChangesOnly globals) (name : String)
    {expression : Expression}
    (settled : ExpressionSettled manifests globals callee known facts expression) :
    FoldedStatement manifests callee known facts
      (.assignment [.variableAccess name] [expression])
      (known.record name (constantLiteral (Constants.lookup manifests known) expression))
      ((afterCalls globals (mayCall (Constants.lookup manifests known) expression)
        facts).record name
        (constantLiteral (Constants.lookup manifests known) expression)) := by
  have visit := settled.visit
  have folded := settled.folded changes
  have visited : visitStatement manifests
      (.assignment [.variableAccess name] [expression]) known =
      (.assignment [.variableAccess name] [(visitExpression manifests expression known).node],
        known.record name
          (constantLiteral (Constants.lookup manifests known) expression)) := by
    simp only [visitStatement, visitExpressions, visit.known_eq, trackAssignment_record,
      visit.literal]
  have runs (other : Expression) (fuel : Nat) :
      execute OperatorMeaning.host callee fuel
          (.assignment [.variableAccess name] [other]) =
        computing (evaluate OperatorMeaning.host callee other)
          (fun value middle => .finished (middle.assign name value)) := by
    funext state
    simp only [execute, targetNames, Option.map_some, computing, evaluateArguments, andThen]
    cases evaluate OperatorMeaning.host callee other state with
    | none => rfl
    | some pair => rfl
  constructor
  · rw [visited]
  · intro fuel
    rw [visited, runs, runs]
    exact Same.computing folded.agree folded.leads fun _ => Same.refl _
  · intro fuel
    rw [runs]
    intro state final holds finished
    simp only [computing] at finished
    cases step : evaluate OperatorMeaning.host callee expression state with
    | none =>
        rw [step] at finished
        cases finished
    | some pair =>
        rw [step] at finished
        cases finished
        have reached := folded.leads state pair.1 pair.2 holds step
        cases constant :
            constantLiteral (Constants.lookup manifests known) expression with
        | none => exact known_erase name pair.1 reached
        | some literal =>
            cases literal with
            | boolean truth => exact known_erase name pair.1 reached
            | integer value =>
                have result := (folded.constant visit constant holds).1
                rw [step] at result
                cases result
                exact known_insert name value reached

theorem FoldedStatement.assignMany (changes : callee.ChangesOnly globals)
    {lhs rhs : List Expression} {names : List String}
    (targets : targetNames lhs = some names)
    (many : ¬(lhs.length = 1 ∧ rhs.length = 1))
    (settled : AllSettled manifests globals callee known facts rhs) :
    FoldedStatement manifests callee known facts (.assignment lhs rhs) known
      ((afterCalls globals (mayCallAny (Constants.lookup manifests known) rhs)
        facts).forget names) := by
  have folded := settled.folded changes
  have visited : visitStatement manifests (.assignment lhs rhs) known =
      (.assignment lhs (rhs.map fun expression =>
        (visitExpression manifests expression known).node), known) := by
    simp only [visitStatement, settled.visits]
    rw [trackAssignment_many (by rw [List.length_map]; exact many)]
  have runs (others : List Expression) (fuel : Nat) :
      execute OperatorMeaning.host callee fuel (.assignment lhs others) =
        computing (evaluateArguments OperatorMeaning.host callee others)
          (fun values middle => .finished (middle.assignAll names values)) := by
    funext state
    simp only [execute, targets]
  constructor
  · rw [visited]
  · intro fuel
    rw [visited, runs, runs]
    exact Same.computing folded.1 folded.2 fun _ => Same.refl _
  · intro fuel
    rw [runs]
    refine Reaches.computing folded.2 fun values state final holds finished => ?_
    cases finished
    exact known_forget names values holds

theorem FoldedStatement.call (changes : callee.ChangesOnly globals) {name : String}
    {arguments : List Expression}
    (unrecorded : Constants.lookup manifests known name = none)
    (settled : AllSettled manifests globals callee known facts arguments) :
    FoldedStatement manifests callee known facts
      (.routineCall (.variableAccess name) arguments) known
      (afterCalls globals true facts) := by
  have folded := settled.folded changes
  have visited : visitStatement manifests
      (.routineCall (.variableAccess name) arguments) known =
      (.routineCall (.variableAccess name) (arguments.map fun argument =>
        (visitExpression manifests argument known).node), known) := by
    simp only [visitStatement, visitExpression, unrecorded, Option.map_none,
      ExpressionVisit.orKept, ExpressionVisit.kept, settled.visits]
  have runs (others : List Expression) (fuel : Nat) :
      execute OperatorMeaning.host callee fuel
          (.routineCall (.variableAccess name) others) =
        computing (evaluateArguments OperatorMeaning.host callee others)
          (fun values middle => .finished (callee.call name values middle).2) := by
    funext state
    simp only [execute]
  constructor
  · rw [visited]
  · intro fuel
    rw [visited, runs, runs]
    exact Same.computing folded.1 folded.2 fun _ => Same.refl _
  · intro fuel
    rw [runs]
    refine Reaches.computing folded.2 fun values state final holds finished => ?_
    cases finished
    exact known_call changes name values holds

theorem execute_nothing (fuel : Nat) :
    execute OperatorMeaning.host callee fuel (.compound []) = .finished := by
  funext state
  simp only [execute, executeAll]

section Conditions

variable {condition : Expression} (changes : callee.ChangesOnly globals)
variable (settled : ExpressionSettled manifests globals callee known facts condition)

include changes settled

/-- A condition with a constant chooses its branch in the same state. -/
theorem branch_constant {literal : Literal}
    (constant : constantLiteral (Constants.lookup manifests known) condition =
      some literal)
    (whenTrue whenFalse : Command State) :
    Same (Known facts)
      (branch (evaluate OperatorMeaning.host callee condition) whenTrue whenFalse)
      (if literal.value = 0#64 then whenFalse else whenTrue) := by
  intro state holds
  have value := ((settled.folded changes).constant settled.visit constant holds).1
  simp only [branch, computing, value]
  by_cases zero : literal.value = 0#64
  · rw [if_pos ((meant_zero host_identityLaws).mp zero), if_pos zero]
  · rw [if_neg (fun meantZero => zero ((meant_zero host_identityLaws).mpr meantZero)),
      if_neg zero]

theorem FoldedStatement.ifConstant {thenBranch : Statement} {literal : Literal}
    (constant : constantLiteral (Constants.lookup manifests known) condition =
      some literal)
    (chosen : FoldedStatement manifests callee known facts
      (if literal.value = 0#64 then .compound [] else thenBranch) known' facts') :
    FoldedStatement manifests callee known facts (.ifStatement condition thenBranch)
      known' facts' := by
  have visited : visitStatement manifests (.ifStatement condition thenBranch) known =
      visitStatement manifests
        (if literal.value = 0#64 then .compound [] else thenBranch) known := by
    have truth := settled.truth
    rw [constant, Option.map_some] at truth
    simp only [visitStatement, truth, settled.visit.known_eq]
    by_cases zero : literal.value = 0#64
    · simp [zero, visitStatement, visitStatements]
    · have nonzero : (literal.value != 0#64) = true := bne_iff_ne.mpr zero
      rw [nonzero, if_neg zero]
  have runs (fuel : Nat) : Same (Known facts)
      (execute OperatorMeaning.host callee fuel (.ifStatement condition thenBranch))
      (execute OperatorMeaning.host callee fuel
        (if literal.value = 0#64 then .compound [] else thenBranch)) := by
    intro state holds
    simp only [execute]
    rw [branch_constant changes settled constant _ _ state holds]
    by_cases zero : literal.value = 0#64
    · rw [if_pos zero, if_pos zero, execute_nothing]
    · rw [if_neg zero, if_neg zero]
  constructor
  · rw [visited]
    exact chosen.known_eq
  · intro fuel state holds
    rw [visited, runs fuel state holds]
    exact chosen.same fuel state holds
  · intro fuel state final holds finished
    rw [runs fuel state holds] at finished
    exact chosen.reaches fuel state final holds finished

theorem FoldedStatement.testConstant {thenBranch elseBranch : Statement} {literal : Literal}
    (constant : constantLiteral (Constants.lookup manifests known) condition =
      some literal)
    (chosen : FoldedStatement manifests callee known facts
      (if literal.value = 0#64 then elseBranch else thenBranch) known' facts') :
    FoldedStatement manifests callee known facts (.test condition thenBranch elseBranch)
      known' facts' := by
  have visited : visitStatement manifests (.test condition thenBranch elseBranch) known =
      visitStatement manifests
        (if literal.value = 0#64 then elseBranch else thenBranch) known := by
    have truth := settled.truth
    rw [constant, Option.map_some] at truth
    simp only [visitStatement, truth, settled.visit.known_eq]
    by_cases zero : literal.value = 0#64
    · simp [zero]
    · have nonzero : (literal.value != 0#64) = true := bne_iff_ne.mpr zero
      rw [nonzero, if_neg zero]
  have runs (fuel : Nat) : Same (Known facts)
      (execute OperatorMeaning.host callee fuel (.test condition thenBranch elseBranch))
      (execute OperatorMeaning.host callee fuel
        (if literal.value = 0#64 then elseBranch else thenBranch)) := by
    intro state holds
    simp only [execute]
    rw [branch_constant changes settled constant _ _ state holds]
    by_cases zero : literal.value = 0#64
    · rw [if_pos zero, if_pos zero]
    · rw [if_neg zero, if_neg zero]
  constructor
  · rw [visited]
    exact chosen.known_eq
  · intro fuel state holds
    rw [visited, runs fuel state holds]
    exact chosen.same fuel state holds
  · intro fuel state final holds finished
    rw [runs fuel state holds] at finished
    exact chosen.reaches fuel state final holds finished

theorem FoldedStatement.ifEither {thenBranch : Statement}
    (unknown : constantLiteral (Constants.lookup manifests known) condition = none)
    (whenTrue : FoldedStatement manifests callee known
      (afterCalls globals (mayCall (Constants.lookup manifests known) condition) facts)
      thenBranch known' facts')
    (whenFalse : (afterCalls globals
      (mayCall (Constants.lookup manifests known) condition) facts).Implies facts') :
    FoldedStatement manifests callee known facts (.ifStatement condition thenBranch)
      known' facts' := by
  have folded := settled.folded changes
  have truth := settled.truth
  rw [unknown, Option.map_none] at truth
  have visited : visitStatement manifests (.ifStatement condition thenBranch) known =
      (.ifStatement (visitExpression manifests condition known).node
        (visitStatement manifests thenBranch known).1,
        (visitStatement manifests thenBranch known).2) := by
    simp only [visitStatement, truth, settled.visit.known_eq]
  constructor
  · rw [visited]
    exact whenTrue.known_eq
  · intro fuel state holds
    rw [visited]
    simp only [execute]
    exact branch_same folded.agree folded.leads (whenTrue.same fuel) (Same.refl _) state
      holds
  · intro fuel state final holds finished
    simp only [execute] at finished
    exact branch_reaches folded.leads (whenTrue.reaches fuel)
      (Reaches.finished.weaken fun _ => known_implies whenFalse) state final holds finished

theorem FoldedStatement.unlessEither {thenBranch : Statement}
    (whenFalse : FoldedStatement manifests callee known
      (afterCalls globals (mayCall (Constants.lookup manifests known) condition) facts)
      thenBranch known' facts')
    (whenTrue : (afterCalls globals
      (mayCall (Constants.lookup manifests known) condition) facts).Implies facts') :
    FoldedStatement manifests callee known facts (.unless condition thenBranch)
      known' facts' := by
  have folded := settled.folded changes
  have visited : visitStatement manifests (.unless condition thenBranch) known =
      (.unless (visitExpression manifests condition known).node
        (visitStatement manifests thenBranch known).1,
        (visitStatement manifests thenBranch known).2) := by
    simp only [visitStatement, settled.visit.known_eq]
  constructor
  · rw [visited]
    exact whenFalse.known_eq
  · intro fuel state holds
    rw [visited]
    simp only [execute]
    exact branch_same folded.agree folded.leads (Same.refl _) (whenFalse.same fuel) state
      holds
  · intro fuel state final holds finished
    simp only [execute] at finished
    exact branch_reaches folded.leads
      (Reaches.finished.weaken fun _ => known_implies whenTrue)
      (whenFalse.reaches fuel) state final holds finished

theorem FoldedStatement.testEither {thenBranch elseBranch : Statement} {middle : Constants}
    (unknown : constantLiteral (Constants.lookup manifests known) condition = none)
    (whenTrue : FoldedStatement manifests callee known
      (afterCalls globals (mayCall (Constants.lookup manifests known) condition) facts)
      thenBranch middle facts')
    (whenFalse : FoldedStatement manifests callee middle
      (afterCalls globals (mayCall (Constants.lookup manifests known) condition) facts)
      elseBranch known' facts') :
    FoldedStatement manifests callee known facts (.test condition thenBranch elseBranch)
      known' facts' := by
  have folded := settled.folded changes
  have truth := settled.truth
  rw [unknown, Option.map_none] at truth
  have visited : visitStatement manifests (.test condition thenBranch elseBranch) known =
      (.test (visitExpression manifests condition known).node
        (visitStatement manifests thenBranch known).1
        (visitStatement manifests elseBranch middle).1,
        (visitStatement manifests elseBranch middle).2) := by
    simp only [visitStatement, truth, settled.visit.known_eq, whenTrue.known_eq]
  constructor
  · rw [visited]
    exact whenFalse.known_eq
  · intro fuel state holds
    rw [visited]
    simp only [execute]
    exact branch_same folded.agree folded.leads (whenTrue.same fuel) (whenFalse.same fuel)
      state holds
  · intro fuel state final holds finished
    simp only [execute] at finished
    exact branch_reaches folded.leads (whenTrue.reaches fuel) (whenFalse.reaches fuel)
      state final holds finished

theorem FoldedStatement.whileNever {body : Statement} {literal : Literal}
    (constant : constantLiteral (Constants.lookup manifests known) condition =
      some literal)
    (zero : literal.value = 0#64) :
    FoldedStatement manifests callee known facts (.whileStatement condition body)
      known facts := by
  have visited : visitStatement manifests (.whileStatement condition body) known =
      (.compound [], known) := by
    have truth := settled.truth
    rw [constant, Option.map_some] at truth
    simp [visitStatement, truth, zero, settled.visit.known_eq]
  have runs (fuel : Nat) : Same (Known facts)
      (execute OperatorMeaning.host callee fuel (.whileStatement condition body))
      Outcome.finished := by
    intro state holds
    have value := ((settled.folded changes).constant settled.visit constant holds).1
    simp only [execute]
    apply iterate_exit
    simp only [testing, andThen, value, (meant_zero host_identityLaws).mp zero]
    rfl
  constructor
  · rw [visited]
  · intro fuel state holds
    rw [visited, execute_nothing, runs fuel state holds]
  · intro fuel state final holds finished
    rw [runs fuel state holds] at finished
    cases finished
    exact holds

theorem FoldedStatement.whileLoop {body : Statement}
    (entered : forall literal,
      constantLiteral (Constants.lookup manifests known) condition = some literal ->
      literal.value ≠ 0#64)
    (round : FoldedStatement manifests callee known
      (afterCalls globals (mayCall (Constants.lookup manifests known) condition) facts)
      body known' facts) :
    FoldedStatement manifests callee known facts (.whileStatement condition body) known'
      (afterCalls globals (mayCall (Constants.lookup manifests known) condition)
        facts) := by
  have folded := settled.folded changes
  have visited : visitStatement manifests (.whileStatement condition body) known =
      (.whileStatement (visitExpression manifests condition known).node
        (visitStatement manifests body known).1,
        (visitStatement manifests body known).2) := by
    have notNever : ¬ evaluateBooleanConstant
        (visitExpression manifests condition known).node = some false := by
      rw [settled.truth]
      intro never
      rcases Option.map_eq_some_iff.mp never with ⟨literal, constant, isFalse⟩
      exact entered literal constant (by simpa using isFalse)
    simp only [visitStatement, if_neg notNever, settled.visit.known_eq]
  constructor
  · rw [visited]
    exact round.known_eq
  · intro fuel state holds
    rw [visited]
    simp only [execute]
    exact Same.iterate (testing_agree true folded.agree) (testing_leads true folded.leads)
      (round.same fuel) (round.reaches fuel) fuel state holds
  · intro fuel state final holds finished
    simp only [execute] at finished
    exact Reaches.iterate (testing_leads true folded.leads) (round.reaches fuel) fuel
      state final holds finished

theorem FoldedStatement.untilLoop {body : Statement}
    (round : FoldedStatement manifests callee known
      (afterCalls globals (mayCall (Constants.lookup manifests known) condition) facts)
      body known' facts) :
    FoldedStatement manifests callee known facts (.untilStatement condition body) known'
      (afterCalls globals (mayCall (Constants.lookup manifests known) condition)
        facts) := by
  have folded := settled.folded changes
  have visited : visitStatement manifests (.untilStatement condition body) known =
      (.untilStatement (visitExpression manifests condition known).node
        (visitStatement manifests body known).1,
        (visitStatement manifests body known).2) := by
    simp only [visitStatement, settled.visit.known_eq]
  constructor
  · rw [visited]
    exact round.known_eq
  · intro fuel state holds
    rw [visited]
    simp only [execute]
    exact Same.iterate (testing_agree false folded.agree)
      (testing_leads false folded.leads) (round.same fuel) (round.reaches fuel) fuel
      state holds
  · intro fuel state final holds finished
    simp only [execute] at finished
    exact Reaches.iterate (testing_leads false folded.leads) (round.reaches fuel) fuel
      state final holds finished

end Conditions

/-- A loop that never tests never finishes. -/
theorem iterate_forever {before : State -> Prop} (body : Command State) (fuel : Nat) :
    Reaches before (iterate (give true) body fuel) fun _ => False := by
  have rounds : Reaches (fun _ => True) (iterate (give true) body fuel)
      fun _ => False := by
    induction fuel with
    | zero =>
        exact Reaches.sequence (fun _ _ _ _ => trivial : Reaches _ body fun _ => True)
          Reaches.unfinished
    | succ fuel ih =>
        exact Reaches.sequence (fun _ _ _ _ => trivial : Reaches _ body fun _ => True) ih
  exact fun state final _ => rounds state final trivial

theorem FoldedStatement.repeatForever {body : Statement}
    (round : FoldedStatement manifests callee known facts body known' facts) :
    FoldedStatement manifests callee known facts
      (.repeatStatement .repeatForever body none) known' facts' := by
  constructor
  · exact round.known_eq
  · intro fuel state holds
    simp only [visitStatement, execute]
    exact Same.iterate (Agree.refl _) (@Leads.give _ _ _ true) (round.same fuel)
      (round.reaches fuel) fuel state holds
  · intro fuel state final holds finished
    simp only [execute] at finished
    exact (iterate_forever _ fuel state final holds finished).elim

/-- A `REPEAT` with a condition: the first round, and a loop that tests. -/
theorem execute_repeatTested {loopType : LoopType} (tested : loopType ≠ .repeatForever)
    (condition : Expression) (body : Statement) (fuel : Nat) :
    execute OperatorMeaning.host callee fuel
        (.repeatStatement loopType body (some condition)) =
      sequence (execute OperatorMeaning.host callee fuel body)
        (iterate (testing (evaluate OperatorMeaning.host callee condition)
            (loopType == .repeatWhile))
          (execute OperatorMeaning.host callee fuel body) fuel) := by
  funext state
  cases loopType with
  | repeatForever => exact absurd rfl tested
  | repeatWhile => simp only [execute]; rfl
  | repeatUntil => simp only [execute]; rfl

theorem FoldedStatement.repeatTested (changes : callee.ChangesOnly globals)
    {loopType : LoopType} {condition : Expression} {body : Statement} {middle : Constants}
    (tested : loopType ≠ .repeatForever)
    (round : FoldedStatement manifests callee known facts body known' middle)
    (settled : ExpressionSettled manifests globals callee known' middle condition)
    (keeps : (afterCalls globals (mayCall (Constants.lookup manifests known') condition)
      middle).Implies facts) :
    FoldedStatement manifests callee known facts
      (.repeatStatement loopType body (some condition)) known'
      (afterCalls globals (mayCall (Constants.lookup manifests known') condition)
        middle) := by
  have folded := settled.folded changes
  have visited : visitStatement manifests
      (.repeatStatement loopType body (some condition)) known =
      (.repeatStatement loopType (visitStatement manifests body known).1
        (some (visitExpression manifests condition known').node), known') := by
    simp only [visitStatement, round.known_eq, settled.visit.known_eq]
  constructor
  · rw [visited]
  · intro fuel state holds
    rw [visited, execute_repeatTested tested, execute_repeatTested tested]
    -- The loop starts after the first round, and the facts there are its invariant.
    refine Same.sequence (round.same fuel) (round.reaches fuel) ?_ state holds
    refine Same.iterate (testing_agree _ folded.agree) (testing_leads _ folded.leads)
      (fun inner known => round.same fuel inner (known_implies keeps known))
      (fun inner final known => round.reaches fuel inner final (known_implies keeps known))
      fuel
  · intro fuel state final holds finished
    rw [execute_repeatTested tested] at finished
    refine Reaches.sequence (round.reaches fuel) ?_ state final holds finished
    exact Reaches.iterate (testing_leads _ folded.leads)
      (fun inner final known => round.reaches fuel inner final (known_implies keeps known))
      fuel

/-- A `FOR` without a step: its bounds are evaluated as a list. -/
theorem execute_forLoop (name uniqueName : String) (startExpr endExpr : Expression)
    (body : Statement) (fuel : Nat) :
    execute OperatorMeaning.host callee fuel
        (.forStatement name uniqueName startExpr endExpr none body) =
      computing (evaluateArguments OperatorMeaning.host callee [startExpr, endExpr])
        (fun values => match values with
          | [first, last] => forRounds fuel name first last 1#64
              (execute OperatorMeaning.host callee fuel body)
          | _ => fun _ => .stuck) := by
  funext state
  simp only [execute, computing, evaluateArguments, andThen]
  cases evaluate OperatorMeaning.host callee startExpr state with
  | none => rfl
  | some start =>
      cases endStep : evaluate OperatorMeaning.host callee endExpr start.2 with
      | none => simp only [endStep]
      | some last => simp only [endStep, give]

/-- A `FOR` with a step. -/
theorem execute_forStepLoop (name uniqueName : String)
    (startExpr endExpr stepExpr : Expression) (body : Statement) (fuel : Nat) :
    execute OperatorMeaning.host callee fuel
        (.forStatement name uniqueName startExpr endExpr (some stepExpr) body) =
      computing (evaluateArguments OperatorMeaning.host callee
          [startExpr, endExpr, stepExpr])
        (fun values => match values with
          | [first, last, step] => forRounds fuel name first last step
              (execute OperatorMeaning.host callee fuel body)
          | _ => fun _ => .stuck) := by
  funext state
  simp only [execute, computing, evaluateArguments, andThen]
  cases evaluate OperatorMeaning.host callee startExpr state with
  | none => rfl
  | some start =>
      cases endStep : evaluate OperatorMeaning.host callee endExpr start.2 with
      | none => simp only [endStep]
      | some last =>
          cases stepStep : evaluate OperatorMeaning.host callee stepExpr last.2 with
          | none => simp only [endStep, stepStep]
          | some step => simp only [endStep, stepStep, give]

theorem FoldedStatement.forLoop (changes : callee.ChangesOnly globals)
    {invariant final : Constants} {name uniqueName : String}
    {startExpr endExpr : Expression} {body : Statement}
    (settled : AllSettled manifests globals callee known facts [startExpr, endExpr])
    (enters : ((afterCalls globals (mayCallAny (Constants.lookup manifests known)
      [startExpr, endExpr]) facts).erase name).Implies invariant)
    (round : FoldedStatement manifests callee known invariant body known' final)
    (keeps : (final.erase name).Implies invariant) :
    FoldedStatement manifests callee known facts
      (.forStatement name uniqueName startExpr endExpr none body) known'
      (Constants.restore name
        (afterCalls globals (mayCallAny (Constants.lookup manifests known)
          [startExpr, endExpr]) facts) invariant) := by
  have folded := settled.folded changes
  have visited : visitStatement manifests
      (.forStatement name uniqueName startExpr endExpr none body) known =
      (.forStatement name uniqueName (visitExpression manifests startExpr known).node
        (visitExpression manifests endExpr known).node none
        (visitStatement manifests body known).1, known') := by
    have startVisit : VisitOfTree manifests known startExpr := settled.visit (by simp)
    have endVisit : VisitOfTree manifests known endExpr := settled.visit (by simp)
    simp only [visitStatement, startVisit.known_eq, endVisit.known_eq, round.known_eq]
  constructor
  · rw [visited]
  · intro fuel
    rw [visited, execute_forLoop, execute_forLoop]
    refine Same.computing folded.1 folded.2 fun values => ?_
    split
    · exact forRounds_same fuel _ _ _ enters (round.same fuel) (round.reaches fuel) keeps
    · exact Same.refl _
  · intro fuel
    rw [execute_forLoop]
    refine Reaches.computing folded.2 fun values => ?_
    split
    · exact forRounds_reaches fuel _ _ _ enters (round.reaches fuel) keeps
    · exact fun _ _ _ finished => nomatch finished

theorem FoldedStatement.forStepLoop (changes : callee.ChangesOnly globals)
    {invariant final : Constants} {name uniqueName : String}
    {startExpr endExpr stepExpr : Expression} {body : Statement}
    (settled : AllSettled manifests globals callee known facts
      [startExpr, endExpr, stepExpr])
    (enters : ((afterCalls globals (mayCallAny (Constants.lookup manifests known)
      [startExpr, endExpr, stepExpr]) facts).erase name).Implies invariant)
    (round : FoldedStatement manifests callee known invariant body known' final)
    (keeps : (final.erase name).Implies invariant) :
    FoldedStatement manifests callee known facts
      (.forStatement name uniqueName startExpr endExpr (some stepExpr) body) known'
      (Constants.restore name
        (afterCalls globals (mayCallAny (Constants.lookup manifests known)
          [startExpr, endExpr, stepExpr]) facts) invariant) := by
  have folded := settled.folded changes
  have visited : visitStatement manifests
      (.forStatement name uniqueName startExpr endExpr (some stepExpr) body) known =
      (.forStatement name uniqueName (visitExpression manifests startExpr known).node
        (visitExpression manifests endExpr known).node
        (some (visitExpression manifests stepExpr known).node)
        (visitStatement manifests body known).1, known') := by
    have startVisit : VisitOfTree manifests known startExpr := settled.visit (by simp)
    have endVisit : VisitOfTree manifests known endExpr := settled.visit (by simp)
    have stepVisit : VisitOfTree manifests known stepExpr := settled.visit (by simp)
    simp only [visitStatement, startVisit.known_eq, endVisit.known_eq, stepVisit.known_eq,
      round.known_eq]
  constructor
  · rw [visited]
  · intro fuel
    rw [visited, execute_forStepLoop, execute_forStepLoop]
    refine Same.computing folded.1 folded.2 fun values => ?_
    split
    · exact forRounds_same fuel _ _ _ enters (round.same fuel) (round.reaches fuel) keeps
    · exact Same.refl _
  · intro fuel
    rw [execute_forStepLoop]
    refine Reaches.computing folded.2 fun values => ?_
    split
    · exact forRounds_reaches fuel _ _ _ enters (round.reaches fuel) keeps
    · exact fun _ _ _ finished => nomatch finished

theorem FoldedStatement.nil :
    FoldedStatement manifests callee known facts (.compound []) known facts := by
  constructor
  · rfl
  · intro fuel
    exact Same.refl _
  · intro fuel
    rw [execute_nothing]
    exact Reaches.finished

theorem FoldedStatement.cons {first : Statement} {rest : List Statement}
    {middle middleFacts : Constants}
    (head : FoldedStatement manifests callee known facts first middle middleFacts)
    (tail : FoldedStatement manifests callee middle middleFacts (.compound rest)
      known' facts') :
    FoldedStatement manifests callee known facts (.compound (first :: rest)) known'
      facts' := by
  have visited : visitStatement manifests (.compound (first :: rest)) known =
      (.compound ((visitStatement manifests first known).1 ::
        (visitStatements manifests rest middle).1),
        (visitStatements manifests rest middle).2) := by
    simp only [visitStatement, visitStatements, head.known_eq]
  have runs (statement : Statement) (statements : List Statement) (fuel : Nat) :
      execute OperatorMeaning.host callee fuel (.compound (statement :: statements)) =
        sequence (execute OperatorMeaning.host callee fuel statement)
          (execute OperatorMeaning.host callee fuel (.compound statements)) := by
    funext state
    simp only [execute, executeAll, Foundations.FueledLoop.sequence]
  have tailKnown := tail.known_eq
  have tailSame := tail.same
  simp only [visitStatement] at tailKnown tailSame
  constructor
  · rw [visited]
    exact tailKnown
  · intro fuel
    rw [visited, runs, runs]
    exact Same.sequence (head.same fuel) (head.reaches fuel) (tailSame fuel)
  · intro fuel
    rw [runs]
    exact Reaches.sequence (head.reaches fuel) (tail.reaches fuel)

theorem FoldedStatement.weaken {statement : Statement} {stronger weaker : Constants}
    (before : stronger.Implies facts)
    (folded : FoldedStatement manifests callee known facts statement known' facts')
    (after : facts'.Implies weaker) :
    FoldedStatement manifests callee known stronger statement known' weaker := by
  constructor
  · exact folded.known_eq
  · exact fun fuel state holds => folded.same fuel state (known_implies before holds)
  · exact fun fuel state final holds finished => known_implies after
      (folded.reaches fuel state final (known_implies before holds) finished)

/-- The run lemma: a settled statement is folded to one that runs alike. -/
theorem settled_folded (changes : callee.ChangesOnly globals) {statement : Statement}
    (settled : Settled manifests globals callee known facts statement known' facts') :
    FoldedStatement manifests callee known facts statement known' facts' := by
  induction settled with
  | assign name expression => exact .assign changes name expression
  | assignMany targets many expressions => exact .assignMany changes targets many expressions
  | call unrecorded arguments => exact .call changes unrecorded arguments
  | ifConstant condition constant _ chosen => exact .ifConstant changes condition constant chosen
  | ifEither condition unknown _ whenFalse whenTrue =>
      exact .ifEither changes condition unknown whenTrue whenFalse
  | unlessEither condition _ whenTrue whenFalse =>
      exact .unlessEither changes condition whenFalse whenTrue
  | testConstant condition constant _ chosen =>
      exact .testConstant changes condition constant chosen
  | testEither condition unknown _ _ whenTrue whenFalse =>
      exact .testEither changes condition unknown whenTrue whenFalse
  | whileNever condition constant zero => exact .whileNever changes condition constant zero
  | whileLoop condition entered _ round => exact .whileLoop changes condition entered round
  | untilLoop condition _ round => exact .untilLoop changes condition round
  | repeatForever _ round => exact .repeatForever round
  | repeatTested tested _ condition keeps round =>
      exact .repeatTested changes tested round condition keeps
  | forLoop bounds enters _ keeps round => exact .forLoop changes bounds enters round keeps
  | forStepLoop bounds enters _ keeps round =>
      exact .forStepLoop changes bounds enters round keeps
  | nil => exact .nil
  | cons _ _ head tail => exact .cons head tail
  | weaken before _ after folded => exact .weaken before folded after

end Statements

end Optimizer
end NewBcpl
