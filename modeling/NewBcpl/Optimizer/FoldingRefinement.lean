import NewBcpl.Optimizer.FoldedBodies
import NewBcpl.Optimizer.FoldingAgreement

namespace NewBcpl
namespace Optimizer

open Semantics Foundations.PartialState Foundations.FueledLoop

/-!
# Running the body that the pass returns

A use of a variable that the pass replaces has its value exactly in the states
where the variable holds the recorded constant. A body in which this is so at
every use runs after folding as it did before: it ends in the same states, it
makes the same calls, and with any fuel it gets equally far. The recorded
constants follow the text and not the paths, so other bodies need not.
-/

/-- The body ends in a state when started in another. -/
def Ends (callee : Callee) (body : Statement) (state final : State) : Prop :=
  exists fuel, execute OperatorMeaning.host callee fuel body state = .finished final

/-- The replacement of one use is right exactly in the states where the variable
holds the recorded constant. -/
theorem replacedUse_evaluates_iff {manifests known : Constants} {callee : Callee}
    {name : String} {value : Word}
    (recorded : Constants.lookup manifests known name = some value) (state : State) :
    evaluate OperatorMeaning.host callee
        (visitExpression manifests (.variableAccess name) known).node state =
      evaluate OperatorMeaning.host callee (.variableAccess name) state <->
    state.environment name = value := by
  have replaced : (visitExpression manifests (.variableAccess name) known).node =
      .integerLiteral value := by
    simp only [visitExpression, recorded, Option.map_some, orKept_node, Option.getD_some]
  rw [replaced]
  simp only [evaluate, Option.some.injEq, Prod.mk.injEq, and_true]
  exact eq_comm

/-- A settled body is folded to a body that runs alike: whatever the fuel, both
come to the same outcome with the same calls made, so they end in the same
states; and the facts that the derivation gives hold in each of these. -/
theorem foldedBody_runs {manifests known facts : Constants} {globals : String -> Bool}
    {callee : Callee} {body : Statement} (changes : callee.ChangesOnly globals)
    (settled : Settled manifests globals callee Constants.empty manifests body known facts)
    {state : State} (declared : Known manifests state) :
    (forall fuel,
      execute OperatorMeaning.host callee fuel
          (visitStatement manifests body Constants.empty).1 state =
        execute OperatorMeaning.host callee fuel body state) ∧
    (forall final,
      Ends callee (visitStatement manifests body Constants.empty).1 state final <->
        Ends callee body state final) ∧
    (forall final, Ends callee body state final -> Known facts final) ∧
    (forall (constants : Constants) (name : String) (value : Word) (middle : State),
      Constants.lookup manifests constants name = some value ->
      (evaluate OperatorMeaning.host callee
          (visitExpression manifests (.variableAccess name) constants).node middle =
        evaluate OperatorMeaning.host callee (.variableAccess name) middle <->
      middle.environment name = value)) := by
  have folded := settled_folded changes settled
  have same (fuel : Nat) := folded.same fuel state declared
  refine ⟨same, fun final => ?_, ?_, fun _ _ _ middle recorded =>
    replacedUse_evaluates_iff recorded middle⟩
  · constructor
    · rintro ⟨fuel, ends⟩
      exact ⟨fuel, by rw [<- same fuel, ends]⟩
    · rintro ⟨fuel, ends⟩
      exact ⟨fuel, by rw [same fuel, ends]⟩
  · rintro final ⟨fuel, ends⟩
    exact folded.reaches fuel state final declared ends

/-- `k := 3; WHILE i < 10 DO i := i + k; IF i > k THEN print(i)`. -/
def countingBody : Statement :=
  .compound [
    .assignment [.variableAccess "k"] [.integerLiteral 3#64],
    .whileStatement (.binaryOp .less (.variableAccess "i") (.integerLiteral 10#64))
      (.assignment [.variableAccess "i"]
        [.binaryOp .add (.variableAccess "i") (.variableAccess "k")]),
    .ifStatement (.binaryOp .greater (.variableAccess "i") (.variableAccess "k"))
      (.routineCall (.variableAccess "print") [.variableAccess "i"])]

/-- The facts after `k := 3`. -/
def countingFacts : Constants := Constants.empty.insert "k" 3#64

private theorem counting_implies {facts : Constants}
    (others : forall name, name ≠ "i" -> facts name = countingFacts name) :
    facts.Implies countingFacts := by
  intro name value found
  by_cases same : name = "i"
  · rw [same] at found
    have unknown : countingFacts "i" = none := rfl
    rw [unknown] at found
    cases found
  · rw [others name same]
    exact found

theorem countingBody_settled :
    exists known facts, Settled Constants.empty (fun _ => false) (steadyCallee 0#64)
      Constants.empty Constants.empty countingBody known facts := by
  have start : Settled Constants.empty (fun _ => false) (steadyCallee 0#64)
      Constants.empty Constants.empty
      (.assignment [.variableAccess "k"] [.integerLiteral 3#64])
      countingFacts countingFacts :=
    .assign "k" ⟨.integer _, trivial, trivial⟩
  have round : Settled Constants.empty (fun _ => false) (steadyCallee 0#64)
      countingFacts countingFacts
      (.assignment [.variableAccess "i"]
        [.binaryOp .add (.variableAccess "i") (.variableAccess "k")])
      (countingFacts.erase "i") (countingFacts.erase "i") := by
    refine .assign "i" ⟨.binary rfl (.access _) (.access _), ?_, ?_⟩
    · rw [readsTrusted_binaryOp, if_neg (by decide)]
      exact ⟨fun value found => found, fun value found => found⟩
    · simp [FoldsRight, OperationFoldsRight, constantLiteral, Constants.lookup,
        countingFacts, Constants.insert, Constants.empty]
  have loop : Settled Constants.empty (fun _ => false) (steadyCallee 0#64)
      countingFacts countingFacts
      (.whileStatement (.binaryOp .less (.variableAccess "i") (.integerLiteral 10#64))
        (.assignment [.variableAccess "i"]
          [.binaryOp .add (.variableAccess "i") (.variableAccess "k")]))
      (countingFacts.erase "i") countingFacts := by
    refine .whileLoop ⟨.binary rfl (.access _) (.integer _), ?_, ?_⟩ ?_ ?_
    · rw [readsTrusted_binaryOp, if_neg (by decide)]
      exact ⟨trivial, fun value found => found⟩
    · simp [FoldsRight, OperationFoldsRight, constantLiteral, Constants.lookup,
        countingFacts, Constants.insert, Constants.empty]
    · intro literal constant
      cases constant
    · refine .weaken (fun _ _ found => found) round (counting_implies fun name other => ?_)
      simp [Constants.erase, other]
  have last : Settled Constants.empty (fun _ => false) (steadyCallee 0#64)
      (countingFacts.erase "i") countingFacts
      (.ifStatement (.binaryOp .greater (.variableAccess "i") (.variableAccess "k"))
        (.routineCall (.variableAccess "print") [.variableAccess "i"]))
      (countingFacts.erase "i") countingFacts := by
    refine .ifEither ⟨.binary rfl (.access _) (.access _), ?_, ?_⟩ rfl ?_
      (fun _ _ found => found)
    · rw [readsTrusted_binaryOp, if_neg (by decide)]
      refine ⟨fun value found => found, fun value found => ?_⟩
      cases found
    · simp [FoldsRight, OperationFoldsRight, constantLiteral, Constants.lookup,
        countingFacts, Constants.insert, Constants.empty, Constants.erase]
    · refine .call rfl ⟨?_, ⟨fun value found => ?_, trivial⟩, ⟨trivial, trivial⟩⟩
      · intro expression member
        rw [List.mem_singleton.mp member]
        exact .access "i"
      · cases found
  exact ⟨_, _, .cons start (.cons loop (.cons last .nil))⟩

/-- `countingBody` counts to 12 and prints it, before and after folding. -/
theorem foldedBody_runs_counting :
    execute OperatorMeaning.host (steadyCallee 0#64) 5
        (visitStatement Constants.empty countingBody Constants.empty).1 initialState =
      execute OperatorMeaning.host (steadyCallee 0#64) 5 countingBody initialState := by
  rcases countingBody_settled with ⟨known, facts, settled⟩
  have declared : Known Constants.empty initialState := fun _ _ found => nomatch found
  exact (foldedBody_runs (fun _ _ _ _ => rfl) settled declared).1 5

/-- `IF c THEN x := 1; y := x`. -/
def branchingBody : Statement :=
  .compound [
    .ifStatement (.variableAccess "c")
      (.assignment [.variableAccess "x"] [.integerLiteral 1#64]),
    .assignment [.variableAccess "y"] [.variableAccess "x"]]

/-- Where the branch is not taken, the folded body assigns 1 to `y` all the same. -/
theorem foldedBody_differs_after_branch :
    ¬ forall (manifests : Constants) (callee : Callee) (body : Statement) (state : State),
      callee.ChangesOnly (fun _ => false) -> Known manifests state ->
      forall final,
        Ends callee (visitStatement manifests body Constants.empty).1 state final <->
          Ends callee body state final := by
  intro preserved
  have same := preserved Constants.empty (steadyCallee 0#64) branchingBody initialState
    (fun _ _ _ _ => rfl) (fun _ _ found => nomatch found) (initialState.assign "y" 0#64)
  have original : Ends (steadyCallee 0#64) branchingBody initialState
      (initialState.assign "y" 0#64) := ⟨0, rfl⟩
  rcases same.mpr original with ⟨fuel, ends⟩
  have folded : execute OperatorMeaning.host (steadyCallee 0#64) fuel
      (visitStatement Constants.empty branchingBody Constants.empty).1 initialState =
      .finished (initialState.assign "y" 1#64) := rfl
  rw [folded, Outcome.finished.injEq] at ends
  have words := congrArg (fun state : State => state.environment "y") ends
  exact absurd words (by decide)

end Optimizer
end NewBcpl
