import NewBcpl.ControlFlow.LoweredStatements

namespace NewBcpl
namespace ControlFlow

open Builder
open StateTransition
open Foundations.LongRuns

/-!
# The graph of a routine runs as its body means

The graph that is built for a routine with a structured body ends, and in which state, exactly
as the meaning of the body says: at the exit block when the body is left or comes to its end,
and behind a `FINISH` otherwise. When the meaning has no end the graph has none.
-/

namespace Builder

/-- Where the graph of a routine has come to an end. -/
def EndsAt (graph : Builder) (outcome : Outcome) (point : Point) : Prop :=
  match outcome with
  | .normal | .left => graph.exitBlock = some point.block
  | .finished => (graph.block point.block).statements.getLast? = some .finish
  | .broken | .looped | .endcased => False

/-- The end of a function whose `GOTO`s have no targets to look for. -/
theorem finish_facts {before after : Builder} {part : Part} (lowers : Lowers part before after)
    (noExit : before.exitBlock = none) (noGotos : before.unresolvedGotos = []) :
    Keeps before after after.finish.block after.finish.exitBlock ∧
      (forall block, after.finish.exitBlock = some block ->
        (after.finish.block block).Empty) ∧
      forall point, after.here = some point -> exists block,
        after.finish.exitBlock = some block ∧ Ends after.finish.block point [] [block] := by
  have gotos : after.unresolvedGotos = [] := lowers.gotos.trans noGotos
  cases current : after.current with
  | none =>
      have same : after.finish = after := by
        unfold finish fallsThrough resolveGotos
        rw [current, gotos]
        rfl
      rw [same]
      have keeps : Keeps before after after.block after.exitBlock :=
        ⟨fun _ _ _ _ => rfl, fun _ _ => List.prefix_rfl, fun _ found => found⟩
      refine ⟨keeps, fun block found => ?_, fun point isHere => ?_⟩
      · rcases lowers.exits _ _ block keeps found with old | empty
        · rw [noExit] at old
          cases old
        · exact empty
      · unfold here at isHere
        rw [current] at isHere
        cases isHere
  | some reference =>
      have facts := lowers.isOpen reference current
      rcases ensureExit_facts after with
        ⟨exit, isExit, from_, sameCurrent, _, sameGotos, grown, blocks⟩
      have sameBlock : after.ensureExit.block reference = after.block reference :=
        blocks reference facts.1
      have same : after.finish = after.ensureExit.addEdge reference exit := by
        have falls : after.fallsThrough = true := by
          simp [fallsThrough, current, facts.2.goesOn]
        have fallsThere : after.ensureExit.fallsThrough = true := by
          simp [fallsThrough, sameCurrent, current, sameBlock, facts.2.goesOn]
        unfold finish
        rw [if_pos falls]
        simp only [isExit, Option.getD_some]
        unfold addFallThrough resolveGotos
        rw [sameCurrent, current]
        dsimp only
        rw [if_pos fallsThere]
        change List.foldl _ (after.ensureExit.addEdge reference exit)
          after.ensureExit.unresolvedGotos = _
        rw [sameGotos, gotos]
        rfl
      have exitThere : after.finish.exitBlock = some exit := same ▸ isExit
      have block : after.finish.block reference =
          { after.block reference with successors := [exit] } := by
        rw [same, block_addEdge_same _ _ (Nat.lt_of_lt_of_le facts.1 grown), sameBlock,
          facts.2.successors]
        rfl
      have others : forall other, other < after.fresh -> other ≠ reference ->
          after.finish.block other = after.block other := by
        intro other old different
        rw [same, block_addEdge_other _ _ different, blocks other old]
      have keeps : Keeps before after after.finish.block after.finish.exitBlock := by
        refine ⟨fun other _ old different => ?_, fun other found => ?_, fun block found => ?_⟩
        · exact others other old fun equal => different (equal ▸ current)
        · rw [current] at found
          cases found
          rw [block]
        · rw [exitThere, <- isExit]
          exact (Grows.refl after).ensureExit.registry.exitBlock block found
      refine ⟨keeps, fun block found => ?_, fun point isHere => ⟨exit, exitThere, ?_⟩⟩
      · rw [exitThere] at found
        cases found
        rcases from_ with old | ⟨new, _, empty⟩
        · rcases lowers.exits _ _ exit keeps old with before_ | empty
          · rw [noExit] at before_
            cases before_
          · exact empty
        · rw [same, block_addEdge_other _ _ (by omega)]
          exact empty
      · unfold here at isHere
        rw [current] at isHere
        cases isHere
        constructor
        · rw [block]
          exact List.drop_length
        · rw [block]

end Builder

/-- The end of a run of a graph. -/
theorem mem_eval_of_ends {State : Type} {meaning : Meaning State} {graph : Nat -> BasicBlock}
    {first : Point × State} {point : Point} {final : State}
    (reaches : Reaches (meaning.step graph) first (point, final))
    (ends : Ends graph point [] []) : (point, final) ∈ eval (meaning.step graph) first := by
  refine mem_eval.mpr ⟨reaches, ?_⟩
  rw [step_end ends]
  unfold Meaning.leaveBlock
  rw [ends.2]
  rfl

/-- A result of the body is where the graph ends, and the graph goes on for as long as there is
none. -/
theorem follows_ends {State : Type} {meaning : Meaning State} {before after : Builder}
    {body : Statement} {fuel : Nat} {state : State}
    (lowers : Lowers (.statement body) before after) (noExit : before.exitBlock = none)
    (noGotos : before.unresolvedGotos = []) (noTargets : before.targets = ⟨[], [], []⟩)
    (starts : before.here = some (.head 0)) :
    match meaning.run fuel body state with
    | none => Lasts (meaning.step after.finish.block) fuel (.head 0, state)
    | some (outcome, final) => exists point, after.finish.EndsAt outcome point ∧
        (point, final) ∈ eval (meaning.step after.finish.block) (.head 0, state) := by
  rcases finish_facts lowers noExit noGotos with ⟨keeps, empty, falls⟩
  have follows := (lowers.laid _ _ _ keeps starts).follows meaning fuel state
  change Follows _ _ _ _ _ (meaning.run fuel body state) at follows
  cases result : meaning.run fuel body state with
  | none =>
      rw [result] at follows
      exact follows
  | some pair =>
      rcases pair with ⟨outcome, final⟩
      rw [result] at follows
      rcases follows with ⟨point, led, reaches⟩
      have exitEnds : forall block, after.finish.exitBlock = some block ->
          Ends after.finish.block (.head block) [] [] := fun block found => empty block found
      cases outcome with
      | normal =>
          rcases falls point led with ⟨block, found, joins⟩
          exact ⟨.head block, found,
            mem_eval_of_ends (reaches.tail (step_join joins)) (exitEnds block found)⟩
      | left =>
          rcases Option.map_eq_some_iff.mp led with ⟨block, found, rfl⟩
          exact ⟨.head block, found, mem_eval_of_ends reaches (exitEnds block found)⟩
      | finished => exact ⟨point, led.2, mem_eval_of_ends reaches led.1⟩
      | broken | looped | endcased =>
          rw [noTargets] at led
          cases led

end ControlFlow
end NewBcpl
