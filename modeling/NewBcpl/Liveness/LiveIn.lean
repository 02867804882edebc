import NewBcpl.ControlFlow.CFGBuilderPass
import NewBcpl.Liveness.LivenessAnalysisPass
import NewBcpl.Liveness.ReadPaths

namespace NewBcpl
namespace Liveness

open ControlFlow
open Foundations.DataFlow
open Foundations.EventPaths

/-!
# The live-in sets

The in sets hold the variables that some path leads to a use of, through blocks that do
not define them, as the use and def sets have it. A variable that a path reads before
assigning it flows in the same way along what the blocks really read and keep. The two
agree if and only if no block's sets hide such a variable.
-/

/-- The flow of one graph by the use and def sets of its blocks. -/
def blockFlow (cfg : Builder) : FlowGraph Nat String where
  successors block := (cfg.block block).successors
  uses block := (analyzeBlock (cfg.block block)).useSet
  defs block := (analyzeBlock (cfg.block block)).defSet

/-! ## Paths and flows -/

/-- What a path reads first flows along the blocks. -/
theorem readFromStart_iff (cfg : Builder) (block : Nat) (name : String) :
    ReadFromStart cfg block name <->
      Flows (blockFlow cfg).successors (BlockReads cfg) (BlockKeeps cfg) block name := by
  constructor
  · rintro ⟨events, path, reads⟩
    induction path with
    | stop here => exact .here ⟨_, here, reads⟩
    | follow here edge _ flows =>
        rcases readsFirst_append.mp reads with readsHere | ⟨kept, readsLater⟩
        · exact .here ⟨_, here, readsHere⟩
        · exact .through edge ⟨_, here, kept⟩ (flows readsLater)
  · intro flows
    induction flows with
    | here read =>
        rcases read with ⟨events, here, reads⟩
        exact ⟨events, .stop here, reads⟩
    | through edge passed _ later =>
        rcases passed with ⟨events, here, kept⟩
        rcases later with ⟨others, path, reads⟩
        exact ⟨events ++ others, .follow here edge path,
          readsFirst_append.mpr (Or.inr ⟨kept, reads⟩)⟩

section OneGraph

variable {cfgs : List Builder} {place : Nat} {cfg : Builder}

theorem blockAt_graph (isGraph : cfgs[place]? = some cfg) (block : Nat) :
    blockAt cfgs (place, block) = cfg.block block := by
  simp [blockAt, isGraph]

theorem uses_graph (isGraph : cfgs[place]? = some cfg) (block : Nat) :
    (flowGraph cfgs).uses (place, block) = (blockFlow cfg).uses block := by
  simp only [flowGraph, blockFlow, blockAt_graph isGraph]

theorem defs_graph (isGraph : cfgs[place]? = some cfg) (block : Nat) :
    (flowGraph cfgs).defs (place, block) = (blockFlow cfg).defs block := by
  simp only [flowGraph, blockFlow, blockAt_graph isGraph]

theorem successors_graph (isGraph : cfgs[place]? = some cfg) (block : Nat) :
    (flowGraph cfgs).successors (place, block) =
      ((blockFlow cfg).successors block).map fun next => (place, next) := by
  simp only [flowGraph, blockFlow, blockAt_graph isGraph]

/-- The flow of all graphs is, from a block of one of them, the flow of that graph. -/
theorem arrives_iff (isGraph : cfgs[place]? = some cfg) (block : Nat) (name : String) :
    Arrives (flowGraph cfgs) (place, block) name <-> Arrives (blockFlow cfg) block name := by
  constructor
  · intro arrives
    generalize isRef : (place, block) = reference at arrives
    induction arrives generalizing block with
    | here used =>
        rw [← isRef, uses_graph isGraph] at used
        exact .here used
    | through edge undefined _ later =>
        rw [← isRef, successors_graph isGraph] at edge
        rw [← isRef, defs_graph isGraph] at undefined
        rcases List.mem_map.mp edge with ⟨next, isNext, nextRef⟩
        exact .through isNext undefined (later next nextRef)
  · intro arrives
    induction arrives with
    | here used =>
        rw [← uses_graph isGraph] at used
        exact .here used
    | through edge undefined _ later =>
        rw [← defs_graph isGraph] at undefined
        refine .through ?_ undefined later
        rw [successors_graph isGraph]
        exact List.mem_map_of_mem edge

end OneGraph

/-- Blocks that a round does not take are no blocks. -/
theorem order_inert {cfgs : List Builder} (order : Order cfgs) (reference : BlockRef)
    (outside : reference ∉ order.blocks) :
    (flowGraph cfgs).uses reference = ∅ ∧ (flowGraph cfgs).successors reference = [] := by
  have isMissing : blockAt cfgs reference = BasicBlock.missing := by
    rw [blockAt]
    cases found : cfgs[reference.1]? with
    | none => rfl
    | some cfg =>
        rcases List.getElem?_eq_some_iff.mp found with ⟨isGraph, isCfg⟩
        have noBlock : cfg.blocks.length ≤ reference.2 := by
          apply Nat.le_of_not_lt
          intro isBlock
          rw [← isCfg] at isBlock
          exact outside (order.complete reference.1 isGraph reference.2 isBlock)
        simp only [Builder.block, List.getD_eq_getElem?_getD, List.getElem?_eq_none noBlock,
          Option.getD_none]
  simp only [flowGraph, isMissing]
  exact ⟨rfl, rfl⟩

/-! ## The computed sets -/

/-- The in sets that the analysis ends with hold what arrives. -/
theorem mem_inSets_iff {cfgs : List Builder} {order : Order cfgs} {fuel : Nat}
    {inSets : BlockRef -> Finset String}
    (ends : runDataFlowAnalysis cfgs order fuel = some inSets) {place : Nat} {cfg : Builder}
    (isGraph : cfgs[place]? = some cfg) (block : Nat) (name : String) :
    name ∈ inSets (place, block) <-> Arrives (blockFlow cfg) block name := by
  rw [(rounds_spec (order_inert order) (empty_growing order.blocks)).1 fuel inSets ends,
    arrives_iff isGraph]

/-- The analysis ends. -/
theorem runDataFlowAnalysis_ends (cfgs : List Builder) (order : Order cfgs) :
    exists inSets enough, forall fuel, enough ≤ fuel ->
      runDataFlowAnalysis cfgs order fuel = some inSets := by
  rcases rounds_spec (order_inert order) (empty_growing order.blocks) with ⟨ends, enough⟩
  have isSome (fuel : Nat) (large : bound (flowGraph cfgs) order.blocks ≤ fuel) :
      (runDataFlowAnalysis cfgs order fuel).isSome :=
    enough fuel (Nat.le_trans large (Nat.le_add_right _ _))
  rcases Option.isSome_iff_exists.mp (isSome _ (Nat.le_refl _)) with ⟨inSets, found⟩
  refine ⟨inSets, bound (flowGraph cfgs) order.blocks, ?_⟩
  intro fuel large
  rcases Option.isSome_iff_exists.mp (isSome fuel large) with ⟨others, foundOthers⟩
  rw [foundOthers, Option.some.injEq]
  funext reference
  ext name
  rw [ends fuel others foundOthers, ends _ inSets found]

/-- The use and def sets of the blocks hide no variable: what a block reads before
assigning it is in its use set or is led to a use set by blocks that do not have it in
their def sets, and a variable that may pass a block unassigned and is read first after
it is in the def set of the block only if it is in its use set. -/
structure SetsSuffice (cfg : Builder) : Prop where
  reads : forall block name, BlockReads cfg block name -> Arrives (blockFlow cfg) block name
  keeps : forall block next name, next ∈ (cfg.block block).successors ->
    BlockKeeps cfg block name -> ReadFromStart cfg next name ->
      name ∈ (analyzeBlock (cfg.block block)).defSet ->
        name ∈ (analyzeBlock (cfg.block block)).useSet

/-- `LET F(c, x) BE $( IF c THEN x := 2; WRITEN(x) $)`. -/
def branching : TopLevelDeclaration :=
  .routine "F" ["c", "x"]
    (.compound
      [.ifStatement (.variableAccess "c")
          (.assignment [.variableAccess "x"] [.integerLiteral 2#64]),
        .routineCall (.variableAccess "WRITEN") [.variableAccess "x"]])

/-- The graph that is built for it. -/
def branchingCfg : Builder :=
  (buildGraph (fun _ => .integer) branching).getD (Builder.start "F")

end Liveness
end NewBcpl
