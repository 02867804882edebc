import Mathlib.Data.List.ReduceOption
import NewBcpl.Liveness.LivenessAnalysisPass

namespace NewBcpl
namespace Liveness

open Foundations
open Foundations.DataFlow

/-!
# The in and out sets of the analysis

`run_data_flow_analysis` with all that it reads and writes: the maps of the graphs and of
their blocks in the order in which they are walked, where a graph, a block or a successor
may be null, and the in and out sets, which are changed in place. A block is its address,
which may be of any type. The in sets are those of the rounds of `Foundations.DataFlow`;
the round that changes nothing leaves the out sets that belong to them.
-/

variable {Block : Type}

/-- What the loop reads: `cfgs_` as its iterators walk it, the successors of the blocks,
`use_sets_` and `def_sets_`. -/
structure FlowInput (Block : Type) where
  cfgs : List (Option (List (Option Block)))
  successors : Block -> List (Option Block)
  useSets : Block -> Finset String
  defSets : Block -> Finset String

/-- `in_sets_`, `out_sets_` and `changed`. -/
@[ext]
structure FlowSets (Block : Type) where
  inSets : Block -> Finset String
  outSets : Block -> Finset String
  changed : Bool

namespace FlowSets

/-- The maps of a new pass, which have no entries. -/
def empty : FlowSets Block :=
  { inSets := fun _ => ∅, outSets := fun _ => ∅, changed := true }

/-- What the rounds of the library keep. -/
def rounded (sets : FlowSets Block) : (Block -> Finset String) × Bool :=
  (sets.inSets, sets.changed)

end FlowSets

namespace FlowInput

/-- The blocks that a round visits. -/
def blocks (input : FlowInput Block) : List Block :=
  (input.cfgs.reduceOption.flatten).reduceOption

/-- The graph of the blocks. -/
def graph (input : FlowInput Block) : FlowGraph Block String where
  successors block := (input.successors block).reduceOption
  uses := input.useSets
  defs := input.defSets

end FlowInput

section Loop

variable [DecidableEq Block] (input : FlowInput Block)

/-- `new_out_set`: what is in the sets of the successors. -/
def newOutSet (inSets : Block -> Finset String) (block : Block) : Finset String :=
  (input.successors block).foldl
    (fun out successor =>
      match successor with
      | none => out
      | some successor => out ∪ inSets successor)
    ∅

/-- `new_in_set`: what the block uses, and what leaves it and is not defined in it. -/
def newInSet (outSet : Finset String) (block : Block) : Finset String :=
  input.useSets block ∪ (outSet \ input.defSets block)

/-- One block of a round. -/
def visitBlock (sets : FlowSets Block) : Option Block -> FlowSets Block
  | none => sets
  | some block =>
      let outSet := newOutSet input sets.inSets block
      let inSet := newInSet input outSet block
      let outSets := Function.update sets.outSets block outSet
      if sets.inSets block = inSet then { sets with outSets := outSets }
      else
        { inSets := Function.update sets.inSets block inSet
          outSets := outSets
          changed := true }

/-- One graph of a round. -/
def visitCfg (sets : FlowSets Block) : Option (List (Option Block)) -> FlowSets Block
  | none => sets
  | some blocks => blocks.foldl (visitBlock input) sets

/-- The body of the `while`. -/
def dataFlowIteration (sets : FlowSets Block) : FlowSets Block :=
  input.cfgs.foldl (visitCfg input) { sets with changed := false }

/-- `while (changed)`; nothing is computed if the fuel does not last. -/
def whileChanged : Nat -> FlowSets Block -> Option (FlowSets Block)
  | 0, _ => none
  | fuel + 1, sets =>
      if sets.changed then whileChanged fuel (dataFlowIteration input sets) else some sets

end Loop

section Rounds

/-! ## The loop and the rounds of the library -/

variable [DecidableEq Block] {input : FlowInput Block}

omit [DecidableEq Block] in
theorem newOutSet_eq (inSets : Block -> Finset String) (block : Block) :
    newOutSet input inSets block = outSet input.graph inSets block := by
  have fold (successors : List (Option Block)) (start : Finset String) :
      successors.foldl
          (fun out successor =>
            match successor with
            | none => out
            | some successor => out ∪ inSets successor)
          start =
        successors.reduceOption.foldl (fun out next => out ∪ inSets next) start := by
    induction successors generalizing start with
    | nil => rfl
    | cons successor successors fold =>
        cases successor with
        | none => exact fold start
        | some successor => exact fold (start ∪ inSets successor)
  exact fold (input.successors block) ∅

omit [DecidableEq Block] in
theorem newInSet_eq (inSets : Block -> Finset String) (block : Block) :
    newInSet input (newOutSet input inSets block) block = inSet input.graph inSets block := by
  rw [newInSet, newOutSet_eq]
  rfl

/-- A round visits its blocks one after the other. -/
theorem dataFlowIteration_eq (sets : FlowSets Block) :
    dataFlowIteration input sets =
      input.blocks.foldl (fun sets block => visitBlock input sets (some block))
        { sets with changed := false } := by
  have one (blocks : List (Option Block)) (sets : FlowSets Block) :
      blocks.foldl (visitBlock input) sets =
        blocks.reduceOption.foldl (fun sets block => visitBlock input sets (some block))
          sets := by
    induction blocks generalizing sets with
    | nil => rfl
    | cons block blocks one =>
        cases block with
        | none => exact one sets
        | some block => exact one (visitBlock input sets (some block))
  have all (cfgs : List (Option (List (Option Block)))) (sets : FlowSets Block) :
      cfgs.foldl (visitCfg input) sets =
        (cfgs.reduceOption.flatten).reduceOption.foldl
          (fun sets block => visitBlock input sets (some block)) sets := by
    induction cfgs generalizing sets with
    | nil => rfl
    | cons cfg cfgs all =>
        cases cfg with
        | none => exact all sets
        | some blocks =>
            have first : visitCfg input sets (some blocks) =
                blocks.reduceOption.foldl
                  (fun sets block => visitBlock input sets (some block)) sets := one blocks sets
            rw [List.foldl_cons, all, first, ← List.foldl_append, ← List.reduceOption_append]
            rfl
  exact all input.cfgs _

theorem visitBlock_rounded (sets : FlowSets Block) (block : Block) :
    (visitBlock input sets (some block)).rounded = visit input.graph sets.rounded block := by
  simp only [visitBlock, newInSet_eq, visit, FlowSets.rounded]
  by_cases same : sets.inSets block = inSet input.graph sets.inSets block
  · rw [if_pos same]
    exact (if_pos same).symm
  · rw [if_neg same]
    exact (if_neg same).symm

theorem visitBlock_outSets (sets : FlowSets Block) (block : Block) :
    (visitBlock input sets (some block)).outSets =
      Function.update sets.outSets block (outSet input.graph sets.inSets block) := by
  simp only [visitBlock, newOutSet_eq]
  split <;> rfl

/-- The in sets of a round are those of the library. -/
theorem visits_rounded (blocks : List Block) (sets : FlowSets Block) :
    (blocks.foldl (fun sets block => visitBlock input sets (some block)) sets).rounded =
      blocks.foldl (visit input.graph) sets.rounded := by
  induction blocks generalizing sets with
  | nil => rfl
  | cons block blocks visits =>
      rw [List.foldl_cons, List.foldl_cons, visits, visitBlock_rounded]

theorem visit_changed {state : (Block -> Finset String) × Bool} (block : Block)
    (changed : state.2 = true) : (visit input.graph state block).2 = true := by
  have visits := @visit_cases _ _ _ _ input.graph state block
  rcases visits with ⟨same, _⟩ | ⟨visited, _⟩
  · rw [same]
    exact changed
  · rw [visited]

theorem visits_changed (blocks : List Block) {state : (Block -> Finset String) × Bool}
    (changed : state.2 = true) : (blocks.foldl (visit input.graph) state).2 = true := by
  induction blocks generalizing state with
  | nil => exact changed
  | cons block blocks visits => exact visits (visit_changed block changed)

/-- Visits that change no in set leave the out sets that belong to the in sets, in
whatever order they come. -/
theorem visits_outSets (blocks : List Block) (sets : FlowSets Block)
    (unchanged : (blocks.foldl (visit input.graph) sets.rounded).2 = false) :
    (blocks.foldl (fun sets block => visitBlock input sets (some block)) sets).inSets =
        sets.inSets ∧
      (blocks.foldl (fun sets block => visitBlock input sets (some block)) sets).outSets =
        fun block =>
          if block ∈ blocks then outSet input.graph sets.inSets block
          else sets.outSets block := by
  induction blocks generalizing sets with
  | nil => exact ⟨rfl, funext fun block => (if_neg List.not_mem_nil).symm⟩
  | cons block blocks visits =>
      rw [List.foldl_cons] at unchanged
      have kept : visit input.graph sets.rounded block = sets.rounded := by
        have visits := @visit_cases _ _ _ _ input.graph sets.rounded block
        rcases visits with ⟨same, _⟩ | ⟨visited, _⟩
        · exact same
        · have changed : (visit input.graph sets.rounded block).2 = true := by rw [visited]
          rw [visits_changed blocks changed] at unchanged
          cases unchanged
      have sameSets : (visitBlock input sets (some block)).inSets = sets.inSets :=
        congrArg Prod.fst ((visitBlock_rounded sets block).trans kept)
      rw [← visitBlock_rounded] at unchanged
      rcases visits _ unchanged with ⟨restIn, restOut⟩
      rw [List.foldl_cons]
      refine ⟨restIn.trans sameSets, restOut.trans ?_⟩
      funext other
      rw [sameSets, visitBlock_outSets]
      by_cases isLater : other ∈ blocks
      · rw [if_pos isLater, if_pos (List.mem_cons_of_mem block isLater)]
      · rw [if_neg isLater]
        by_cases isFirst : other = block
        · rw [isFirst, Function.update_self, if_pos List.mem_cons_self]
        · have isOld : other ∉ block :: blocks := by
            rw [List.mem_cons, not_or]
            exact ⟨isFirst, isLater⟩
          rw [Function.update_of_ne isFirst, if_neg isOld]

/-- The sets outside the visited blocks are not written. -/
theorem visits_outside (blocks : List Block) (sets : FlowSets Block) {block : Block}
    (outside : block ∉ blocks) :
    (blocks.foldl (fun sets block => visitBlock input sets (some block)) sets).outSets block =
      sets.outSets block := by
  induction blocks generalizing sets with
  | nil => rfl
  | cons visited blocks visits =>
      rw [List.mem_cons, not_or] at outside
      rw [List.foldl_cons, visits _ outside.2, visitBlock_outSets,
        Function.update_of_ne outside.1]

/-- What the loop leaves when the rounds of the library end with the in sets. -/
def FlowSets.settled (input : FlowInput Block) (inSets : Block -> Finset String) :
    FlowSets Block :=
  { inSets := inSets
    outSets := fun block =>
      if block ∈ input.blocks then outSet input.graph inSets block else ∅
    changed := false }

/-- A round that changes nothing settles the sets. -/
theorem dataFlowIteration_settled {sets : FlowSets Block}
    (outside : forall block, block ∉ input.blocks -> sets.outSets block = ∅)
    (unchanged : (DataFlow.round input.graph input.blocks sets.inSets).2 = false) :
    dataFlowIteration input sets =
      .settled input (DataFlow.round input.graph input.blocks sets.inSets).1 := by
  have rounded : (dataFlowIteration input sets).rounded =
      DataFlow.round input.graph input.blocks sets.inSets := by
    rw [dataFlowIteration_eq]
    exact visits_rounded input.blocks { sets with changed := false }
  rcases visits_outSets input.blocks { sets with changed := false } unchanged with
    ⟨sameIn, finalOut⟩
  rw [← dataFlowIteration_eq] at sameIn finalOut
  have finalIn := congrArg Prod.fst rounded
  have finalChanged := (congrArg Prod.snd rounded).trans unchanged
  change (dataFlowIteration input sets).inSets = _ at finalIn
  change (dataFlowIteration input sets).changed = false at finalChanged
  have isOut : (dataFlowIteration input sets).outSets =
      (FlowSets.settled input (DataFlow.round input.graph input.blocks sets.inSets).1).outSets := by
    rw [finalOut, ← finalIn, sameIn]
    funext block
    by_cases isBlock : block ∈ input.blocks
    · simp only [FlowSets.settled, if_pos isBlock]
    · simp only [FlowSets.settled, if_neg isBlock, outside block isBlock]
  apply FlowSets.ext
  · exact finalIn
  · exact isOut
  · exact finalChanged

/-- The loop ends as the rounds of the library end. -/
theorem whileChanged_eq (fuel : Nat) {sets : FlowSets Block} (changed : sets.changed = true)
    (outside : forall block, block ∉ input.blocks -> sets.outSets block = ∅) :
    whileChanged input (fuel + 1) sets =
      (DataFlow.rounds input.graph input.blocks fuel sets.inSets).map (.settled input) := by
  induction fuel generalizing sets with
  | zero =>
      rw [whileChanged, if_pos changed]
      rfl
  | succ fuel loops =>
      have rounded : (dataFlowIteration input sets).rounded =
          DataFlow.round input.graph input.blocks sets.inSets := by
        rw [dataFlowIteration_eq]
        exact visits_rounded input.blocks { sets with changed := false }
      have nextOutside (block : Block) (isOutside : block ∉ input.blocks) :
          (dataFlowIteration input sets).outSets block = ∅ := by
        rw [dataFlowIteration_eq, visits_outside _ _ isOutside]
        exact outside block isOutside
      rw [whileChanged, if_pos changed, DataFlow.rounds]
      cases again : (DataFlow.round input.graph input.blocks sets.inSets).2 with
      | true =>
          have nextChanged : (dataFlowIteration input sets).changed = true :=
            (congrArg Prod.snd rounded).trans again
          rw [loops nextChanged nextOutside, if_pos rfl]
          exact congrArg (fun inSets => Option.map _ (DataFlow.rounds _ _ fuel inSets))
            (congrArg Prod.fst rounded)
      | false =>
          have settled := dataFlowIteration_settled outside again
          rw [settled, whileChanged]
          simp only [FlowSets.settled, Bool.false_eq_true, if_false, Option.map_some]

/-- The loop ends exactly with what the rounds of the library settle. -/
theorem whileChanged_empty_eq_some_iff {fuel : Nat} {sets : FlowSets Block} :
    whileChanged input fuel .empty = some sets <->
      exists inSets, DataFlow.rounds input.graph input.blocks (fuel - 1) (fun _ => ∅) =
        some inSets ∧ sets = .settled input inSets := by
  cases fuel with
  | zero =>
      constructor
      · intro ends
        cases ends
      · rintro ⟨_, ends, _⟩
        cases ends
  | succ fuel =>
      rw [whileChanged_eq fuel rfl fun _ _ => rfl, Option.map_eq_some_iff]
      constructor
      · rintro ⟨inSets, ends, settled⟩
        exact ⟨inSets, ends, settled.symm⟩
      · rintro ⟨inSets, ends, settled⟩
        exact ⟨inSets, ends, settled.symm⟩

end Rounds

section Results

variable [DecidableEq Block]

/-- The in sets of `runDataFlowAnalysis` are those of this loop. -/
theorem runDataFlowAnalysis_eq (cfgs : List ControlFlow.Builder) (order : Order cfgs)
    (fuel : Nat) :
    runDataFlowAnalysis cfgs order fuel =
      (whileChanged
        { cfgs := [some (order.blocks.map some)]
          successors := fun block => ((flowGraph cfgs).successors block).map some
          useSets := (flowGraph cfgs).uses
          defSets := (flowGraph cfgs).defs }
        (fuel + 1) .empty).map FlowSets.inSets := by
  rw [whileChanged_eq fuel rfl fun _ _ => rfl, Option.map_map]
  have reduced {Item : Type} (items : List Item) : (items.map some).reduceOption = items := by
    simp only [List.reduceOption, List.filterMap_map, Function.comp_def, id_eq,
      List.filterMap_some]
  have sameBlocks : (FlowInput.blocks
      { cfgs := [some (order.blocks.map some)]
        successors := fun block => ((flowGraph cfgs).successors block).map some
        useSets := (flowGraph cfgs).uses
        defSets := (flowGraph cfgs).defs }) = order.blocks := by
    change (List.flatten [order.blocks.map some]).reduceOption = order.blocks
    rw [List.flatten_singleton, reduced]
  have sameGraph : (FlowInput.graph
      { cfgs := [some (order.blocks.map some)]
        successors := fun block => ((flowGraph cfgs).successors block).map some
        useSets := (flowGraph cfgs).uses
        defSets := (flowGraph cfgs).defs }) = flowGraph cfgs := by
    simp only [FlowInput.graph, reduced]
  rw [sameBlocks, sameGraph]
  exact Option.map_id'.symm

/-- The analysis of any graphs ends, in whatever order the maps are walked; the in and
out sets that it leaves are the least solution of the equations of the blocks, and they
are the same for every order in which the same blocks are visited. -/
theorem whileChanged_leastSolution (input : FlowInput Block) :
    exists sets, (exists enough, forall fuel, enough ≤ fuel ->
        whileChanged input fuel .empty = some sets) ∧
      SolvesLeast input.graph input.blocks sets.inSets sets.outSets ∧
      forall cfgs, (forall block,
          block ∈ FlowInput.blocks { input with cfgs := cfgs } <-> block ∈ input.blocks) ->
        forall fuel others,
          whileChanged { input with cfgs := cfgs } fuel .empty = some others ->
            others.inSets = sets.inSets ∧ others.outSets = sets.outSets := by
  rcases rounds_solvesLeast input.graph input.blocks with ⟨inSets, ends, _, least⟩
  refine ⟨.settled input inSets,
    ⟨bound (input.graph.within input.blocks) input.blocks + 1, ?_⟩, least, ?_⟩
  · intro fuel large
    exact whileChanged_empty_eq_some_iff.mpr ⟨inSets, ends (fuel - 1) (by omega), rfl⟩
  · intro cfgs sameBlocks fuel others endsSo
    rcases rounds_solvesLeast (FlowInput.graph { input with cfgs := cfgs })
      (FlowInput.blocks { input with cfgs := cfgs }) with ⟨otherIn, _, only, otherLeast⟩
    rcases whileChanged_empty_eq_some_iff.mp endsSo with ⟨reached, rounded, settled⟩
    rw [settled, only _ reached rounded]
    exact otherLeast.unique sameBlocks least

end Results

end Liveness
end NewBcpl
