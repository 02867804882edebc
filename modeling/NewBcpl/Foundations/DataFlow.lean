import Mathlib.Data.Finset.Union
import Mathlib.Algebra.Order.BigOperators.Group.Finset

namespace Foundations
namespace DataFlow

/-!
# Backward data flow by rounds

A graph whose nodes use facts and define facts. A fact arrives at a node if some path
leads to a use of it through nodes that do not define it. The sets are computed in
rounds over the nodes, each node from the sets that its successors have then, until a
round changes nothing. What the rounds compute is what arrives, in whatever order a round
takes the nodes.
-/

universe u v

/-- The edges, uses and definitions of a graph. -/
structure FlowGraph (Node : Type u) (Fact : Type v) where
  successors : Node -> List Node
  uses : Node -> Finset Fact
  defs : Node -> Finset Fact

variable {Node : Type u} {Fact : Type v}

/-- Some path from the node leads to a use of the fact, through nodes that do not define
it. -/
inductive Arrives (graph : FlowGraph Node Fact) : Node -> Fact -> Prop where
  | here {node : Node} {fact : Fact} (used : fact ∈ graph.uses node) :
      Arrives graph node fact
  | through {node next : Node} {fact : Fact} (edge : next ∈ graph.successors node)
      (undefined : fact ∉ graph.defs node) (later : Arrives graph next fact) :
      Arrives graph node fact

section Comparison

/-! ## Two notions of use and definition -/

/-- A fact that a path leads to, where the nodes read facts first and may be passed with
facts. -/
inductive Flows (successors : Node -> List Node) (reads passes : Node -> Fact -> Prop) :
    Node -> Fact -> Prop where
  | here {node : Node} {fact : Fact} (read : reads node fact) :
      Flows successors reads passes node fact
  | through {node next : Node} {fact : Fact} (edge : next ∈ successors node)
      (passed : passes node fact) (later : Flows successors reads passes next fact) :
      Flows successors reads passes node fact

/-- All that flows arrives if and only if what a node reads arrives there, and a node
that can be passed with a fact that flows afterwards does not only define it. -/
theorem flows_arrives_iff (graph : FlowGraph Node Fact) (reads passes : Node -> Fact -> Prop) :
    (forall node fact, Flows graph.successors reads passes node fact ->
        Arrives graph node fact) <->
      (forall node fact, reads node fact -> Arrives graph node fact) ∧
        forall node next fact, next ∈ graph.successors node -> passes node fact ->
          Flows graph.successors reads passes next fact -> fact ∈ graph.defs node ->
            fact ∈ graph.uses node := by
  constructor
  · intro arrives
    constructor
    · intro node fact read
      exact arrives node fact (.here read)
    · intro node next fact edge passed later defined
      cases arrives node fact (.through edge passed later) with
      | here used => exact used
      | through _ undefined _ => exact absurd defined undefined
  · rintro ⟨read, passed⟩ node fact flows
    induction flows with
    | here isRead => exact read _ _ isRead
    | @through node next fact edge passes later arrives =>
        by_cases defined : fact ∈ graph.defs node
        · exact .here (passed node next fact edge passes later defined)
        · exact .through edge defined arrives

end Comparison

/-! ## The rounds -/

section Rounds

variable [DecidableEq Node] [DecidableEq Fact] (graph : FlowGraph Node Fact)

/-- What is in the set of some successor. -/
def outSet (sets : Node -> Finset Fact) (node : Node) : Finset Fact :=
  (graph.successors node).foldl (fun out next => out ∪ sets next) ∅

/-- The set of a node from those of its successors. -/
def inSet (sets : Node -> Finset Fact) (node : Node) : Finset Fact :=
  graph.uses node ∪ (outSet graph sets node \ graph.defs node)

/-- The node is visited: its set, and whether something has changed. -/
def visit (state : (Node -> Finset Fact) × Bool) (node : Node) :
    (Node -> Finset Fact) × Bool :=
  let new := inSet graph state.1 node
  if state.1 node = new then state else (Function.update state.1 node new, true)

/-- One round over the nodes. -/
def round (order : List Node) (sets : Node -> Finset Fact) :
    (Node -> Finset Fact) × Bool :=
  order.foldl (visit graph) (sets, false)

/-- Rounds until nothing changes. -/
def rounds (order : List Node) : Nat -> (Node -> Finset Fact) -> Option (Node -> Finset Fact)
  | 0, _ => none
  | fuel + 1, sets =>
      let next := round graph order sets
      if next.2 then rounds order fuel next.1 else some next.1

variable {graph}

omit [DecidableEq Node] in
theorem mem_outSet {sets : Node -> Finset Fact} {node : Node} {fact : Fact} :
    fact ∈ outSet graph sets node <->
      exists next, next ∈ graph.successors node ∧ fact ∈ sets next := by
  have fold (nexts : List Node) (start : Finset Fact) :
      fact ∈ nexts.foldl (fun out next => out ∪ sets next) start <->
        fact ∈ start ∨ exists next, next ∈ nexts ∧ fact ∈ sets next := by
    induction nexts generalizing start with
    | nil => simp
    | cons next nexts foldIff =>
        simp only [List.foldl_cons, foldIff, Finset.mem_union, List.mem_cons,
          or_and_right, exists_or, or_assoc, exists_eq_left]
  rw [outSet, fold]
  simp

omit [DecidableEq Node] in
theorem mem_inSet {sets : Node -> Finset Fact} {node : Node} {fact : Fact} :
    fact ∈ inSet graph sets node <->
      fact ∈ graph.uses node ∨
        (exists next, next ∈ graph.successors node ∧ fact ∈ sets next) ∧
          fact ∉ graph.defs node := by
  rw [inSet, Finset.mem_union, Finset.mem_sdiff, mem_outSet]

omit [DecidableEq Node] in
theorem inSet_mono {sets others : Node -> Finset Fact}
    (grows : forall node, sets node ⊆ others node) (node : Node) :
    inSet graph sets node ⊆ inSet graph others node := by
  intro fact isIn
  rw [mem_inSet] at isIn ⊢
  rcases isIn with used | ⟨⟨next, edge, isNext⟩, undefined⟩
  · exact Or.inl used
  · exact Or.inr ⟨⟨next, edge, grows next isNext⟩, undefined⟩

/-- The sets that a round can start from: every set is in what it is computed from, what
is in it arrives, and the nodes outside the order have none. -/
structure Growing (graph : FlowGraph Node Fact) (order : List Node)
    (sets : Node -> Finset Fact) : Prop where
  grows : forall node, sets node ⊆ inSet graph sets node
  arrives : forall node fact, fact ∈ sets node -> Arrives graph node fact
  outside : forall node, node ∉ order -> sets node = ∅

omit [DecidableEq Node] in
theorem empty_growing (order : List Node) : Growing graph order fun _ => ∅ where
  grows _ := Finset.empty_subset _
  arrives _ _ isIn := nomatch Finset.notMem_empty _ isIn
  outside _ _ := rfl

/-- What one visit does to the sets. -/
theorem visit_cases (state : (Node -> Finset Fact) × Bool) (node : Node) :
    visit graph state node = state ∧ state.1 node = inSet graph state.1 node ∨
      visit graph state node =
          (Function.update state.1 node (inSet graph state.1 node), true) ∧
        state.1 node ≠ inSet graph state.1 node := by
  rw [visit]
  by_cases same : state.1 node = inSet graph state.1 node
  · exact Or.inl ⟨if_pos same, same⟩
  · exact Or.inr ⟨if_neg same, same⟩

/-- A visit keeps the invariant and adds to the sets. -/
theorem Growing.visit {order : List Node} {state : (Node -> Finset Fact) × Bool}
    (growing : Growing graph order state.1) {node : Node} (isNode : node ∈ order) :
    Growing graph order (DataFlow.visit graph state node).1 ∧
      forall other, state.1 other ⊆ (DataFlow.visit graph state node).1 other := by
  rcases visit_cases state node with ⟨same, _⟩ | ⟨changed, _⟩
  · rw [same]
    exact ⟨growing, fun _ => Finset.Subset.refl _⟩
  · rw [changed]
    dsimp only
    have adds : forall other, state.1 other ⊆
        Function.update state.1 node (inSet graph state.1 node) other := by
      intro other
      by_cases isVisited : other = node
      · rw [isVisited, Function.update_self]
        exact growing.grows node
      · rw [Function.update_of_ne isVisited]
    refine ⟨⟨?_, ?_, ?_⟩, adds⟩
    · intro other
      refine Finset.Subset.trans ?_ (inSet_mono adds other)
      by_cases isVisited : other = node
      · rw [isVisited, Function.update_self]
      · rw [Function.update_of_ne isVisited]
        exact growing.grows other
    · intro other fact isIn
      by_cases isVisited : other = node
      · rw [isVisited, Function.update_self, mem_inSet] at isIn
        rw [isVisited]
        rcases isIn with used | ⟨⟨next, edge, isNext⟩, undefined⟩
        · exact .here used
        · exact .through edge undefined (growing.arrives next fact isNext)
      · rw [Function.update_of_ne isVisited] at isIn
        exact growing.arrives other fact isIn
    · intro other isOutside
      have different : other ≠ node := by
        intro same
        rw [same] at isOutside
        exact isOutside isNode
      rw [Function.update_of_ne different]
      exact growing.outside other isOutside

/-- The number of facts in the sets of the nodes of the order. -/
def total (order : List Node) (sets : Node -> Finset Fact) : Nat :=
  ∑ node ∈ order.toFinset, (sets node).card

omit [DecidableEq Fact] in
theorem total_mono {order : List Node} {sets others : Node -> Finset Fact}
    (grows : forall node, sets node ⊆ others node) :
    total order sets ≤ total order others :=
  Finset.sum_le_sum fun node _ => Finset.card_le_card (grows node)

/-- A visit that changes a set adds a fact. -/
theorem total_visit {order : List Node} {state : (Node -> Finset Fact) × Bool}
    (growing : Growing graph order state.1) {node : Node} (isNode : node ∈ order)
    (changes : state.1 node ≠ inSet graph state.1 node) :
    total order state.1 <
      total order (Function.update state.1 node (inSet graph state.1 node)) := by
  refine Finset.sum_lt_sum ?_ ⟨node, List.mem_toFinset.mpr isNode, ?_⟩
  · intro other _
    by_cases isVisited : other = node
    · rw [isVisited, Function.update_self]
      exact Finset.card_le_card (growing.grows node)
    · rw [Function.update_of_ne isVisited]
  · rw [Function.update_self]
    exact Finset.card_lt_card ⟨growing.grows node,
      fun back => changes (Finset.Subset.antisymm (growing.grows node) back)⟩

/-- Some visits: the invariant stays, the sets grow, and either something was changed
before, or nothing is changed and every node has its set, or the sets have grown. -/
theorem visits_spec {order : List Node} (nodes : List Node)
    (isOrder : forall node, node ∈ nodes -> node ∈ order)
    (state : (Node -> Finset Fact) × Bool) (growing : Growing graph order state.1) :
    Growing graph order (nodes.foldl (visit graph) state).1 ∧
      total order state.1 ≤ total order (nodes.foldl (visit graph) state).1 ∧
      (state.2 = false -> (nodes.foldl (visit graph) state).2 = true ->
        total order state.1 < total order (nodes.foldl (visit graph) state).1) ∧
      ((nodes.foldl (visit graph) state).2 = false ->
        nodes.foldl (visit graph) state = state ∧
          forall node, node ∈ nodes -> state.1 node = inSet graph state.1 node) := by
  induction nodes generalizing state with
  | nil =>
      refine ⟨growing, Nat.le_refl _, ?_, fun _ => ⟨rfl, fun _ member => nomatch member⟩⟩
      intro unchanged changed
      rw [List.foldl_nil, unchanged] at changed
      cases changed
  | cons node nodes spec =>
      have isNode : node ∈ order := isOrder node List.mem_cons_self
      rcases growing.visit isNode with ⟨visitedGrowing, adds⟩
      rcases spec (fun other member => isOrder other (List.mem_cons_of_mem node member))
        (visit graph state node) visitedGrowing with ⟨restGrowing, restTotal, restChanged, restSame⟩
      rw [List.foldl_cons]
      refine ⟨restGrowing, Nat.le_trans (total_mono adds) restTotal, ?_, ?_⟩
      · intro unchanged changed
        rcases visit_cases state node with ⟨same, _⟩ | ⟨visited, changes⟩
        · rw [same] at changed restChanged ⊢
          exact restChanged unchanged changed
        · refine Nat.lt_of_lt_of_le ?_ restTotal
          rw [visited]
          exact total_visit growing isNode changes
      · intro unchanged
        rcases restSame unchanged with ⟨same, restEqual⟩
        rw [same] at unchanged ⊢
        rcases visit_cases state node with ⟨kept, equal⟩ | ⟨visited, _⟩
        · rw [kept] at restEqual ⊢
          refine ⟨rfl, ?_⟩
          intro other member
          rcases List.mem_cons.mp member with isNew | isOld
          · rw [isNew]
            exact equal
          · exact restEqual other isOld
        · rw [visited] at unchanged
          cases unchanged

/-- Sets that no visit changes hold all that arrives. -/
theorem Growing.complete {order : List Node} {sets : Node -> Finset Fact}
    (inert : forall node, node ∉ order -> graph.uses node = ∅ ∧ graph.successors node = [])
    (stable : forall node, node ∈ order -> sets node = inSet graph sets node)
    {node : Node} {fact : Fact} (arrives : Arrives graph node fact) : fact ∈ sets node := by
  induction arrives with
  | @here node fact used =>
      by_cases isNode : node ∈ order
      · rw [stable node isNode, mem_inSet]
        exact Or.inl used
      · rw [(inert node isNode).1] at used
        exact nomatch Finset.notMem_empty fact used
  | @through node next fact edge undefined _ isNext =>
      by_cases isNode : node ∈ order
      · rw [stable node isNode, mem_inSet]
        exact Or.inr ⟨⟨next, edge, isNext⟩, undefined⟩
      · rw [(inert node isNode).2] at edge
        exact nomatch edge

/-- The facts that the nodes of the order use. -/
def universe_ (graph : FlowGraph Node Fact) (order : List Node) : Finset Fact :=
  order.toFinset.biUnion graph.uses

/-- Whatever arrives is used by a node that has uses. -/
theorem Arrives.mem_universe {order : List Node}
    (inert : forall node, node ∉ order -> graph.uses node = ∅ ∧ graph.successors node = [])
    {node : Node} {fact : Fact} (arrives : Arrives graph node fact) :
    fact ∈ universe_ graph order := by
  induction arrives with
  | @here node fact used =>
      by_cases isNode : node ∈ order
      · exact Finset.mem_biUnion.mpr ⟨node, List.mem_toFinset.mpr isNode, used⟩
      · rw [(inert node isNode).1] at used
        exact nomatch Finset.notMem_empty fact used
  | through _ _ _ isIn => exact isIn

/-- The sets have no more than every fact at every node. -/
theorem Growing.total_le {order : List Node} {sets : Node -> Finset Fact}
    (inert : forall node, node ∉ order -> graph.uses node = ∅ ∧ graph.successors node = [])
    (growing : Growing graph order sets) :
    total order sets ≤ order.toFinset.card * (universe_ graph order).card := by
  refine Finset.sum_le_card_nsmul _ _ _ ?_
  intro node _
  apply Finset.card_le_card
  intro fact isIn
  exact (growing.arrives node fact isIn).mem_universe inert

/-- The number of rounds after which nothing can change. -/
def bound (graph : FlowGraph Node Fact) (order : List Node) : Nat :=
  order.toFinset.card * (universe_ graph order).card + 1

/-- The rounds end, and whenever they end the sets hold what arrives. -/
theorem rounds_spec {order : List Node} {sets : Node -> Finset Fact}
    (inert : forall node, node ∉ order -> graph.uses node = ∅ ∧ graph.successors node = [])
    (growing : Growing graph order sets) :
    (forall fuel final, rounds graph order fuel sets = some final ->
        forall node fact, fact ∈ final node <-> Arrives graph node fact) ∧
      forall fuel, bound graph order ≤ fuel + total order sets ->
        (rounds graph order fuel sets).isSome := by
  have bySteps (fuel : Nat) : forall sets : Node -> Finset Fact, Growing graph order sets ->
      (forall final, rounds graph order fuel sets = some final ->
        forall node fact, fact ∈ final node <-> Arrives graph node fact) ∧
      (bound graph order ≤ fuel + total order sets ->
        (rounds graph order fuel sets).isSome) := by
    induction fuel with
    | zero =>
        intro sets growing
        refine ⟨fun _ ends => (nomatch ends), ?_⟩
        intro enough
        have small := growing.total_le inert
        unfold bound at enough
        omega
    | succ fuel spec =>
        intro sets growing
        rcases visits_spec order (fun _ member => member) (sets, false) growing
          with ⟨nextGrowing, _, nextChanged, nextSame⟩
        rcases spec (round graph order sets).1 nextGrowing with ⟨restEnds, restEnough⟩
        rw [rounds]
        cases changed : (round graph order sets).2 with
        | true =>
            have more := nextChanged rfl changed
            refine ⟨by simpa [changed] using restEnds, ?_⟩
            intro enough
            have still : bound graph order ≤ fuel + total order (round graph order sets).1 := by
              change total order sets < total order (round graph order sets).1 at more
              omega
            simpa [changed] using restEnough still
        | false =>
            rcases nextSame changed with ⟨same, stable⟩
            have kept : (round graph order sets).1 = sets := congrArg Prod.fst same
            refine ⟨?_, fun _ => by simp⟩
            intro final ends node fact
            have isFinal : sets = final := by simpa [changed, kept] using ends
            rw [← isFinal]
            exact ⟨growing.arrives node fact, Growing.complete inert stable⟩
  exact ⟨fun fuel => (bySteps fuel sets growing).1, fun fuel => (bySteps fuel sets growing).2⟩

end Rounds

/-! ## Least solutions -/

section Solutions

variable [DecidableEq Node] [DecidableEq Fact]

/-- The in and out sets solve the equations of the given nodes. -/
structure Solves (graph : FlowGraph Node Fact) (nodes : List Node)
    (inSets outSets : Node -> Finset Fact) : Prop where
  outEquation : forall node, node ∈ nodes ->
    outSets node = (graph.successors node).toFinset.biUnion inSets
  inEquation : forall node, node ∈ nodes ->
    inSets node = graph.uses node ∪ (outSets node \ graph.defs node)

/-- A solution that is contained in every other one. -/
structure SolvesLeast (graph : FlowGraph Node Fact) (nodes : List Node)
    (inSets outSets : Node -> Finset Fact) : Prop where
  solves : Solves graph nodes inSets outSets
  least : forall otherIn otherOut, Solves graph nodes otherIn otherOut ->
    forall node, inSets node ⊆ otherIn node ∧ outSets node ⊆ otherOut node

/-- There is only one least solution, whatever the list of the nodes is. -/
theorem SolvesLeast.unique {graph : FlowGraph Node Fact} {nodes others : List Node}
    {inSets outSets otherIn otherOut : Node -> Finset Fact}
    (sameNodes : forall node, node ∈ nodes <-> node ∈ others)
    (first : SolvesLeast graph nodes inSets outSets)
    (second : SolvesLeast graph others otherIn otherOut) :
    inSets = otherIn ∧ outSets = otherOut := by
  have firstSolves : Solves graph others inSets outSets :=
    ⟨fun node isNode => first.solves.outEquation node ((sameNodes node).mpr isNode),
      fun node isNode => first.solves.inEquation node ((sameNodes node).mpr isNode)⟩
  have secondSolves : Solves graph nodes otherIn otherOut :=
    ⟨fun node isNode => second.solves.outEquation node ((sameNodes node).mp isNode),
      fun node isNode => second.solves.inEquation node ((sameNodes node).mp isNode)⟩
  have below := first.least otherIn otherOut secondSolves
  have above := second.least inSets outSets firstSolves
  constructor
  · funext node
    exact Finset.Subset.antisymm (below node).1 (above node).1
  · funext node
    exact Finset.Subset.antisymm (below node).2 (above node).2

theorem outSet_eq_biUnion (graph : FlowGraph Node Fact) (sets : Node -> Finset Fact)
    (node : Node) : outSet graph sets node = (graph.successors node).toFinset.biUnion sets := by
  ext fact
  rw [mem_outSet, Finset.mem_biUnion]
  simp only [List.mem_toFinset]

/-- The part of a graph at the given nodes: the others use nothing and lead nowhere. -/
def FlowGraph.within (graph : FlowGraph Node Fact) (nodes : List Node) :
    FlowGraph Node Fact where
  successors node := if node ∈ nodes then graph.successors node else []
  uses node := if node ∈ nodes then graph.uses node else ∅
  defs := graph.defs

variable {graph : FlowGraph Node Fact} {nodes : List Node}

omit [DecidableEq Fact] in
theorem within_inert (node : Node) (outside : node ∉ nodes) :
    (graph.within nodes).uses node = ∅ ∧ (graph.within nodes).successors node = [] :=
  ⟨if_neg outside, if_neg outside⟩

theorem inSet_within (sets : Node -> Finset Fact) {node : Node} (isNode : node ∈ nodes) :
    inSet (graph.within nodes) sets node = inSet graph sets node := by
  simp only [inSet, outSet, FlowGraph.within, if_pos isNode]

/-- Visits of the given nodes do not see what is outside. -/
theorem visits_within (order : List Node) (isNode : forall node, node ∈ order -> node ∈ nodes)
    (state : (Node -> Finset Fact) × Bool) :
    order.foldl (visit (graph.within nodes)) state = order.foldl (visit graph) state := by
  induction order generalizing state with
  | nil => rfl
  | cons node order visits =>
      have here : visit (graph.within nodes) state node = visit graph state node := by
        simp only [visit, inSet_within state.1 (isNode node List.mem_cons_self)]
      rw [List.foldl_cons, List.foldl_cons, here]
      exact visits (fun other member => isNode other (List.mem_cons_of_mem node member)) _

theorem rounds_within (order : List Node) (fuel : Nat) (sets : Node -> Finset Fact) :
    rounds (graph.within order) order fuel sets = rounds graph order fuel sets := by
  induction fuel generalizing sets with
  | zero => rfl
  | succ fuel sameRounds =>
      have sameRound : round (graph.within order) order sets = round graph order sets :=
        visits_within order (fun _ member => member) (sets, false)
      simp only [rounds, sameRound, sameRounds]

/-- What arrives at a node is in the in set of every solution. -/
theorem Solves.mem_of_arrives {inSets outSets : Node -> Finset Fact}
    (solves : Solves graph nodes inSets outSets) {node : Node} {fact : Fact}
    (arrives : Arrives (graph.within nodes) node fact) : fact ∈ inSets node := by
  induction arrives with
  | @here node fact used =>
      by_cases isNode : node ∈ nodes
      · rw [solves.inEquation node isNode]
        apply Finset.mem_union_left
        simpa only [FlowGraph.within, if_pos isNode] using used
      · rw [(within_inert node isNode).1] at used
        exact nomatch Finset.notMem_empty fact used
  | @through node next fact edge undefined _ isNext =>
      by_cases isNode : node ∈ nodes
      · have isSuccessor : next ∈ graph.successors node := by
          simpa only [FlowGraph.within, if_pos isNode] using edge
        rw [solves.inEquation node isNode]
        apply Finset.mem_union_right
        apply Finset.mem_sdiff.mpr
        refine ⟨?_, undefined⟩
        rw [solves.outEquation node isNode]
        exact Finset.mem_biUnion.mpr ⟨next, List.mem_toFinset.mpr isSuccessor, isNext⟩
      · rw [(within_inert node isNode).2] at edge
        exact nomatch edge

/-- The rounds from empty sets end, and they end with the in sets of the least solution,
whose out sets are what is in the successors. -/
theorem rounds_solvesLeast (graph : FlowGraph Node Fact) (order : List Node) :
    exists final, (forall fuel, bound (graph.within order) order ≤ fuel ->
        rounds graph order fuel (fun _ => ∅) = some final) ∧
      (forall fuel other, rounds graph order fuel (fun _ => ∅) = some other ->
        other = final) ∧
      SolvesLeast graph order final
        (fun node => if node ∈ order then outSet graph final node else ∅) := by
  have inert : forall node, node ∉ order -> (graph.within order).uses node = ∅ ∧
      (graph.within order).successors node = [] := within_inert
  rcases rounds_spec inert (empty_growing order) with ⟨ends, enough⟩
  have isSome (fuel : Nat) (large : bound (graph.within order) order ≤ fuel) :
      (rounds (graph.within order) order fuel fun _ => ∅).isSome :=
    enough fuel (Nat.le_trans large (Nat.le_add_right _ _))
  rcases Option.isSome_iff_exists.mp (isSome _ (Nat.le_refl _)) with ⟨final, found⟩
  have arrives := ends _ final found
  have same (fuel : Nat) (other : Node -> Finset Fact)
      (foundOther : rounds (graph.within order) order fuel (fun _ => ∅) = some other) :
      other = final := by
    funext node
    ext fact
    rw [ends fuel other foundOther, arrives]
  refine ⟨final, ?_, ?_, ⟨⟨?_, ?_⟩, ?_⟩⟩
  · intro fuel large
    rcases Option.isSome_iff_exists.mp (isSome fuel large) with ⟨other, foundOther⟩
    rw [← rounds_within, foundOther, same fuel other foundOther]
  · intro fuel other foundOther
    rw [← rounds_within] at foundOther
    exact same fuel other foundOther
  · intro node isNode
    rw [if_pos isNode, outSet_eq_biUnion]
  · intro node isNode
    rw [if_pos isNode]
    change final node = inSet graph final node
    ext fact
    rw [arrives, ← inSet_within final isNode, mem_inSet]
    constructor
    · intro flows
      cases flows with
      | here used => exact Or.inl used
      | through edge undefined later =>
          exact Or.inr ⟨⟨_, edge, (arrives _ _).mpr later⟩, undefined⟩
    · rintro (used | ⟨⟨next, edge, isNext⟩, undefined⟩)
      · exact .here used
      · exact .through edge undefined ((arrives next fact).mp isNext)
  · intro otherIn otherOut solves node
    have below (node : Node) : final node ⊆ otherIn node := by
      intro fact isIn
      exact solves.mem_of_arrives ((arrives node fact).mp isIn)
    refine ⟨below node, ?_⟩
    by_cases isNode : node ∈ order
    · rw [if_pos isNode, outSet_eq_biUnion, solves.outEquation node isNode]
      exact Finset.biUnion_mono fun next _ => below next
    · rw [if_neg isNode]
      exact Finset.empty_subset _

end Solutions

end DataFlow
end Foundations
