import NewBcpl.Runtime.HeaderSteps

namespace NewBcpl
namespace Runtime

open Foundations

/-!
# Appends and shallow copies

The operations that build one new list out of the elements of others. A loop over the
nodes of a list only opens the new list, so it meets the nodes that were there when it
started.
-/

namespace Snapshot

variable {snapshot : Snapshot} {new node : Nat} {elements : List Element} {atom : ListAtom}

/-! ## One element -/

/-- A node is taken and filled; its pad is zero or on the account. -/
structure Fills (before : Snapshot) (node : Nat) (atom : ListAtom) (after : Snapshot) :
    Prop where
  store : after.store = before.store
  taken : after.owner node = .nobody
  requested : node < after.heap.freshNode
  new : before.owner node = .nobody -> before.heap.freshNode <= node
  content : after.heap.nodes node = atom
  headers : after.heap.headers = before.heap.headers
  frame : Frame [] [node] before after
  draws : before.Draws after 1
  padded : atom.pad = 0#32 ∨ node ∈ after.heap.leftPads.drop before.heap.leftPads.length

theorem Takes.written {taken : Snapshot} (takes : snapshot.Takes node taken) (atom : ListAtom)
    (pad : atom.pad = (taken.heap.nodes node).pad ∨ atom.pad = 0#32) :
    Frame [] [node] snapshot (taken.writeNode node atom takes.taken) :=
  (takes.frame.weaken (fun _ member => member) fun _ member =>
    absurd member List.not_mem_nil).trans (taken.writeNode_frame node atom takes.taken pad)

/-- A fill that clears the pad. -/
theorem Takes.fills {taken : Snapshot} (takes : snapshot.Takes node taken) (atom : ListAtom)
    (zero : atom.pad = 0#32) :
    snapshot.Fills node atom (taken.writeNode node atom takes.taken) where
  store := takes.store
  taken := takes.taken
  requested := takes.requested
  new := takes.new
  content := Function.update_self _ _ _
  headers := takes.headers
  frame := takes.written atom (.inr zero)
  draws := takes.draws.before_still rfl rfl rfl
  padded := .inl zero

/-- A fill that leaves the pad. -/
theorem Takes.copies {taken : Snapshot} (takes : snapshot.Takes node taken) (atom : ListAtom)
    (same : atom.pad = (taken.heap.nodes node).pad) :
    snapshot.Fills node atom ((taken.writeNode node atom takes.taken).leavePad node) where
  store := takes.store
  taken := takes.taken
  requested := takes.requested
  new := takes.new
  content := Function.update_self _ _ _
  headers := takes.headers
  frame := (takes.written atom (.inl same)).trans
    ((leavePad_frame _ node).weaken (fun _ member => member) fun _ member =>
      absurd member List.not_mem_nil)
  draws := by
    refine ⟨takes.draws.upcoming, takes.draws.leftPads.trans (List.prefix_append _ _), ?_⟩
    intro other member
    change other ∈ (taken.heap.leftPads ++ [node]).drop snapshot.heap.leftPads.length at member
    rw [takes.leftPads, List.drop_left, List.mem_singleton] at member
    rw [member]
    exact ⟨0, Nat.zero_lt_one, takes.drawn⟩
  padded := by
    refine .inr ?_
    change node ∈ (taken.heap.leftPads ++ [node]).drop snapshot.heap.leftPads.length
    rw [List.drop_append_of_le_length takes.frame.leftPads.length_le]
    exact List.mem_append_right _ List.mem_cons_self

/-- The new elements of a list, which stays exact. -/
structure Extends (before : Snapshot) (new : Nat) (old elements : List Element)
    (after : Snapshot) : Prop where
  store : after.store = Function.update before.store new (some elements)
  isExact : Exact before.heap new old -> Exact after.heap new elements
  frame : Frame [new] [] before after
  draws : exists count, elements.length = old.length + count ∧ before.Draws after count

theorem Extends.live {old : List Element} {after : Snapshot}
    (extended : snapshot.Extends new old elements after) : after.store new = some elements := by
  rw [extended.store, Function.update_self]

namespace Fills

variable {filled : Snapshot}

/-- The pad stays clear or on the account. -/
theorem padded_later (fills : snapshot.Fills node atom filled) {openLists openNodes : List Nat}
    {later : Snapshot} (frame : Frame openLists openNodes filled later) :
    (later.heap.nodes node).pad = 0#32 ∨
      node ∈ later.heap.leftPads.drop snapshot.heap.leftPads.length := by
  rcases fills.padded with zero | left
  · rcases frame.pads node with same | isZero
    · rw [fills.content] at same
      exact .inl (same.trans zero)
    · exact .inl isZero
  · exact .inr ((frame.leftPads.drop _).mem left)

/-- The frame of a link behind the fill: the node was not taken before. -/
theorem linked_frame (fills : snapshot.Fills node atom filled) {linked : Snapshot}
    (links : filled.Links new node elements linked) : Frame [new] [] snapshot linked := by
  have opened : Frame [new] [node] snapshot linked :=
    (fills.frame.weaken (fun _ member => absurd member List.not_mem_nil)
      fun _ member => member).trans links.frame
  apply opened.closeNodes
  · intro other member taken
    rw [List.mem_singleton] at member
    rw [member] at taken ⊢
    exact fills.new taken
  · intro other member
    rw [List.mem_singleton] at member
    rw [member]
    exact fills.padded_later links.frame

theorem element_eq (fills : snapshot.Fills node atom filled) :
    filled.heap.element node = atom.element :=
  congrArg ListAtom.element fills.content

theorem next_eq (fills : snapshot.Fills node atom filled) :
    filled.heap.next node = atom.next :=
  congrArg ListAtom.next fills.content

theorem header_eq (fills : snapshot.Fills node atom filled) (header : Nat) :
    filled.heap.headers header = snapshot.heap.headers header :=
  congrFun fills.headers header

/-- A filled node behind the last one, without a change of the length. -/
theorem link (fills : snapshot.Fills node atom filled)
    (live : snapshot.store new = some elements) (ends : atom.next = none) :
    exists linked : Snapshot, filled.heap.linkLast new node = some linked.heap ∧
      linked.store = Function.update snapshot.store new (some (elements ++ [atom.element])) ∧
      (linked.heap.headers new).length = (snapshot.heap.headers new).length ∧
      Frame [new] [] snapshot linked ∧ snapshot.Draws linked 1 := by
  have isLive : filled.store new = some elements := by
    rw [fills.store]
    exact live
  rcases exists_linkLast isLive fills.taken fills.requested (fills.next_eq.trans ends) with
    ⟨linked, performs, links⟩
  refine ⟨linked, performs, ?_, ?_, fills.linked_frame links, fills.draws.trans links.draws⟩
  · rw [links.store, fills.store, fills.element_eq]
  · rw [links.length, fills.header_eq]

/-- A list with another element and the length counted up. -/
theorem counted {linked : Snapshot} {old others : List Element}
    (store : linked.store = Function.update snapshot.store new (some others))
    (length : (linked.heap.headers new).length = (snapshot.heap.headers new).length)
    (frame : Frame [new] [] snapshot linked) (draws : snapshot.Draws linked 1)
    (longer : others.length = old.length + 1) :
    exists after : Snapshot, linked.heap.countUp new = after.heap ∧
      snapshot.Extends new old others after := by
  have live : linked.store new = some others := by
    rw [store, Function.update_self]
  refine ⟨setLength live ((linked.heap.headers new).length + 1#64), rfl, store,
    fun isExact => ⟨?_, ?_⟩, frame.trans (setLength_frame live _), 1, longer,
    draws.before_still rfl rfl rfl⟩
  · rw [setLength_header, length, isExact.length, longer]
    exact (BitVec.ofNat_add _ _).symm
  · intro empty
    rw [empty] at longer
    cases longer

/-- The end of every append. -/
theorem append (fills : snapshot.Fills node atom filled)
    (live : snapshot.store new = some elements) (ends : atom.next = none) :
    exists after : Snapshot,
      ((filled.heap.linkLast new node).map fun linked => linked.countUp new) = some after.heap ∧
      snapshot.Extends new elements (elements ++ [atom.element]) after := by
  rcases fills.link live ends with ⟨linked, performs, store, length, frame, draws⟩
  rcases counted store length frame draws List.length_append with ⟨after, counts, extended⟩
  refine ⟨after, ?_, extended⟩
  rw [performs, Option.map_some, counts]

/-- The end of a prepend. -/
theorem prepend (fills : snapshot.Fills node atom filled)
    (live : snapshot.store new = some elements) (isExact : Exact snapshot.heap new elements)
    (follows : atom.next = (snapshot.heap.headers new).head) :
    exists after : Snapshot,
      (filled.heap.setHeader new { filled.heap.headers new with
        head := some node
        tail := if (filled.heap.headers new).tail = none then some node
          else (filled.heap.headers new).tail }).countUp new = after.heap ∧
      snapshot.Extends new elements (atom.element :: elements) after := by
  have sameHeader := fills.header_eq new
  have isLive : filled.store new = some elements := by
    rw [fills.store]
    exact live
  have stillExact : Exact filled.heap new elements := by
    constructor
    · rw [sameHeader]
      exact isExact.length
    · intro empty
      rw [sameHeader]
      exact isExact.tail empty
  have front : filled.heap.next node = (filled.heap.headers new).head := by
    rw [fills.next_eq, sameHeader]
    exact follows
  rcases exists_linkFirst isLive fills.taken fills.requested front stillExact with
    ⟨linked, performs, links⟩
  have store : linked.store =
      Function.update snapshot.store new (some (atom.element :: elements)) := by
    rw [links.store, fills.store, fills.element_eq]
  have length := links.length.trans (congrArg ListHeader.length sameHeader)
  rcases counted store length (fills.linked_frame links) (fills.draws.trans links.draws) rfl with
    ⟨after, counts, extended⟩
  refine ⟨after, ?_, extended⟩
  rw [performs]
  exact counts

end Fills

/-- `appendAtom`. -/
theorem exists_appendAtom (live : snapshot.store new = some elements) (element : Element) :
    exists after : Snapshot, snapshot.heap.appendAtom new element = some after.heap ∧
      snapshot.Extends new elements (elements ++ [element]) after := by
  rcases snapshot.exists_takeNode with ⟨node, taken, takes, isTaken⟩
  have fills := isTaken.fills ⟨element.type, 0#32, element.value, none⟩ rfl
  rcases fills.append live rfl with ⟨after, performs, extended⟩
  refine ⟨after, ?_, extended⟩
  rw [Heap.appendAtom, Heap.newAtom, takes]
  exact performs

/-- A node of another list is not changed when a node is taken. -/
theorem Takes.node_eq {taken : Snapshot} (takes : snapshot.Takes node taken)
    {original header : Nat} (owned : snapshot.owner original = .list header) :
    taken.heap.nodes original = snapshot.heap.nodes original :=
  takes.frame.nodes original header owned List.not_mem_nil

/-- `appendCopy`. -/
theorem exists_appendCopy (live : snapshot.store new = some elements) {original header : Nat}
    (owned : snapshot.owner original = .list header) :
    exists after : Snapshot, snapshot.heap.appendCopy new original = some after.heap ∧
      snapshot.Extends new elements (elements ++ [snapshot.heap.element original]) after := by
  rcases snapshot.exists_takeNode with ⟨node, taken, takes, isTaken⟩
  have fills := isTaken.copies ⟨(taken.heap.nodes original).type, (taken.heap.nodes node).pad,
    (taken.heap.nodes original).value, none⟩ rfl
  rcases fills.append live rfl with ⟨after, performs, extended⟩
  refine ⟨after, ?_, ?_⟩
  · rw [Heap.appendCopy, Heap.copiedAtom, takes]
    exact performs
  · rw [show snapshot.heap.element original = taken.heap.element original from
      congrArg ListAtom.element (isTaken.node_eq owned).symm]
    exact extended

/-- `prependCopy`. -/
theorem exists_prependCopy (live : snapshot.store new = some elements)
    (isExact : Exact snapshot.heap new elements) {original header : Nat}
    (owned : snapshot.owner original = .list header) :
    exists after : Snapshot, snapshot.heap.prependCopy new original = some after.heap ∧
      snapshot.Extends new elements (snapshot.heap.element original :: elements) after := by
  rcases snapshot.exists_takeNode with ⟨node, taken, takes, isTaken⟩
  have fills := isTaken.copies ⟨(taken.heap.nodes original).type, (taken.heap.nodes node).pad,
    (taken.heap.nodes original).value, (taken.heap.headers new).head⟩ rfl
  have follows := congrArg ListHeader.head (congrFun isTaken.headers new)
  rcases fills.prepend live isExact follows with ⟨after, performs, extended⟩
  refine ⟨after, ?_, ?_⟩
  · rw [Heap.prependCopy, Heap.copiedAtom, takes]
    exact congrArg some performs
  · rw [show snapshot.heap.element original = taken.heap.element original from
      congrArg ListAtom.element (isTaken.node_eq owned).symm]
    exact extended

/-! ## Loops over the nodes of a list -/

/-- A loop along links that do not change while only one list is opened. -/
theorem exists_walk {base : Snapshot} {records : List Nat} {link : Heap -> Nat -> Option Nat}
    {body : Heap -> Nat -> Option Heap} {Built : List Nat -> Snapshot -> Prop}
    (links : forall passed record rest (after : Snapshot), records = passed ++ record :: rest ->
      Frame [new] [] base after -> link after.heap record = rest.head?)
    (start : Built [] base)
    (step : forall passed record rest (middle : Snapshot), records = passed ++ record :: rest ->
      Frame [new] [] base middle -> Built passed middle ->
      exists after, body middle.heap record = some after.heap ∧
        Frame [new] [] middle after ∧ Built (passed ++ [record]) after)
    {fuel : Nat} (enough : records.length <= fuel) :
    exists after, Chains.walk link body fuel base.heap records.head? = some after.heap ∧
      Frame [new] [] base after ∧ Built records after := by
  have walks := @Chains.walk_invariant Nat Heap link body
    (fun passed heap => exists middle : Snapshot, middle.heap = heap ∧
      Frame [new] [] base middle ∧ Built passed middle) records
    (by
      rintro passed record rest heap split ⟨middle, rfl, frame, built⟩
      rcases step passed record rest middle split frame built with
        ⟨after, performs, opened, further⟩
      have whole := frame.trans opened
      exact ⟨after.heap, performs, ⟨after, rfl, whole, further⟩,
        links passed record rest after split whole⟩)
    fuel enough base.heap ⟨base, rfl, Frame.refl _ _ _, start⟩
  rcases walks with ⟨heap, performs, after, rfl, frame, built⟩
  exact ⟨after, performs, frame, built⟩

/-- A loop over the nodes of a list that only opens another list. -/
theorem exists_loop {base : Snapshot} {source : Nat} {records : List Nat}
    {body : Heap -> Nat -> Option Heap} {Built : List Nat -> Snapshot -> Prop}
    (isOwned : Owned base.heap base.owner source records) (different : source ∉ [new])
    (start : Built [] base)
    (step : forall passed record rest (middle : Snapshot), records = passed ++ record :: rest ->
      Frame [new] [] base middle -> Built passed middle ->
      exists after, body middle.heap record = some after.heap ∧
        Frame [new] [] middle after ∧ Built (passed ++ [record]) after)
    {fuel : Nat} (enough : records.length <= fuel) :
    exists after, Chains.walk Heap.next body fuel base.heap (base.heap.headers source).head =
        some after.heap ∧ Frame [new] [] base after ∧ Built records after := by
  rw [isOwned.chain.pointer_eq]
  apply exists_walk ?_ start step enough
  intro passed record rest after split frame
  have owned := isOwned.owned record (by
    rw [split]
    exact List.mem_append_right _ List.mem_cons_self)
  have chain := isOwned.chain
  rw [split] at chain
  have follows := chain.suffix.2.pointer_eq
  rw [<- follows]
  exact congrArg ListAtom.next (frame.nodes record source owned different)

/-- The number of nodes that were ever requested bounds the length of a list. -/
theorem length_le (snapshot : Snapshot) {header : Nat} {elements : List Element}
    (live : snapshot.store header = some elements) :
    elements.length <= snapshot.heap.freshNode := by
  rcases snapshot.lists header elements live with ⟨records, isOwned, represents⟩
  rw [<- represents, List.length_map]
  have bounded : records ⊆ List.range snapshot.heap.freshNode := by
    intro node member
    rw [List.mem_range]
    apply snapshot.nodesRequested
    rw [isOwned.owned node member]
    exact Owner.noConfusion
  have short := (isOwned.chain.nodup.subperm bounded).length_le
  rw [List.length_range] at short
  exact short

/-! ## New lists -/

/-- A new list with the given elements. -/
structure Creates (before : Snapshot) (new : Nat) (elements : List Element)
    (after : Snapshot) : Prop where
  absent : before.store new = none
  store : after.store = Function.update before.store new (some elements)
  frame : Frame [] [] before after
  draws : before.Draws after elements.length

theorem Creates.live {after : Snapshot} (created : snapshot.Creates new elements after) :
    after.store new = some elements := by
  rw [created.store, Function.update_self]

/-- An empty list that was filled. -/
theorem Opens.creates {opened after : Snapshot} (opens : snapshot.Opens new 0#64 opened)
    (store : after.store = Function.update snapshot.store new (some elements))
    (isExact : Exact after.heap new elements) (frame : Frame [new] [] opened after)
    (draws : opened.Draws after elements.length) : snapshot.Creates new elements after where
  absent := opens.absent
  store := store
  frame := (opens.frame.trans frame).closeList opens.absent
    (by rw [store, Function.update_self]) isExact
  draws := by
    have total := opens.draws.trans draws
    rw [Nat.zero_add] at total
    exact total

theorem Opens.isExact {opened : Snapshot} (opens : snapshot.Opens new 0#64 opened) :
    Exact opened.heap new [] := by
  constructor
  · rw [opens.header]
    rfl
  · intro _
    rw [opens.header]

theorem Opens.live {opened : Snapshot} {length : Word} (opens : snapshot.Opens new length opened) :
    opened.store new = some [] := by
  rw [opens.store, Function.update_self]

/-- The body of a loop takes the new list from what the passed elements build to what
they build together with the next one. -/
def Builds (body : Nat -> Heap -> Nat -> Option Heap)
    (built : List Element -> List Element) : Prop :=
  forall (middle : Snapshot) (new source record : Nat) (passed : List Element),
    middle.store new = some (built passed) -> Exact middle.heap new (built passed) ->
    middle.owner record = .list source ->
    exists after, body new middle.heap record = some after.heap ∧
      middle.Extends new (built passed) (built (passed ++ [middle.heap.element record])) after

/-- A loop that builds a list element by element out of the elements of another one. -/
theorem exists_build {base : Snapshot} {source : Nat} {passed : List Element}
    (live : base.store source = some elements) (different : source ∉ [new])
    {body : Nat -> Heap -> Nat -> Option Heap} {built : List Element -> List Element}
    (step : Builds body built) (store : base.store new = some (built passed))
    (isExact : Exact base.heap new (built passed)) {fuel : Nat}
    (enough : elements.length <= fuel) :
    exists after, Chains.walk Heap.next (body new) fuel base.heap
        (base.heap.headers source).head = some after.heap ∧
      base.Extends new (built passed) (built (passed ++ elements)) after := by
  rcases base.lists source elements live with ⟨records, isOwned, represents⟩
  have loop := @exists_loop new base source records (body new)
    (fun before middle => base.Extends new (built passed)
      (built (passed ++ before.map base.heap.element)) middle)
    isOwned different
    ⟨by rw [List.map_nil, List.append_nil, <- store, Function.update_eq_self],
      by rw [List.map_nil, List.append_nil]; exact id, Frame.refl _ _ _,
      0, by rw [List.map_nil, List.append_nil, Nat.add_zero], Draws.still rfl rfl rfl⟩
    (by
      intro before record rest middle split frame extended
      have owned := isOwned.owned record (by
        rw [split]
        exact List.mem_append_right _ List.mem_cons_self)
      have sameElement : middle.heap.element record = base.heap.element record :=
        congrArg ListAtom.element (frame.nodes record source owned different)
      rcases step middle new source record _ extended.live (extended.isExact isExact)
        (frame.owner record source owned different) with ⟨after, performs, further⟩
      rcases extended.draws with ⟨count, length, draws⟩
      rcases further.draws with ⟨more, longer, drawsMore⟩
      refine ⟨after, performs, further.frame, ?_, ?_, frame.trans further.frame, count + more, ?_,
        draws.trans drawsMore⟩
      · rw [further.store, extended.store, Function.update_idem, sameElement, List.map_append,
          List.map_singleton, List.append_assoc]
      · rw [List.map_append, List.map_singleton, <- List.append_assoc, <- sameElement]
        exact fun before => further.isExact (extended.isExact before)
      · rw [List.map_append, List.map_singleton, <- List.append_assoc, <- sameElement, longer,
          length, Nat.add_assoc])
    fuel (by rw [<- represents, List.length_map] at enough; exact enough)
  rcases loop with ⟨after, performs, _, extended⟩
  rw [represents] at extended
  exact ⟨after, performs, extended⟩

/-- A loop that starts with a new empty list. -/
theorem exists_copy {source : Nat} (live : snapshot.store source = some elements)
    {body : Nat -> Heap -> Nat -> Option Heap} {built : List Element -> List Element}
    (empty : built [] = []) (step : Builds body built) {fuel : Nat}
    (enough : snapshot.heap.freshNode <= fuel) :
    exists new opened after, snapshot.heap.listCreateEmpty = (new, opened) ∧
      Chains.walk Heap.next (body new) fuel opened (opened.headers source).head =
        some after.heap ∧ snapshot.Creates new (built elements) after := by
  rcases snapshot.exists_createEmpty with ⟨new, opened, creates, opens⟩
  have different : source ∉ [new] := by
    intro member
    rw [List.mem_singleton] at member
    rw [member, opens.absent] at live
    cases live
  have short := Nat.le_trans (snapshot.length_le live) enough
  have isLive : opened.store new = some (built []) := by
    rw [empty]
    exact opens.live
  have isExact : Exact opened.heap new (built []) := by
    rw [empty]
    exact opens.isExact
  rcases exists_build (opens.frame.live live different) different step isLive isExact short with
    ⟨after, performs, extended⟩
  rcases extended.draws with ⟨count, length, draws⟩
  rw [empty, List.length_nil, Nat.zero_add] at length
  refine ⟨new, opened.heap, after, creates, performs, opens.creates ?_
    (extended.isExact isExact) extended.frame ?_⟩
  · rw [extended.store, opens.store, Function.update_idem]
    rfl
  · change opened.Draws after (built ([] ++ elements)).length
    rw [length]
    exact draws

/-! ## The operations -/

theorem builds_appendCopy : Builds Heap.appendCopy fun passed => passed :=
  fun _ _ _ _ _ live _ owned => exists_appendCopy live owned

theorem builds_prependCopy : Builds Heap.prependCopy List.reverse := by
  intro middle new source record passed live isExact owned
  rw [List.reverse_append, List.reverse_singleton]
  exact exists_prependCopy live isExact owned

theorem builds_filterCopy (predicate : Value -> Bool) :
    Builds (Heap.filterCopy predicate)
      (List.filter fun element => predicate element.value) := by
  intro middle new source record passed live isExact owned
  have sameValue : (middle.heap.element record).value = (middle.heap.nodes record).value := rfl
  rw [List.filter_append]
  by_cases keeps : predicate (middle.heap.nodes record).value
  · rcases exists_appendAtom live (middle.heap.element record) with
      ⟨after, performs, extended⟩
    refine ⟨after, ?_, ?_⟩
    · rw [Heap.filterCopy, if_pos keeps]
      exact performs
    · rw [List.filter_cons_of_pos (by rw [sameValue]; exact keeps)]
      exact extended
  · refine ⟨middle, ?_, ?_, ?_, Frame.refl _ _ _, 0, ?_, Draws.still rfl rfl rfl⟩
    · rw [Heap.filterCopy, if_neg keeps]
    · rw [List.filter_cons_of_neg (by rw [sameValue]; exact keeps), List.filter_nil,
        List.append_nil, <- live, Function.update_eq_self]
    · rw [List.filter_cons_of_neg (by rw [sameValue]; exact keeps), List.filter_nil,
        List.append_nil]
      exact id
    · rw [List.filter_cons_of_neg (by rw [sameValue]; exact keeps), List.filter_nil,
        List.append_nil, Nat.add_zero]

/-- `BCPL_SHALLOW_COPY_LIST`. -/
theorem exists_shallowCopy {source : Nat} (live : snapshot.store source = some elements)
    {fuel : Nat} (enough : snapshot.heap.freshNode <= fuel) :
    exists new after,
      snapshot.heap.shallowCopyList fuel (some source) = some (some new, after.heap) ∧
        snapshot.Creates new elements after := by
  rcases exists_copy live rfl builds_appendCopy enough with
    ⟨new, opened, after, creates, loops, created⟩
  refine ⟨new, after, ?_, created⟩
  rw [Heap.shallowCopyList, creates]
  exact congrArg (Option.map fun copied => (some new, copied)) loops

/-- `BCPL_REVERSE_LIST`. -/
theorem exists_reverse {source : Nat} (live : snapshot.store source = some elements)
    {fuel : Nat} (enough : snapshot.heap.freshNode <= fuel) :
    exists new after,
      snapshot.heap.reverseList fuel (some source) = some (some new, after.heap) ∧
        snapshot.Creates new elements.reverse after := by
  rcases exists_copy live rfl builds_prependCopy enough with
    ⟨new, opened, after, creates, loops, created⟩
  refine ⟨new, after, ?_, created⟩
  rw [Heap.reverseList, creates]
  exact congrArg (Option.map fun copied => (some new, copied)) loops

/-- `BCPL_LIST_FILTER`. -/
theorem exists_filter {source : Nat} (live : snapshot.store source = some elements)
    (predicate : Value -> Bool) {fuel : Nat} (enough : snapshot.heap.freshNode <= fuel) :
    exists new after,
      snapshot.heap.listFilter fuel (some source) (some predicate) =
        some (some new, after.heap) ∧
      snapshot.Creates new (elements.filter fun element => predicate element.value) after := by
  rcases exists_copy live rfl (builds_filterCopy predicate) enough with
    ⟨new, opened, after, creates, loops, created⟩
  refine ⟨new, after, ?_, created⟩
  rw [Heap.listFilter, creates]
  exact congrArg (Option.map fun copied => (some new, copied)) loops

/-- `BCPL_CONCAT_LISTS` of two lists. -/
theorem exists_concat {first second : Nat} {others : List Element}
    (live : snapshot.store first = some elements)
    (liveSecond : snapshot.store second = some others) {fuel : Nat}
    (enough : snapshot.heap.freshNode <= fuel) :
    exists new after,
      snapshot.heap.concatLists fuel (some first) (some second) =
        some (some new, after.heap) ∧ snapshot.Creates new (elements ++ others) after := by
  rcases exists_shallowCopy live enough with ⟨new, copied, copies, created⟩
  have different : second ∉ [new] := by
    intro member
    rw [List.mem_singleton] at member
    rw [member, created.absent] at liveSecond
    cases liveSecond
  have isExact := created.frame.exact new elements created.absent List.not_mem_nil created.live
  rcases exists_build (created.frame.live liveSecond List.not_mem_nil) different
    builds_appendCopy created.live isExact
    (Nat.le_trans (snapshot.length_le liveSecond) enough) with ⟨after, performs, extended⟩
  rcases extended.draws with ⟨count, length, draws⟩
  refine ⟨new, after, ?_, created.absent, ?_, ?_, ?_⟩
  · rw [Heap.concatLists, copies]
    exact congrArg (Option.map fun joined => (some new, joined)) performs
  · rw [extended.store, created.store, Function.update_idem]
  · apply Frame.closeList _ created.absent extended.live (extended.isExact isExact)
    exact (created.frame.weaken (fun _ member => absurd member List.not_mem_nil)
      fun _ member => member).trans extended.frame
  · rw [length]
    exact created.draws.trans draws

end Snapshot

end Runtime
end NewBcpl
