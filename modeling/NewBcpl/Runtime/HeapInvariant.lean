import Mathlib.Tactic.Common
import NewBcpl.Runtime.ListHeap

namespace NewBcpl
namespace Runtime

open Foundations

/-!
# The invariant of the list heap

A snapshot is a heap with the sequences that its lists represent. Every node belongs
to one list, to the free list or to nobody, so that the chains of two lists have no
node in common; the same holds of headers. Each primitive step of the runtime is a
step from snapshot to snapshot, and a frame says what it leaves alone.
-/

/-- The elements of the lists of a program. -/
abbrev Store := Nat -> Option (List Element)

/-- Who may follow a pointer to a node. -/
inductive Owner where
  | nobody
  | free
  | list (header : Nat)
  deriving DecidableEq, Repr

/-- The records are those of the list with the given header. -/
structure Owned (heap : Heap) (owner : Nat -> Owner) (header : Nat)
    (records : List Nat) : Prop where
  sentinel : (heap.headers header).type = sentinelType
  chain : Chains.Chain heap.next (heap.headers header).head records
  owned : forall node, node ∈ records -> owner node = .list header
  tail : records ≠ [] -> (heap.headers header).tail = records.getLast?

/-- The length and the tail of a list that no operation has opened. -/
structure Exact (heap : Heap) (header : Nat) (elements : List Element) : Prop where
  length : (heap.headers header).length = BitVec.ofNat 64 elements.length
  tail : elements = [] -> (heap.headers header).tail = none

theorem Exact.of_header {before after : Heap} {header : Nat} {elements : List Element}
    (isExact : Exact before header elements)
    (same : after.headers header = before.headers header) : Exact after header elements where
  length := by
    rw [same]
    exact isExact.length
  tail empty := by
    rw [same]
    exact isExact.tail empty

structure Snapshot where
  heap : Heap
  store : Store
  owner : Nat -> Owner
  free : List Nat
  freeHeaders : List Nat
  lists : forall header elements, store header = some elements ->
    exists records, Owned heap owner header records ∧ records.map heap.element = elements
  owners : forall node header, owner node = .list header -> store header ≠ none
  freeChain : Chains.Chain heap.next heap.freeListHead free
  freeOwned : forall node, node ∈ free -> owner node = .free
  count : heap.freelistNodeCount = BitVec.ofNat 64 free.length
  headerChain : Chains.Chain heap.nextHeader heap.headerFreeListHead freeHeaders
  headersUnused : forall header, header ∈ freeHeaders -> store header = none
  headersPooled : forall header, header ∈ freeHeaders -> header < heap.freshHeader
  nodesRequested : forall node, owner node ≠ .nobody -> node < heap.freshNode
  headersRequested : forall header, store header ≠ none -> header < heap.freshHeader
  stringsRequested : forall block, heap.freshString <= block -> heap.strings block = none

namespace Snapshot

variable (snapshot : Snapshot)

theorem live_not_free {header : Nat} {elements : List Element}
    (live : snapshot.store header = some elements) : header ∉ snapshot.freeHeaders := by
  intro member
  have unused := snapshot.headersUnused header member
  rw [live] at unused
  cases unused

theorem live_requested {header : Nat} {elements : List Element}
    (live : snapshot.store header = some elements) : header < snapshot.heap.freshHeader := by
  apply snapshot.headersRequested
  rw [live]
  exact Option.some_ne_none elements

end Snapshot

/-- What a step that releases nothing leaves alone: the lists and the taken nodes that are
not opened, and the strings. A list that the step creates is exact unless it is opened;
the pad of a node that a list gains is zero unless it was left as it was. The proofs that
a field stays as it is can be left out. -/
structure Frame (openLists openNodes : List Nat) (before after : Snapshot) : Prop where
  store : forall header, before.store header ≠ none -> header ∉ openLists ->
    after.store header = before.store header := by exact fun _ _ _ => rfl
  headers : forall header, before.store header ≠ none -> header ∉ openLists ->
    after.heap.headers header = before.heap.headers header := by exact fun _ _ _ => rfl
  owner : forall node header, before.owner node = .list header -> header ∉ openLists ->
    after.owner node = .list header := by exact fun _ _ owned _ => owned
  nodes : forall node header, before.owner node = .list header -> header ∉ openLists ->
    after.heap.nodes node = before.heap.nodes node := by exact fun _ _ _ _ => rfl
  taken : forall node, before.owner node = .nobody -> node < before.heap.freshNode ->
    node ∉ openNodes -> after.owner node = .nobody := by exact fun _ taken _ _ => taken
  contents : forall node, before.owner node = .nobody -> node < before.heap.freshNode ->
    node ∉ openNodes -> after.heap.nodes node = before.heap.nodes node := by
      exact fun _ _ _ _ => rfl
  exact : forall header elements, before.store header = none -> header ∉ openLists ->
    after.store header = some elements -> Exact after.heap header elements := by
      exact fun _ _ absent _ present => absurd (absent.symm.trans present) nofun
  strings : forall block content, before.heap.strings block = some content ->
    after.heap.strings block = some content := by exact fun _ _ present => present
  pads : forall node, (after.heap.nodes node).pad = (before.heap.nodes node).pad ∨
    (after.heap.nodes node).pad = 0#32 := by exact fun _ => .inl rfl
  leftPads : before.heap.leftPads <+: after.heap.leftPads := by exact List.prefix_rfl
  gained : forall node header, after.owner node = .list header ->
    (exists earlier, before.owner node = .list earlier) ∨ node ∈ openNodes ∨
      (after.heap.nodes node).pad = 0#32 ∨
      node ∈ after.heap.leftPads.drop before.heap.leftPads.length := by
      exact fun _ header owned => .inl ⟨header, owned⟩
  releases : after.heap.releases = before.heap.releases := by exact rfl
  sources : forall header, header < before.heap.freshHeader ->
    after.heap.headerSource header = before.heap.headerSource header := by
      exact fun _ _ => rfl
  nodesGrow : before.heap.freshNode <= after.heap.freshNode := by exact Nat.le_refl _
  headersGrow : before.heap.freshHeader <= after.heap.freshHeader := by exact Nat.le_refl _

namespace Frame

variable {openLists openNodes : List Nat} {before middle after : Snapshot}

theorem refl (openLists openNodes : List Nat) (snapshot : Snapshot) :
    Frame openLists openNodes snapshot snapshot := {}

theorem live (frame : Frame openLists openNodes before after) {header : Nat}
    {elements : List Element} (live : before.store header = some elements)
    (closed : header ∉ openLists) : after.store header = some elements := by
  rw [frame.store header (by rw [live]; exact Option.some_ne_none elements) closed]
  exact live

theorem header (frame : Frame openLists openNodes before after) {header : Nat}
    {elements : List Element} (live : before.store header = some elements)
    (closed : header ∉ openLists) :
    after.heap.headers header = before.heap.headers header :=
  frame.headers header (by rw [live]; exact Option.some_ne_none elements) closed

theorem trans (first : Frame openLists openNodes before middle) (second : Frame openLists openNodes middle after) :
    Frame openLists openNodes before after where
  store header present closed := by
    have kept := first.store header present closed
    rw [second.store header (by rw [kept]; exact present) closed]
    exact kept
  headers header present closed := by
    have kept := first.store header present closed
    rw [second.headers header (by rw [kept]; exact present) closed]
    exact first.headers header present closed
  owner node header owned closed :=
    second.owner node header (first.owner node header owned closed) closed
  nodes node header owned closed := by
    rw [second.nodes node header (first.owner node header owned closed) closed]
    exact first.nodes node header owned closed
  taken node taken requested closed :=
    second.taken node (first.taken node taken requested closed)
      (Nat.lt_of_lt_of_le requested first.nodesGrow) closed
  contents node taken requested closed := by
    rw [second.contents node (first.taken node taken requested closed)
      (Nat.lt_of_lt_of_le requested first.nodesGrow) closed]
    exact first.contents node taken requested closed
  exact header elements absent closed present := by
    cases between : middle.store header with
    | none => exact second.exact header elements between closed present
    | some known =>
        have kept := second.live between closed
        rw [present] at kept
        cases kept
        exact (first.exact header elements absent closed between).of_header
          (second.header between closed)
  strings block content present :=
    second.strings block content (first.strings block content present)
  pads node := by
    rcases second.pads node with same | zero
    · rw [same]
      exact first.pads node
    · exact .inr zero
  leftPads := first.leftPads.trans second.leftPads
  gained node header owned := by
    rcases second.gained node header owned with ⟨earlier, atMiddle⟩ | opened | zero | left
    · rcases first.gained node earlier atMiddle with atStart | opened | zero | left
      · exact .inl atStart
      · exact .inr (.inl opened)
      · rcases second.pads node with same | isZero
        · exact .inr (.inr (.inl (same.trans zero)))
        · exact .inr (.inr (.inl isZero))
      · exact .inr (.inr (.inr ((second.leftPads.drop _).mem left)))
    · exact .inr (.inl opened)
    · exact .inr (.inr (.inl zero))
    · refine .inr (.inr (.inr ?_))
      exact (List.drop_subset_drop_left _ first.leftPads.length_le) left
  releases := second.releases.trans first.releases
  sources header requested :=
    (second.sources header (Nat.lt_of_lt_of_le requested first.headersGrow)).trans
      (first.sources header requested)
  nodesGrow := Nat.le_trans first.nodesGrow second.nodesGrow
  headersGrow := Nat.le_trans first.headersGrow second.headersGrow

/-- More lists and nodes may be opened. -/
theorem weaken {fewer : List Nat} {less : List Nat} (frame : Frame fewer less before after)
    (moreLists : forall header, header ∈ fewer -> header ∈ openLists)
    (moreNodes : forall node, node ∈ less -> node ∈ openNodes) : Frame openLists openNodes before after where
  store header present closed := frame.store header present fun member => closed (moreLists _ member)
  headers header present closed :=
    frame.headers header present fun member => closed (moreLists _ member)
  owner node header owned closed :=
    frame.owner node header owned fun member => closed (moreLists _ member)
  nodes node header owned closed :=
    frame.nodes node header owned fun member => closed (moreLists _ member)
  taken node taken requested closed :=
    frame.taken node taken requested fun member => closed (moreNodes _ member)
  contents node taken requested closed :=
    frame.contents node taken requested fun member => closed (moreNodes _ member)
  exact header elements absent closed present :=
    frame.exact header elements absent (fun member => closed (moreLists _ member)) present
  strings := frame.strings
  pads := frame.pads
  leftPads := frame.leftPads
  gained node header owned := by
    rcases frame.gained node header owned with earlier | opened | filled
    · exact .inl earlier
    · exact .inr (.inl (moreNodes node opened))
    · exact .inr (.inr filled)
  releases := frame.releases
  sources := frame.sources
  nodesGrow := frame.nodesGrow
  headersGrow := frame.headersGrow

/-- A node that was not taken before and is filled at the end does not count as opened. -/
theorem closeNodes (frame : Frame openLists openNodes before after)
    (new : forall node, node ∈ openNodes -> before.owner node = .nobody ->
      before.heap.freshNode <= node)
    (filled : forall node, node ∈ openNodes -> (after.heap.nodes node).pad = 0#32 ∨
      node ∈ after.heap.leftPads.drop before.heap.leftPads.length) :
    Frame openLists [] before after where
  store := frame.store
  headers := frame.headers
  owner := frame.owner
  nodes := frame.nodes
  taken node taken requested _ :=
    frame.taken node taken requested fun member =>
      Nat.not_lt.mpr (new node member taken) requested
  contents node taken requested _ :=
    frame.contents node taken requested fun member =>
      Nat.not_lt.mpr (new node member taken) requested
  exact := frame.exact
  strings := frame.strings
  pads := frame.pads
  leftPads := frame.leftPads
  gained node header owned := by
    rcases frame.gained node header owned with earlier | opened | clear
    · exact .inl earlier
    · exact .inr (.inr (filled node opened))
    · exact .inr (.inr clear)
  releases := frame.releases
  sources := frame.sources
  nodesGrow := frame.nodesGrow
  headersGrow := frame.headersGrow

/-- A list that did not exist before and is exact at the end does not count as opened. -/
theorem closeList {new : Nat} {elements : List Element} (frame : Frame [new] openNodes before after)
    (absent : before.store new = none) (present : after.store new = some elements)
    (isExact : Exact after.heap new elements) :
    Frame [] openNodes before after where
  store header live _ :=
    frame.store header live fun member => by
      rw [List.mem_singleton] at member
      rw [member] at live
      exact live absent
  headers header live _ :=
    frame.headers header live fun member => by
      rw [List.mem_singleton] at member
      rw [member] at live
      exact live absent
  owner node header owned _ :=
    frame.owner node header owned fun member => by
      rw [List.mem_singleton] at member
      rw [member] at owned
      exact before.owners node new owned absent
  nodes node header owned _ :=
    frame.nodes node header owned fun member => by
      rw [List.mem_singleton] at member
      rw [member] at owned
      exact before.owners node new owned absent
  taken := frame.taken
  contents := frame.contents
  exact header others missing _ here := by
    by_cases same : header = new
    · rw [same, present] at here
      cases here
      rw [same]
      exact isExact
    · exact frame.exact header others missing (by rw [List.mem_singleton]; exact same) here
  strings := frame.strings
  pads := frame.pads
  leftPads := frame.leftPads
  gained := frame.gained
  releases := frame.releases
  sources := frame.sources
  nodesGrow := frame.nodesGrow
  headersGrow := frame.headersGrow

end Frame

namespace Snapshot

/-- The node that a request gives when that many others were given before it: the free
nodes come first, then those of new chunks. -/
def upcoming (snapshot : Snapshot) (index : Nat) : Nat :=
  snapshot.free[index]?.getD (snapshot.heap.freshNode + (index - snapshot.free.length))

/-- A step takes that many nodes, and only they go on the account of the pads. -/
structure Draws (before after : Snapshot) (count : Nat) : Prop where
  upcoming : forall index, after.upcoming index = before.upcoming (index + count)
  leftPads : before.heap.leftPads <+: after.heap.leftPads
  left : forall node, node ∈ after.heap.leftPads.drop before.heap.leftPads.length ->
    exists index, index < count ∧ before.upcoming index = node

namespace Draws

variable {before middle after : Snapshot} {count more : Nat}

/-- A step that takes no node. -/
theorem still (free : after.free = before.free)
    (fresh : after.heap.freshNode = before.heap.freshNode)
    (pads : after.heap.leftPads = before.heap.leftPads) : before.Draws after 0 where
  upcoming index := by
    rw [Snapshot.upcoming, Snapshot.upcoming, free, fresh, Nat.add_zero]
  leftPads := by
    rw [pads]
  left node member := by
    rw [pads, List.drop_length] at member
    exact absurd member List.not_mem_nil

theorem trans (first : before.Draws middle count) (second : middle.Draws after more) :
    before.Draws after (count + more) where
  upcoming index := by
    rw [second.upcoming, first.upcoming]
    congr 1
    omega
  leftPads := first.leftPads.trans second.leftPads
  left node member := by
    rcases first.leftPads with ⟨earlier, isMiddle⟩
    rcases second.leftPads with ⟨later, isAfter⟩
    have left := first.left
    have leftLater := second.left
    rw [<- isMiddle, List.drop_left] at left
    rw [<- isAfter, List.drop_left] at leftLater
    rw [<- isAfter, <- isMiddle, List.append_assoc, List.drop_left, List.mem_append] at member
    rcases member with old | new
    · rcases left node old with ⟨index, below, isNode⟩
      exact ⟨index, Nat.lt_add_right more below, isNode⟩
    · rcases leftLater node new with ⟨index, below, isNode⟩
      refine ⟨index + count, by omega, ?_⟩
      rw [<- first.upcoming]
      exact isNode

/-- Steps behind the last request. -/
theorem before_still (draws : before.Draws middle count) (free : after.free = middle.free)
    (fresh : after.heap.freshNode = middle.heap.freshNode)
    (pads : after.heap.leftPads = middle.heap.leftPads) : before.Draws after count :=
  draws.trans (still free fresh pads)

end Draws

end Snapshot

end Runtime
end NewBcpl
