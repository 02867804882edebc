import NewBcpl.Runtime.HeapInvariant

namespace NewBcpl
namespace Runtime

open Foundations

/-!
# The primitive steps on nodes

Each step that the functions of the runtime are composed of takes a snapshot to a
snapshot: a write to a taken node, the free list of the nodes, and the link of a taken
node to a list.
-/

theorem Owned.congr {heap other : Heap} {owner others : Nat -> Owner} {header : Nat}
    {records : List Nat} (isOwned : Owned heap owner header records)
    (sameHeader : other.headers header = heap.headers header)
    (sameNodes : forall node, owner node = .list header ->
      other.nodes node = heap.nodes node)
    (sameOwner : forall node, owner node = .list header -> others node = .list header) :
    Owned other others header records ∧ records.map other.element = records.map heap.element := by
  constructor
  · refine ⟨by rw [sameHeader]; exact isOwned.sentinel, ?_, ?_, ?_⟩
    · rw [sameHeader]
      apply isOwned.chain.congr
      intro node member
      exact congrArg ListAtom.next (sameNodes node (isOwned.owned node member))
    · intro node member
      exact sameOwner node (isOwned.owned node member)
    · rw [sameHeader]
      exact isOwned.tail
  · apply List.map_congr_left
    intro node member
    exact congrArg ListAtom.element (sameNodes node (isOwned.owned node member))

@[simp] theorem Heap.next_setNode (heap : Heap) (node : Nat) (atom : ListAtom) :
    (heap.setNode node atom).next = Function.update heap.next node atom.next := by
  funext other
  change (Function.update heap.nodes node atom other).next = _
  by_cases same : other = node
  · rw [same, Function.update_self, Function.update_self]
  · rw [Function.update_of_ne same, Function.update_of_ne same]
    rfl

theorem count_pred (count : Nat) :
    BitVec.ofNat 64 (count + 1) - 1#64 = BitVec.ofNat 64 count := by
  rw [BitVec.ofNat_add]
  exact BitVec.add_sub_cancel _ _

namespace Snapshot

variable (snapshot : Snapshot)

/-- The lists of a heap that agrees on their headers and nodes. -/
theorem lists_kept {heap : Heap} {owner : Nat -> Owner}
    (sameHeaders : forall header, snapshot.store header ≠ none ->
      heap.headers header = snapshot.heap.headers header)
    (sameNodes : forall node header, snapshot.owner node = .list header ->
      heap.nodes node = snapshot.heap.nodes node)
    (sameOwner : forall node header, snapshot.owner node = .list header ->
      owner node = .list header) (header : Nat) (elements : List Element)
    (live : snapshot.store header = some elements) :
    exists records, Owned heap owner header records ∧ records.map heap.element = elements := by
  rcases snapshot.lists header elements live with ⟨records, isOwned, represents⟩
  have kept := isOwned.congr (sameHeaders header (by rw [live]; exact Option.some_ne_none _))
    (fun node => sameNodes node header) (fun node => sameOwner node header)
  exact ⟨records, kept.1, kept.2.trans represents⟩

theorem next_free {node : Nat} (taken : snapshot.owner node = .nobody) :
    node ∉ snapshot.free := by
  intro member
  have isFree := snapshot.freeOwned node member
  rw [taken] at isFree
  cases isFree

/-! ## Nodes -/

/-- A write to a node that nobody owns. -/
def writeNode (node : Nat) (atom : ListAtom) (taken : snapshot.owner node = .nobody) :
    Snapshot :=
  { snapshot with
    heap := snapshot.heap.setNode node atom
    lists := snapshot.lists_kept (fun _ _ => rfl)
      (fun other header owned => by
        apply Function.update_of_ne
        rintro rfl
        rw [taken] at owned
        cases owned)
      (fun _ _ owned => owned)
    freeChain := by
      apply snapshot.freeChain.congr
      intro other member
      rw [Heap.next_setNode, Function.update_of_ne]
      rintro rfl
      exact snapshot.next_free taken member }

theorem writeNode_frame (node : Nat) (atom : ListAtom)
    (taken : snapshot.owner node = .nobody)
    (pad : atom.pad = (snapshot.heap.nodes node).pad ∨ atom.pad = 0#32) :
    Frame [] [node] snapshot (snapshot.writeNode node atom taken) where
  pads other := by
    change (Function.update snapshot.heap.nodes node atom other).pad = _ ∨
      (Function.update snapshot.heap.nodes node atom other).pad = _
    by_cases same : other = node
    · rw [same, Function.update_self]
      exact pad
    · rw [Function.update_of_ne same]
      exact .inl rfl
  nodes other header owned _ := by
    apply Function.update_of_ne
    rintro rfl
    rw [taken] at owned
    cases owned
  contents other _ _ different := by
    apply Function.update_of_ne
    rw [List.mem_singleton] at different
    exact different

/-- The account of a node whose pad is left. -/
def leavePad (node : Nat) : Snapshot :=
  { snapshot with
    heap := snapshot.heap.leavePad node
    lists := snapshot.lists_kept (fun _ _ => rfl) (fun _ _ _ => rfl) (fun _ _ owned => owned) }

theorem leavePad_frame (node : Nat) : Frame [] [] snapshot (snapshot.leavePad node) where
  leftPads := List.prefix_append _ _

/-- The nodes of a new chunk. -/
def inChunk (node : Nat) : Prop :=
  snapshot.heap.freshNode <= node ∧
    node <= snapshot.heap.freshNode + initialFreelistChunkSize - 1

instance (node : Nat) : Decidable (snapshot.inChunk node) :=
  inferInstanceAs (Decidable (_ ∧ _))

theorem owned_not_inChunk {node : Nat} (owned : snapshot.owner node ≠ .nobody) :
    ¬ snapshot.inChunk node := by
  intro within
  exact Nat.not_lt.mpr within.1 (snapshot.nodesRequested node owned)

theorem replenish_nodes {node : Nat} (owned : snapshot.owner node ≠ .nobody) :
    snapshot.heap.replenishFreelist.nodes node = snapshot.heap.nodes node :=
  if_neg (snapshot.owned_not_inChunk owned)

theorem chunkSize_eq : exists count, initialFreelistChunkSize = count + 1 := ⟨8191, rfl⟩

theorem replenish_chain :
    Chains.Chain snapshot.heap.replenishFreelist.next (some snapshot.heap.freshNode)
      (List.range' snapshot.heap.freshNode initialFreelistChunkSize ++ snapshot.free) := by
  rcases chunkSize_eq with ⟨count, size⟩
  have isFree : Chains.Chain snapshot.heap.replenishFreelist.next snapshot.heap.freeListHead
      snapshot.free := by
    apply snapshot.freeChain.congr
    intro node member
    refine congrArg ListAtom.next (snapshot.replenish_nodes ?_)
    rw [snapshot.freeOwned node member]
    exact Owner.noConfusion
  rw [size]
  apply Chains.chain_consecutive isFree count
  · intro node above below
    have within : snapshot.heap.freshNode <= node ∧
        node <= snapshot.heap.freshNode + initialFreelistChunkSize - 1 := by omega
    change (ite _ _ _ : ListAtom).next = _
    rw [if_pos within]
    have notLast : node ≠ snapshot.heap.freshNode + initialFreelistChunkSize - 1 := by omega
    exact if_neg notLast
  · have within : snapshot.heap.freshNode <= snapshot.heap.freshNode + count ∧
        snapshot.heap.freshNode + count <=
          snapshot.heap.freshNode + initialFreelistChunkSize - 1 := by omega
    change (ite _ _ _ : ListAtom).next = _
    rw [if_pos within]
    have isLast : snapshot.heap.freshNode + count =
        snapshot.heap.freshNode + initialFreelistChunkSize - 1 := by omega
    exact if_pos isLast

/-- `replenishFreelist`. -/
def replenish : Snapshot :=
  { snapshot with
    heap := snapshot.heap.replenishFreelist
    owner := fun node => if snapshot.inChunk node then .free else snapshot.owner node
    free := List.range' snapshot.heap.freshNode initialFreelistChunkSize ++ snapshot.free
    lists := snapshot.lists_kept (fun _ _ => rfl)
      (fun node header owned => snapshot.replenish_nodes (by rw [owned]; exact Owner.noConfusion))
      (fun node header owned => by
        rw [if_neg (snapshot.owned_not_inChunk (by rw [owned]; exact Owner.noConfusion))]
        exact owned)
    owners := fun node header owned => by
      by_cases within : snapshot.inChunk node
      · rw [if_pos within] at owned
        cases owned
      · rw [if_neg within] at owned
        exact snapshot.owners node header owned
    freeChain := snapshot.replenish_chain
    freeOwned := by
      intro node member
      rcases List.mem_append.mp member with new | old
      · rw [List.mem_range'_1] at new
        exact if_pos ⟨new.1, by omega⟩
      · have isFree := snapshot.freeOwned node old
        rw [if_neg (snapshot.owned_not_inChunk (by rw [isFree]; exact Owner.noConfusion))]
        exact isFree
    count := by
      change snapshot.heap.freelistNodeCount + _ = _
      rw [snapshot.count, List.length_append, List.length_range', Nat.add_comm,
        BitVec.ofNat_add]
    nodesRequested := by
      intro node owned
      change node < snapshot.heap.freshNode + initialFreelistChunkSize
      rcases chunkSize_eq with ⟨count, size⟩
      by_cases within : snapshot.inChunk node
      · have bound := within.2
        omega
      · rw [if_neg within] at owned
        have bound := snapshot.nodesRequested node owned
        omega }

theorem replenish_frame : Frame [] [] snapshot snapshot.replenish where
  pads node := by
    change (ite _ _ _ : ListAtom).pad = _ ∨ (ite _ _ _ : ListAtom).pad = _
    split <;> exact .inl rfl
  gained node header owned := by
    change ite _ _ _ = _ at owned
    by_cases within : snapshot.inChunk node
    · rw [if_pos within] at owned
      cases owned
    · rw [if_neg within] at owned
      exact .inl ⟨header, owned⟩
  owner node header owned _ := by
    change ite _ _ _ = _
    rw [if_neg (snapshot.owned_not_inChunk (by rw [owned]; exact Owner.noConfusion))]
    exact owned
  nodes node header owned _ :=
    snapshot.replenish_nodes (by rw [owned]; exact Owner.noConfusion)
  taken node taken requested _ := by
    change ite _ _ _ = _
    rw [if_neg fun within => Nat.not_lt.mpr within.1 requested]
    exact taken
  contents node _ requested _ := if_neg fun within => Nat.not_lt.mpr within.1 requested
  nodesGrow := Nat.le_add_right _ _

theorem free_of_head {node : Nat} (first : snapshot.heap.freeListHead = some node) :
    exists rest, snapshot.free = node :: rest := by
  have chain := snapshot.freeChain
  rw [first] at chain
  cases isFree : snapshot.free with
  | nil =>
      rw [isFree] at chain
      cases chain
  | cons other rest =>
      rw [isFree] at chain
      cases chain.1
      exact ⟨rest, rfl⟩

theorem unlinked_chain {node : Nat} (first : snapshot.heap.freeListHead = some node) :
    Chains.Chain snapshot.heap.next (snapshot.heap.next node) snapshot.free.tail := by
  rcases snapshot.free_of_head first with ⟨rest, isFree⟩
  have chain := snapshot.freeChain
  rw [isFree] at chain
  rw [isFree]
  exact chain.2

theorem unlinked_owner {node : Nat} (first : snapshot.heap.freeListHead = some node)
    {other header : Nat} (owned : snapshot.owner other = .list header) :
    Function.update snapshot.owner node .nobody other = .list header := by
  rcases snapshot.free_of_head first with ⟨rest, isFree⟩
  rw [Function.update_of_ne]
  · exact owned
  · rintro rfl
    rw [snapshot.freeOwned other (by rw [isFree]; exact List.mem_cons_self)] at owned
    cases owned

/-- The first free node is taken. -/
def unlink (node : Nat) (first : snapshot.heap.freeListHead = some node) : Snapshot :=
  { snapshot with
    heap := snapshot.heap.unlinkNode node
    owner := Function.update snapshot.owner node .nobody
    free := snapshot.free.tail
    lists := snapshot.lists_kept (fun _ _ => rfl) (fun _ _ _ => rfl)
      (fun _ _ owned => snapshot.unlinked_owner first owned)
    owners := fun other header owned => by
      by_cases same : other = node
      · rw [same, Function.update_self] at owned
        cases owned
      · rw [Function.update_of_ne same] at owned
        exact snapshot.owners other header owned
    freeChain := snapshot.unlinked_chain first
    freeOwned := by
      intro other member
      rcases snapshot.free_of_head first with ⟨rest, isFree⟩
      have nodup := snapshot.freeChain.nodup
      rw [isFree, List.tail_cons] at member
      rw [isFree, List.nodup_cons] at nodup
      rw [Function.update_of_ne]
      · exact snapshot.freeOwned other (by rw [isFree]; exact List.mem_cons_of_mem _ member)
      · rintro rfl
        exact nodup.1 member
    count := by
      rcases snapshot.free_of_head first with ⟨rest, isFree⟩
      change snapshot.heap.freelistNodeCount - 1#64 = _
      rw [snapshot.count, isFree, List.length_cons, List.tail_cons]
      exact count_pred rest.length
    nodesRequested := by
      intro other owned
      by_cases same : other = node
      · rw [same, Function.update_self] at owned
        exact absurd rfl owned
      · rw [Function.update_of_ne same] at owned
        exact snapshot.nodesRequested other owned }

theorem unlink_frame (node : Nat) (first : snapshot.heap.freeListHead = some node) :
    Frame [] [] snapshot (snapshot.unlink node first) where
  owner _ _ owned _ := snapshot.unlinked_owner first owned
  gained other header owned := by
    change Function.update snapshot.owner node .nobody other = _ at owned
    by_cases same : other = node
    · rw [same, Function.update_self] at owned
      cases owned
    · rw [Function.update_of_ne same] at owned
      exact .inl ⟨header, owned⟩
  taken other taken _ _ := by
    by_cases same : other = node
    · rw [same]
      exact Function.update_self _ _ _
    · exact (Function.update_of_ne same _ _).trans taken

/-- A node that was free or did not exist becomes taken. -/
structure Takes (before : Snapshot) (node : Nat) (after : Snapshot) : Prop where
  store : after.store = before.store
  taken : after.owner node = .nobody
  requested : node < after.heap.freshNode
  new : before.owner node = .nobody -> before.heap.freshNode <= node
  headers : after.heap.headers = before.heap.headers
  strings : after.heap.strings = before.heap.strings
  frame : Frame [] [] before after
  drawn : before.upcoming 0 = node
  draws : before.Draws after 1
  leftPads : after.heap.leftPads = before.heap.leftPads

theorem unlink_upcoming {node : Nat} (first : snapshot.heap.freeListHead = some node)
    (index : Nat) :
    (snapshot.unlink node first).upcoming index = snapshot.upcoming (index + 1) := by
  rcases snapshot.free_of_head first with ⟨rest, isFree⟩
  change (snapshot.free.tail[index]?).getD
    (snapshot.heap.freshNode + (index - snapshot.free.tail.length)) = _
  rw [upcoming, isFree, List.tail_cons, List.getElem?_cons_succ, List.length_cons,
    Nat.add_sub_add_right]

/-- A new chunk gives the nodes that it was asked for. -/
theorem replenish_upcoming (empty : snapshot.free = []) (index : Nat) :
    snapshot.replenish.upcoming index = snapshot.upcoming index := by
  have isFree : snapshot.replenish.free =
      List.range' snapshot.heap.freshNode initialFreelistChunkSize := by
    change _ ++ snapshot.free = _
    rw [empty, List.append_nil]
  have fresh : snapshot.replenish.heap.freshNode =
      snapshot.heap.freshNode + initialFreelistChunkSize := rfl
  rw [upcoming, upcoming, isFree, fresh, empty, List.getElem?_nil, List.length_nil,
    List.length_range']
  by_cases within : index < initialFreelistChunkSize
  · rw [List.getElem?_range' within, Option.getD_some, Option.getD_none]
    omega
  · rw [List.getElem?_eq_none (by rw [List.length_range']; omega), Option.getD_none,
      Option.getD_none]
    omega

theorem unlink_draws {node : Nat} (first : snapshot.heap.freeListHead = some node) :
    snapshot.Draws (snapshot.unlink node first) 1 where
  upcoming := snapshot.unlink_upcoming first
  leftPads := List.prefix_rfl
  left other member := by
    change other ∈ snapshot.heap.leftPads.drop snapshot.heap.leftPads.length at member
    rw [List.drop_length] at member
    exact absurd member List.not_mem_nil

theorem replenish_draws (empty : snapshot.free = []) :
    snapshot.Draws snapshot.replenish 0 where
  upcoming := snapshot.replenish_upcoming empty
  leftPads := List.prefix_rfl
  left other member := by
    change other ∈ snapshot.heap.leftPads.drop snapshot.heap.leftPads.length at member
    rw [List.drop_length] at member
    exact absurd member List.not_mem_nil

theorem upcoming_head {node : Nat} (first : snapshot.heap.freeListHead = some node) :
    snapshot.upcoming 0 = node := by
  rcases snapshot.free_of_head first with ⟨rest, isFree⟩
  rw [upcoming, isFree]
  rfl

/-- `getNodeFromFreelist`. -/
theorem exists_takeNode : exists node after,
    snapshot.heap.getNodeFromFreelist = (node, after.heap) ∧ snapshot.Takes node after := by
  cases first : snapshot.heap.freeListHead with
  | some node =>
      rcases snapshot.free_of_head first with ⟨rest, isFree⟩
      have owned := snapshot.freeOwned node (by rw [isFree]; exact List.mem_cons_self)
      refine ⟨node, snapshot.unlink node first, ?_, rfl, Function.update_self _ _ _, ?_, ?_, rfl,
        rfl, snapshot.unlink_frame node first, snapshot.upcoming_head first,
        snapshot.unlink_draws first, rfl⟩
      · rw [Heap.getNodeFromFreelist, first]
        rfl
      · apply snapshot.nodesRequested
        rw [owned]
        exact Owner.noConfusion
      · intro taken
        rw [owned] at taken
        cases taken
  | none =>
      have head : snapshot.replenish.heap.freeListHead = some snapshot.heap.freshNode := rfl
      have empty : snapshot.free = [] := by
        have chain := snapshot.freeChain
        rw [first] at chain
        exact chain.unique (Chains.chain_nil.mpr rfl)
      have drawn := snapshot.replenish.upcoming_head head
      rw [snapshot.replenish_upcoming empty] at drawn
      refine ⟨snapshot.heap.freshNode, snapshot.replenish.unlink snapshot.heap.freshNode head, ?_,
        rfl, Function.update_self _ _ _, ?_, fun _ => Nat.le_refl _, rfl, rfl,
        snapshot.replenish_frame.trans (snapshot.replenish.unlink_frame _ head), drawn,
        (snapshot.replenish_draws empty).trans (snapshot.replenish.unlink_draws head), rfl⟩
      · rw [Heap.getNodeFromFreelist, first]
        rfl
      · rcases chunkSize_eq with ⟨count, size⟩
        change snapshot.heap.freshNode < snapshot.heap.freshNode + initialFreelistChunkSize
        omega

/-! ## The nodes and the header of one list -/

/-- The heap with other nodes and another header of one list. -/
def Relisted (heap : Heap) (new : Nat) (nodes : Nat -> ListAtom) (header : ListHeader) :
    Heap :=
  { heap with nodes := nodes, headers := Function.update heap.headers new header }

theorem header_relisted (heap : Heap) (new : Nat) (nodes : Nat -> ListAtom)
    (header : ListHeader) : (Relisted heap new nodes header).headers new = header :=
  Function.update_self _ _ _

theorem owned_relisted {heap : Heap} {owner : Nat -> Owner} {new : Nat}
    {nodes : Nat -> ListAtom} {header : ListHeader} {records : List Nat}
    (sentinel : header.type = sentinelType)
    (chain : Chains.Chain (fun node => (nodes node).next) header.head records)
    (owned : forall node, node ∈ records -> owner node = .list new)
    (tail : records ≠ [] -> header.tail = records.getLast?) :
    Owned (Relisted heap new nodes header) owner new records where
  sentinel := by
    rw [header_relisted]
    exact sentinel
  chain := by
    rw [header_relisted]
    exact chain
  owned := owned
  tail := by
    rw [header_relisted]
    exact tail

/-- A taken node becomes a node of a list. -/
structure Relinks (new node : Nat) (nodes : Nat -> ListAtom) (header : ListHeader)
    (elements : List Element) : Prop where
  live : snapshot.store new ≠ none
  taken : snapshot.owner node = .nobody
  requested : node < snapshot.heap.freshNode
  others : forall other, snapshot.owner other ≠ .list new -> other ≠ node ->
    nodes other = snapshot.heap.nodes other
  pads : forall other, (nodes other).pad = (snapshot.heap.nodes other).pad
  represents : exists records,
    Owned (Relisted snapshot.heap new nodes header)
      (Function.update snapshot.owner node (.list new)) new records ∧
      records.map (Relisted snapshot.heap new nodes header).element = elements

variable {snapshot}
variable {new node : Nat} {nodes : Nat -> ListAtom} {header : ListHeader}
  {elements : List Element}

namespace Relinks

theorem header_other (_ : snapshot.Relinks new node nodes header elements) {other : Nat}
    (different : other ≠ new) :
    (Relisted snapshot.heap new nodes header).headers other = snapshot.heap.headers other :=
  Function.update_of_ne different _ _

theorem node_other (relinks : snapshot.Relinks new node nodes header elements) {other : Nat}
    (owned : snapshot.owner other ≠ .nobody) (different : snapshot.owner other ≠ .list new) :
    (Relisted snapshot.heap new nodes header).nodes other = snapshot.heap.nodes other := by
  apply relinks.others other different
  rintro rfl
  exact owned relinks.taken

theorem owner_other (relinks : snapshot.Relinks new node nodes header elements) {other : Nat}
    (owned : snapshot.owner other ≠ .nobody) :
    Function.update snapshot.owner node (.list new) other = snapshot.owner other := by
  apply Function.update_of_ne
  rintro rfl
  exact owned relinks.taken

theorem new_not_free (relinks : snapshot.Relinks new node nodes header elements) :
    new ∉ snapshot.freeHeaders := fun member =>
  relinks.live (snapshot.headersUnused new member)

/-- The snapshot behind the link. -/
def after (relinks : snapshot.Relinks new node nodes header elements) : Snapshot :=
  { snapshot with
    heap := Relisted snapshot.heap new nodes header
    store := Function.update snapshot.store new (some elements)
    owner := Function.update snapshot.owner node (.list new)
    lists := by
      intro other others live
      by_cases same : other = new
      · rw [same, Function.update_self] at live
        cases live
        rw [same]
        exact relinks.represents
      · rw [Function.update_of_ne same] at live
        rcases snapshot.lists other others live with ⟨records, isOwned, represents⟩
        have kept := @Owned.congr snapshot.heap (Relisted snapshot.heap new nodes header)
          snapshot.owner (Function.update snapshot.owner node (.list new)) other records isOwned
          (relinks.header_other same)
          (fun record owned => relinks.node_other (by rw [owned]; exact Owner.noConfusion)
            (by rw [owned]; exact fun equal => same (Owner.list.inj equal)))
          (fun record owned => by
            rw [relinks.owner_other (by rw [owned]; exact Owner.noConfusion)]
            exact owned)
        exact ⟨records, kept.1, kept.2.trans represents⟩
    owners := by
      intro other owning owned
      by_cases same : other = node
      · rw [same, Function.update_self] at owned
        cases owned
        rw [Function.update_self]
        exact Option.some_ne_none elements
      · rw [Function.update_of_ne same] at owned
        by_cases isNew : owning = new
        · rw [isNew, Function.update_self]
          exact Option.some_ne_none elements
        · rw [Function.update_of_ne isNew]
          exact snapshot.owners other owning owned
    freeChain := by
      apply snapshot.freeChain.congr
      intro other member
      have isFree := snapshot.freeOwned other member
      refine congrArg ListAtom.next (relinks.node_other ?_ ?_) <;> rw [isFree] <;>
        exact Owner.noConfusion
    freeOwned := by
      intro other member
      have isFree := snapshot.freeOwned other member
      rw [relinks.owner_other (by rw [isFree]; exact Owner.noConfusion)]
      exact isFree
    headerChain := by
      apply snapshot.headerChain.congr
      intro other member
      refine congrArg ListHeader.head (relinks.header_other ?_)
      rintro rfl
      exact relinks.new_not_free member
    headersUnused := by
      intro other member
      rw [Function.update_of_ne]
      · exact snapshot.headersUnused other member
      · rintro rfl
        exact relinks.new_not_free member
    nodesRequested := by
      intro other owned
      by_cases same : other = node
      · rw [same]
        exact relinks.requested
      · rw [Function.update_of_ne same] at owned
        exact snapshot.nodesRequested other owned
    headersRequested := by
      intro other live
      by_cases same : other = new
      · rw [same]
        exact snapshot.headersRequested new relinks.live
      · rw [Function.update_of_ne same] at live
        exact snapshot.headersRequested other live }

theorem frame (relinks : snapshot.Relinks new node nodes header elements) :
    Frame [new] [node] snapshot relinks.after where
  pads other := .inl (relinks.pads other)
  gained other owning owned := by
    change Function.update snapshot.owner node (.list new) other = _ at owned
    by_cases same : other = node
    · exact .inr (.inl (List.mem_singleton.mpr same))
    · rw [Function.update_of_ne same] at owned
      exact .inl ⟨owning, owned⟩
  store other _ closed := Function.update_of_ne (List.ne_of_not_mem_cons closed) _ _
  headers other _ closed := relinks.header_other (List.ne_of_not_mem_cons closed)
  owner other owning owned _ :=
    (relinks.owner_other (by rw [owned]; exact Owner.noConfusion)).trans owned
  nodes other owning owned closed :=
    relinks.node_other (by rw [owned]; exact Owner.noConfusion)
      (by rw [owned]; exact fun equal => List.ne_of_not_mem_cons closed (Owner.list.inj equal))
  taken other taken _ closed :=
    (Function.update_of_ne (List.ne_of_not_mem_cons closed) _ _).trans taken
  contents other taken _ closed :=
    relinks.others other (by rw [taken]; exact Owner.noConfusion)
      (List.ne_of_not_mem_cons closed)
  exact other others absent closed present := by
    rw [show relinks.after.store other = snapshot.store other from
      Function.update_of_ne (List.ne_of_not_mem_cons closed) _ _, absent] at present
    cases present

end Relinks

/-- A taken node becomes a node of a list, whose length stays what it was. -/
structure Links (before : Snapshot) (new node : Nat) (elements : List Element)
    (after : Snapshot) : Prop where
  store : after.store = Function.update before.store new (some elements)
  length : (after.heap.headers new).length = (before.heap.headers new).length
  strings : after.heap.strings = before.heap.strings
  frame : Frame [new] [node] before after
  draws : before.Draws after 0

theorem Relinks.links (relinks : snapshot.Relinks new node nodes header elements)
    (length : header.length = (snapshot.heap.headers new).length) :
    snapshot.Links new node elements relinks.after where
  store := rfl
  length := by
    change ((Relisted snapshot.heap new nodes header).headers new).length = _
    rw [header_relisted]
    exact length
  strings := rfl
  frame := relinks.frame
  draws := Draws.still rfl rfl rfl

/-- The first node of an empty list. -/
theorem relinks_only (live : snapshot.store new = some [])
    (taken : snapshot.owner node = .nobody) (requested : node < snapshot.heap.freshNode)
    (ends : snapshot.heap.next node = none) :
    snapshot.Relinks new node snapshot.heap.nodes
      { snapshot.heap.headers new with head := some node, tail := some node }
      [snapshot.heap.element node] where
  live := by
    rw [live]
    exact Option.some_ne_none _
  taken := taken
  requested := requested
  others _ _ _ := rfl
  pads _ := rfl
  represents := by
    rcases snapshot.lists new [] live with ⟨records, isOwned, _⟩
    refine ⟨[node], owned_relisted isOwned.sentinel ⟨rfl, ends⟩ ?_ fun _ => rfl, rfl⟩
    intro other member
    rw [List.mem_singleton] at member
    rw [member, Function.update_self]

/-- A node behind the last one. -/
theorem relinks_last {before : List Nat} {last : Nat}
    (isOwned : Owned snapshot.heap snapshot.owner new (before ++ [last]))
    (live : snapshot.store new = some ((before ++ [last]).map snapshot.heap.element))
    (taken : snapshot.owner node = .nobody) (requested : node < snapshot.heap.freshNode)
    (ends : snapshot.heap.next node = none) :
    snapshot.Relinks new node
      (Function.update snapshot.heap.nodes last
        { snapshot.heap.nodes last with next := some node })
      { snapshot.heap.headers new with tail := some node }
      ((before ++ [last]).map snapshot.heap.element ++ [snapshot.heap.element node]) where
  live := by
    rw [live]
    exact Option.some_ne_none _
  taken := taken
  requested := requested
  others other apart _ := by
    apply Function.update_of_ne
    rintro rfl
    exact apart (isOwned.owned other (List.mem_append_right _ List.mem_cons_self))
  pads other := by
    by_cases same : other = last
    · rw [same, Function.update_self]
    · rw [Function.update_of_ne same]
  represents := by
    have new_node : node ∉ before ++ [last] := by
      intro member
      have owned := isOwned.owned node member
      rw [taken] at owned
      cases owned
    have sameElement (other : Nat) : (Function.update snapshot.heap.nodes last
        { snapshot.heap.nodes last with next := some node } other).element =
          snapshot.heap.element other := by
      by_cases same : other = last
      · rw [same, Function.update_self]
        rfl
      · rw [Function.update_of_ne same]
        rfl
    refine ⟨before ++ [last] ++ [node], owned_relisted isOwned.sentinel ?_ ?_ ?_, ?_⟩
    · have chain := isOwned.chain.append new_node ends
      rw [<- Heap.next_setNode snapshot.heap last
        { snapshot.heap.nodes last with next := some node }] at chain
      exact chain
    · intro other member
      rcases List.mem_append.mp member with old | isNode
      · rw [Function.update_of_ne]
        · exact isOwned.owned other old
        · rintro rfl
          exact new_node old
      · rw [List.mem_singleton] at isNode
        rw [isNode, Function.update_self]
    · intro _
      rw [List.getLast?_concat]
    · rw [List.map_append]
      congr 1
      · exact List.map_congr_left fun other _ => sameElement other
      · exact congrArg (fun element => [element]) (sameElement node)

/-- The end of an append. -/
theorem exists_linkLast (live : snapshot.store new = some elements)
    (taken : snapshot.owner node = .nobody) (requested : node < snapshot.heap.freshNode)
    (ends : snapshot.heap.next node = none) :
    exists after : Snapshot, snapshot.heap.linkLast new node = some after.heap ∧
      snapshot.Links new node (elements ++ [snapshot.heap.element node]) after := by
  rcases snapshot.lists new elements live with ⟨records, isOwned, represents⟩
  have head := isOwned.chain.pointer_eq
  rcases List.eq_nil_or_concat records with empty | ⟨before, last, split⟩
  · rw [empty] at represents head
    cases represents
    refine ⟨(relinks_only live taken requested ends).after, ?_,
      (relinks_only live taken requested ends).links rfl⟩
    rw [Heap.linkLast, head]
    rfl
  · rw [List.concat_eq_append] at split
    subst split
    have isLive := represents ▸ live
    have relinks := relinks_last isOwned isLive taken requested ends
    refine ⟨relinks.after, ?_, represents ▸ relinks.links rfl⟩
    have tail := isOwned.tail (List.append_ne_nil_of_right_ne_nil _ (List.cons_ne_nil last []))
    rw [List.getLast?_concat] at tail
    rw [Heap.linkLast, head, tail]
    cases before <;> rfl

/-- A node in front of a list, as `prependCopy` links it. -/
theorem exists_linkFirst (live : snapshot.store new = some elements)
    (taken : snapshot.owner node = .nobody) (requested : node < snapshot.heap.freshNode)
    (follows : snapshot.heap.next node = (snapshot.heap.headers new).head)
    (isExact : Exact snapshot.heap new elements) :
    exists after : Snapshot,
      snapshot.heap.setHeader new { snapshot.heap.headers new with
        head := some node
        tail := if (snapshot.heap.headers new).tail = none then some node
          else (snapshot.heap.headers new).tail } = after.heap ∧
      snapshot.Links new node (snapshot.heap.element node :: elements) after := by
  rcases snapshot.lists new elements live with ⟨records, isOwned, represents⟩
  have relinks : snapshot.Relinks new node snapshot.heap.nodes
      { snapshot.heap.headers new with
        head := some node
        tail := if (snapshot.heap.headers new).tail = none then some node
          else (snapshot.heap.headers new).tail }
      (snapshot.heap.element node :: elements) := by
    refine ⟨by rw [live]; exact Option.some_ne_none _, taken, requested, fun _ _ _ => rfl,
      fun _ => rfl, node :: records, owned_relisted isOwned.sentinel ⟨rfl, ?_⟩ ?_ ?_, ?_⟩
    · change Chains.Chain snapshot.heap.next (snapshot.heap.next node) records
      rw [follows]
      exact isOwned.chain
    · intro other member
      rcases List.mem_cons.mp member with isNode | old
      · rw [isNode, Function.update_self]
      · rw [Function.update_of_ne]
        · exact isOwned.owned other old
        · rintro rfl
          have owned := isOwned.owned other old
          rw [taken] at owned
          cases owned
    · intro _
      cases records with
      | nil =>
          have noTail := isExact.tail represents.symm
          dsimp only
          rw [if_pos noTail]
          rfl
      | cons first rest =>
          have tail := isOwned.tail (List.cons_ne_nil first rest)
          dsimp only
          rw [List.getLast?_cons_cons, <- tail, if_neg]
          rw [tail]
          simp
    · rw [List.map_cons, <- represents]
      rfl
  exact ⟨relinks.after, rfl, relinks.links rfl⟩

/-- Another length of a list. -/
def setLength (live : snapshot.store new = some elements) (length : Word) : Snapshot :=
  { snapshot with
    heap := snapshot.heap.setHeader new { snapshot.heap.headers new with length := length }
    lists := by
      intro header others isLive
      rcases snapshot.lists header others isLive with ⟨records, isOwned, represents⟩
      by_cases same : header = new
      · rw [same] at isOwned ⊢
        exact ⟨records, @owned_relisted snapshot.heap snapshot.owner new snapshot.heap.nodes
          { snapshot.heap.headers new with length := length } records isOwned.sentinel
          isOwned.chain isOwned.owned isOwned.tail, represents⟩
      · exact ⟨records, (@Owned.congr snapshot.heap
          (snapshot.heap.setHeader new { snapshot.heap.headers new with length := length })
          snapshot.owner snapshot.owner header records isOwned (Function.update_of_ne same _ _)
          (fun _ _ => rfl) fun _ owned => owned).1, represents⟩
    headerChain := by
      apply snapshot.headerChain.congr
      intro header member
      refine congrArg ListHeader.head (Function.update_of_ne ?_ _ _)
      rintro rfl
      exact snapshot.live_not_free live member }

theorem setLength_header (live : snapshot.store new = some elements) (length : Word) :
    (setLength live length).heap.headers new =
      { snapshot.heap.headers new with length := length } :=
  Function.update_self _ _ _

theorem setLength_frame (live : snapshot.store new = some elements) (length : Word) :
    Frame [new] [] snapshot (setLength live length) where
  headers _ _ closed := Function.update_of_ne (List.ne_of_not_mem_cons closed) _ _

end Snapshot

end Runtime
end NewBcpl
