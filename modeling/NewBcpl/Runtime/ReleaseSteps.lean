import NewBcpl.Runtime.ListRuns

namespace NewBcpl
namespace Runtime

open Foundations

/-!
# TL and the releases

A node that leaves a list belongs to nobody until it is on the free list. A list that is
released stops being a list first; its nodes are then returned one by one, and its header
last.
-/

/-- What the release of an element tells the allocators, and the strings that are left. -/
def releaseElement (strings : Strings) (element : Element) : List Release × Strings :=
  if element.type = stringType ∨ element.type = listType then
    match element.value with
    | .string (some pointer) =>
        ([.string pointer (strings pointer.block)],
          if pointer.isPayloadOf (strings pointer.block) then
            Function.update strings pointer.block none
          else strings)
    | .list (some header) => ([.nestedHeader header], strings)
    | _ => ([], strings)
  else ([], strings)

def releaseElements : Strings -> List Element -> List Release × Strings
  | strings, [] => ([], strings)
  | strings, element :: rest =>
      let one := releaseElement strings element
      let others := releaseElements one.2 rest
      (one.1 ++ others.1, others.2)

theorem releaseElement_within (strings : Strings) (element : Element) :
    Strings.Within (releaseElement strings element).2 strings := by
  intro block content present
  unfold releaseElement at present
  split at present
  · split at present
    · rename_i pointer _
      dsimp only at present
      split at present
      · by_cases same : block = pointer.block
        · rw [same, Function.update_self] at present
          cases present
        · rw [Function.update_of_ne same] at present
          exact present
      · exact present
    · exact present
    · exact present
  · exact present

namespace Snapshot

variable (snapshot : Snapshot)

/-- The pads stay, and no list gains a node. -/
structure Shrinks (before after : Snapshot) : Prop where
  pads : forall node, (after.heap.nodes node).pad = (before.heap.nodes node).pad
  owner : forall node header, after.owner node = .list header ->
    before.owner node = .list header

theorem Shrinks.trans {before middle after : Snapshot} (first : before.Shrinks middle)
    (second : middle.Shrinks after) : before.Shrinks after where
  pads node := (second.pads node).trans (first.pads node)
  owner node header owned := first.owner node header (second.owner node header owned)

/-! ## One node -/

/-- A node that belongs to nobody goes to the free list. -/
def giveNode (node : Nat) (taken : snapshot.owner node = .nobody)
    (requested : node < snapshot.heap.freshNode) : Snapshot :=
  { snapshot with
    heap := snapshot.heap.returnNodeToFreelist node
    owner := Function.update snapshot.owner node .free
    free := node :: snapshot.free
    lists := @lists_kept snapshot (snapshot.heap.returnNodeToFreelist node)
      (Function.update snapshot.owner node .free) (fun _ _ => rfl)
      (fun other header owned => by
        apply Function.update_of_ne
        rintro rfl
        rw [taken] at owned
        cases owned)
      (fun other header owned => by
        rw [Function.update_of_ne]
        · exact owned
        · rintro rfl
          rw [taken] at owned
          cases owned)
    owners := by
      intro other header owned
      by_cases same : other = node
      · rw [same, Function.update_self] at owned
        cases owned
      · rw [Function.update_of_ne same] at owned
        exact snapshot.owners other header owned
    freeChain := by
      have linked := snapshot.freeChain.prepend (snapshot.next_free taken)
      rw [<- Heap.next_setNode snapshot.heap node
        { snapshot.heap.nodes node with next := snapshot.heap.freeListHead }] at linked
      exact linked
    freeOwned := by
      intro other member
      rcases List.mem_cons.mp member with same | old
      · rw [same, Function.update_self]
      · rw [Function.update_of_ne]
        · exact snapshot.freeOwned other old
        · rintro rfl
          exact snapshot.next_free taken old
    count := by
      change snapshot.heap.freelistNodeCount + 1#64 = _
      rw [snapshot.count, List.length_cons]
      exact (BitVec.ofNat_add _ _).symm
    nodesRequested := by
      intro other owned
      by_cases same : other = node
      · rw [same]
        exact requested
      · rw [Function.update_of_ne same] at owned
        exact snapshot.nodesRequested other owned }

theorem giveNode_shrinks (node : Nat) (taken : snapshot.owner node = .nobody)
    (requested : node < snapshot.heap.freshNode) :
    snapshot.Shrinks (snapshot.giveNode node taken requested) where
  pads other := by
    change (Function.update snapshot.heap.nodes node _ other).pad = _
    by_cases same : other = node
    · rw [same, Function.update_self]
    · rw [Function.update_of_ne same]
  owner other header owned := by
    change Function.update snapshot.owner node .free other = _ at owned
    by_cases same : other = node
    · rw [same, Function.update_self] at owned
      cases owned
    · rw [Function.update_of_ne same] at owned
      exact owned

/-- The strings and the account behind a release. -/
def release (strings : Strings) (releases : List Release)
    (within : strings.Within snapshot.heap.strings) : Snapshot :=
  { snapshot with
    heap := { snapshot.heap with strings := strings, releases := releases }
    lists := snapshot.lists_kept (fun _ _ => rfl) (fun _ _ _ => rfl) (fun _ _ owned => owned)
    stringsRequested := by
      intro block above
      by_contra present
      rcases Option.ne_none_iff_exists'.mp present with ⟨content, known⟩
      have earlier := within block content known
      rw [snapshot.stringsRequested block above] at earlier
      cases earlier }

/-- The body of the loop of `bcpl_free_list`, on an element of the right kind. -/
theorem freeNode_eq (heap : Heap) (node : Nat) (fits : (heap.element node).Fits) :
    heap.freeNode node = some (Heap.returnNodeToFreelist
      { heap with
        strings := (releaseElement heap.strings (heap.element node)).2
        releases := heap.releases ++ (releaseElement heap.strings (heap.element node)).1 } node) := by
  unfold Heap.freeNode
  dsimp only
  rw [releaseElement]
  by_cases pointers : (heap.nodes node).type = stringType ∨ (heap.nodes node).type = listType
  · have same : (heap.element node).type = stringType ∨ (heap.element node).type = listType :=
      pointers
    rw [if_pos pointers, if_pos same]
    have sameValue : (heap.nodes node).value = (heap.element node).value := rfl
    rw [sameValue]
    rcases same with isString | isList
    · rcases fits.1 isString with ⟨pointer, value⟩
      rw [value]
      cases pointer with
      | none => simp [Heap.bcplFree]
      | some pointer => rfl
    · rcases fits.2 isList with ⟨pointer, value⟩
      rw [value]
      cases pointer with
      | none => simp [Heap.bcplFree]
      | some header => rfl
  · have different : ¬ ((heap.element node).type = stringType ∨
        (heap.element node).type = listType) := pointers
    rw [if_neg pointers, if_neg different, List.append_nil]

/-- The nodes are returned, and what they own is released. -/
structure Frees (before : Snapshot) (records : List Nat) (after : Snapshot) : Prop where
  store : after.store = before.store
  free : after.free = records.reverse ++ before.free
  headers : after.heap.headers = before.heap.headers
  sources : after.heap.headerSource = before.heap.headerSource
  freeHeaders : after.freeHeaders = before.freeHeaders
  freshHeader : after.heap.freshHeader = before.heap.freshHeader
  releases : after.heap.releases = before.heap.releases ++
    (releaseElements before.heap.strings (records.map before.heap.element)).1
  shrinks : before.Shrinks after

/-- The loop of `bcpl_free_list` over nodes that nobody owns. -/
theorem exists_freeNodes (records : List Nat) : forall (snapshot : Snapshot)
    (pointer : Option Nat) (fuel : Nat), Chains.Chain snapshot.heap.next pointer records ->
    (forall node, node ∈ records -> snapshot.owner node = .nobody) ->
    (forall node, node ∈ records -> node < snapshot.heap.freshNode) ->
    (forall node, node ∈ records -> (snapshot.heap.element node).Fits) ->
    records.length <= fuel ->
    exists after : Snapshot, snapshot.heap.freeNodes fuel pointer = some after.heap ∧
      snapshot.Frees records after := by
  induction records with
  | nil =>
      intro snapshot pointer fuel chain _ _ _ _
      rw [Chains.chain_nil.mp chain]
      refine ⟨snapshot, ?_, rfl, rfl, rfl, rfl, rfl, rfl, ?_, fun _ => rfl, fun _ _ owned => owned⟩
      · cases fuel <;> rfl
      · exact (List.append_nil _).symm
  | cons node rest ih =>
      intro snapshot pointer fuel chain taken requested fits enough
      cases fuel with
      | zero => exact absurd enough (Nat.not_succ_le_zero _)
      | succ fuel =>
          have nodup := chain.nodup
          rw [List.nodup_cons] at nodup
          rw [chain.1, Heap.freeNodes, freeNode_eq _ _ (fits node List.mem_cons_self)]
          let released := snapshot.release
            (releaseElement snapshot.heap.strings (snapshot.heap.element node)).2
            (snapshot.heap.releases ++
              (releaseElement snapshot.heap.strings (snapshot.heap.element node)).1)
            (releaseElement_within _ _)
          let given := released.giveNode node (taken node List.mem_cons_self)
            (requested node List.mem_cons_self)
          have other {record : Nat} (member : record ∈ rest) : record ≠ node := by
            rintro rfl
            exact nodup.1 member
          have sameNode {record : Nat} (member : record ∈ rest) :
              given.heap.nodes record = snapshot.heap.nodes record :=
            Function.update_of_ne (other member) _ _
          have sameElements : rest.map given.heap.element = rest.map snapshot.heap.element := by
            apply List.map_congr_left
            intro record member
            exact congrArg ListAtom.element (sameNode member)
          have chainGiven : Chains.Chain given.heap.next (snapshot.heap.next node) rest := by
            apply chain.2.congr
            intro record member
            exact congrArg ListAtom.next (sameNode member)
          rcases ih given (snapshot.heap.next node) fuel chainGiven
            (fun record member => (Function.update_of_ne (other member) _ _).trans
              (taken record (List.mem_cons_of_mem _ member)))
            (fun record member => requested record (List.mem_cons_of_mem _ member))
            (fun record member => by
              rw [show given.heap.element record = snapshot.heap.element record from
                congrArg ListAtom.element (sameNode member)]
              exact fits record (List.mem_cons_of_mem _ member))
            (Nat.le_of_succ_le_succ enough) with ⟨after, performs, frees⟩
          refine ⟨after, performs, frees.store, ?_, frees.headers, frees.sources,
            frees.freeHeaders, frees.freshHeader, ?_, ?_⟩
          · rw [frees.free, List.reverse_cons, List.append_assoc]
            rfl
          · rw [frees.releases, sameElements, List.map_cons, releaseElements]
            exact List.append_assoc _ _ _
          · have gives := released.giveNode_shrinks node (taken node List.mem_cons_self)
              (requested node List.mem_cons_self)
            exact (Shrinks.mk gives.pads gives.owner : snapshot.Shrinks given).trans frees.shrinks

/-! ## A whole list -/

/-- A list stops being one; its nodes belong to nobody. -/
def abandon (header : Nat) : Snapshot :=
  { snapshot with
    store := Function.update snapshot.store header none
    owner := fun node =>
      if snapshot.owner node = .list header then .nobody else snapshot.owner node
    lists := by
      intro other elements live
      by_cases same : other = header
      · rw [same, Function.update_self] at live
        cases live
      · rw [Function.update_of_ne same] at live
        rcases snapshot.lists other elements live with ⟨records, isOwned, represents⟩
        refine ⟨records, ⟨isOwned.sentinel, isOwned.chain, ?_, isOwned.tail⟩, represents⟩
        intro node member
        have owned := isOwned.owned node member
        rw [if_neg]
        · exact owned
        · rw [owned]
          exact fun equal => same (Owner.list.inj equal)
    owners := by
      intro node other owned
      by_cases isList : snapshot.owner node = .list header
      · rw [if_pos isList] at owned
        cases owned
      · rw [if_neg isList] at owned
        rw [Function.update_of_ne]
        · exact snapshot.owners node other owned
        · rintro rfl
          exact isList owned
    freeOwned := by
      intro node member
      have isFree := snapshot.freeOwned node member
      rw [if_neg]
      · exact isFree
      · rw [isFree]
        exact Owner.noConfusion
    headersUnused := by
      intro other member
      by_cases same : other = header
      · rw [same, Function.update_self]
      · rw [Function.update_of_ne same]
        exact snapshot.headersUnused other member
    nodesRequested := by
      intro node owned
      apply snapshot.nodesRequested
      intro nobody
      rw [nobody, if_neg (by exact Owner.noConfusion)] at owned
      exact owned rfl
    headersRequested := by
      intro other live
      by_cases same : other = header
      · rw [same, Function.update_self] at live
        exact absurd rfl live
      · rw [Function.update_of_ne same] at live
        exact snapshot.headersRequested other live }

theorem abandon_shrinks (header : Nat) : snapshot.Shrinks (snapshot.abandon header) where
  pads _ := rfl
  owner node other owned := by
    change ite _ _ _ = _ at owned
    by_cases isList : snapshot.owner node = .list header
    · rw [if_pos isList] at owned
      cases owned
    · rw [if_neg isList] at owned
      exact owned

/-- An unused header goes to the free list. -/
def giveHeader (header : Nat) (unused : snapshot.Unused header) : Snapshot :=
  { snapshot with
    heap := snapshot.heap.returnHeaderToFreelist header
    freeHeaders := header :: snapshot.freeHeaders
    lists := @lists_kept snapshot (snapshot.heap.returnHeaderToFreelist header) snapshot.owner
      (fun other live => by
        apply Function.update_of_ne
        rintro rfl
        exact live unused.absent)
      (fun _ _ _ => rfl) (fun _ _ owned => owned)
    headerChain := by
      have same : (snapshot.heap.returnHeaderToFreelist header).nextHeader =
          Function.update snapshot.heap.nextHeader header snapshot.heap.headerFreeListHead := by
        funext other
        change (Function.update snapshot.heap.headers header _ other).head = _
        by_cases isHeader : other = header
        · rw [isHeader, Function.update_self, Function.update_self]
        · rw [Function.update_of_ne isHeader, Function.update_of_ne isHeader]
          rfl
      rw [same]
      exact snapshot.headerChain.prepend unused.unlisted
    headersUnused := by
      intro other member
      rcases List.mem_cons.mp member with same | old
      · rw [same]
        exact unused.absent
      · exact snapshot.headersUnused other old
    headersPooled := by
      intro other member
      rcases List.mem_cons.mp member with same | old
      · rw [same]
        exact unused.requested
      · exact snapshot.headersPooled other old }

/-- `bcpl_free_list` of a list in use. -/
structure FreesList (before : Snapshot) (header : Nat) (records : List Nat)
    (after : Snapshot) : Prop where
  store : after.store = Function.update before.store header none
  free : after.free = records.reverse ++ before.free
  releases : after.heap.releases = before.heap.releases ++
    (releaseElements before.heap.strings (records.map before.heap.element)).1 ++
      [.pooledHeader (before.heap.headerSource header)]
  shrinks : before.Shrinks after

theorem exists_freeList {header : Nat} {elements : List Element} {records : List Nat}
    (live : snapshot.store header = some elements)
    (isOwned : Owned snapshot.heap snapshot.owner header records)
    (fits : forall node, node ∈ records -> (snapshot.heap.element node).Fits)
    {fuel : Nat} (enough : records.length <= fuel) :
    exists after : Snapshot, snapshot.heap.bcplFreeList fuel (some header) = some after.heap ∧
      snapshot.FreesList header records after := by
  let abandoned := snapshot.abandon header
  rcases exists_freeNodes records abandoned (snapshot.heap.headers header).head fuel
    isOwned.chain (fun node member => if_pos (isOwned.owned node member))
    (fun node member => snapshot.nodesRequested node (by
      rw [isOwned.owned node member]
      exact Owner.noConfusion)) fits enough with ⟨freed, performs, frees⟩
  have unused : freed.Unused header := by
    refine ⟨?_, ?_, ?_⟩
    · rw [frees.store]
      exact Function.update_self _ _ _
    · rw [frees.freeHeaders]
      exact snapshot.live_not_free live
    · rw [frees.freshHeader]
      exact snapshot.live_requested live
  refine ⟨freed.giveHeader header unused, ?_, frees.store, frees.free, ?_, ?_⟩
  · rw [Heap.bcplFreeList]
    exact congrArg (Option.map fun heap => Heap.returnHeaderToFreelist heap header) performs
  · change freed.heap.releases ++ [.pooledHeader (freed.heap.headerSource header)] = _
    rw [frees.releases, frees.sources]
    rfl
  · exact (snapshot.abandon_shrinks header).trans ⟨frees.shrinks.pads, frees.shrinks.owner⟩

/-! ## TL -/

/-- The first node of a list belongs to nobody; the length may be any. -/
def dropHead {header node : Nat} {rest : List Nat}
    (isOwned : Owned snapshot.heap snapshot.owner header (node :: rest)) (length : Word) :
    Snapshot :=
  { snapshot with
    heap := snapshot.heap.setHeader header { snapshot.heap.headers header with
      head := snapshot.heap.next node, length := length }
    store := Function.update snapshot.store header (some (rest.map snapshot.heap.element))
    owner := Function.update snapshot.owner node .nobody
    lists := by
      intro other elements live
      have nodup := isOwned.chain.nodup
      rw [List.nodup_cons] at nodup
      by_cases same : other = header
      · rw [same, Function.update_self] at live
        cases live
        rw [same]
        refine ⟨rest, @owned_relisted snapshot.heap (Function.update snapshot.owner node .nobody)
          header snapshot.heap.nodes { snapshot.heap.headers header with
            head := snapshot.heap.next node, length := length } rest isOwned.sentinel
          isOwned.chain.2 ?_ ?_, rfl⟩
        · intro record member
          rw [Function.update_of_ne]
          · exact isOwned.owned record (List.mem_cons_of_mem _ member)
          · rintro rfl
            exact nodup.1 member
        · intro nonempty
          rcases List.exists_cons_of_ne_nil nonempty with ⟨first, others, split⟩
          have tail := isOwned.tail (List.cons_ne_nil node rest)
          rw [split, List.getLast?_cons_cons] at tail
          rw [split]
          exact tail
      · rw [Function.update_of_ne same] at live
        rcases snapshot.lists other elements live with ⟨records, others, represents⟩
        refine ⟨records, (@Owned.congr snapshot.heap
          (snapshot.heap.setHeader header { snapshot.heap.headers header with
            head := snapshot.heap.next node, length := length }) snapshot.owner
          (Function.update snapshot.owner node .nobody) other records others
          (Function.update_of_ne same _ _) (fun _ _ => rfl) ?_).1, represents⟩
        intro record owned
        rw [Function.update_of_ne]
        · exact owned
        · rintro rfl
          rw [isOwned.owned record List.mem_cons_self] at owned
          exact same (Owner.list.inj owned).symm
    owners := by
      intro record other owned
      by_cases same : record = node
      · rw [same, Function.update_self] at owned
        cases owned
      · rw [Function.update_of_ne same] at owned
        by_cases isHeader : other = header
        · rw [isHeader, Function.update_self]
          exact Option.some_ne_none _
        · rw [Function.update_of_ne isHeader]
          exact snapshot.owners record other owned
    freeOwned := by
      intro record member
      rw [Function.update_of_ne]
      · exact snapshot.freeOwned record member
      · rintro rfl
        have isFree := snapshot.freeOwned record member
        rw [isOwned.owned record List.mem_cons_self] at isFree
        cases isFree
    headerChain := by
      apply snapshot.headerChain.congr
      intro other member
      refine congrArg ListHeader.head (Function.update_of_ne ?_ _ _)
      rintro rfl
      exact snapshot.owners node other (isOwned.owned node List.mem_cons_self)
        (snapshot.headersUnused other member)
    headersUnused := by
      intro other member
      rw [Function.update_of_ne]
      · exact snapshot.headersUnused other member
      · rintro rfl
        exact snapshot.owners node other (isOwned.owned node List.mem_cons_self)
          (snapshot.headersUnused other member)
    nodesRequested := by
      intro record owned
      by_cases same : record = node
      · rw [same, Function.update_self] at owned
        exact absurd rfl owned
      · rw [Function.update_of_ne same] at owned
        exact snapshot.nodesRequested record owned
    headersRequested := by
      intro other live
      by_cases same : other = header
      · rw [same]
        exact snapshot.headersRequested header
          (snapshot.owners node header (isOwned.owned node List.mem_cons_self))
      · rw [Function.update_of_ne same] at live
        exact snapshot.headersRequested other live }

/-- TL of a list in use. -/
theorem exists_tailOf {header : Nat} {elements : List Element}
    (live : snapshot.store header = some elements) :
    exists after : Snapshot, snapshot.heap.tailOf (some header) = some after.heap ∧
      after.store = Function.update snapshot.store header (some elements.tail) ∧
      after.heap.releases = snapshot.heap.releases ∧ snapshot.Shrinks after := by
  rcases snapshot.lists header elements live with ⟨records, isOwned, represents⟩
  have first := isOwned.chain.pointer_eq
  cases records with
  | nil =>
      refine ⟨snapshot, ?_, ?_, rfl, fun _ => rfl, fun _ _ owned => owned⟩
      · rw [Heap.tailOf]
        dsimp only
        rw [first]
        rfl
      · rw [<- represents, List.map_nil, List.tail_nil]
        rw [<- represents, List.map_nil] at live
        rw [<- live, Function.update_eq_self]
  | cons node rest =>
      let length := if (snapshot.heap.headers header).length = snapshot.heap.nodeAddress node
        then 0#64 else (snapshot.heap.headers header).length
      let dropped := snapshot.dropHead isOwned length
      have taken : dropped.owner node = .nobody := Function.update_self _ _ _
      have requested : node < dropped.heap.freshNode := snapshot.nodesRequested node (by
        rw [isOwned.owned node List.mem_cons_self]
        exact Owner.noConfusion)
      have drops : snapshot.Shrinks dropped := by
        refine ⟨fun _ => rfl, ?_⟩
        intro other owning owned
        change Function.update snapshot.owner node .nobody other = _ at owned
        by_cases same : other = node
        · rw [same, Function.update_self] at owned
          cases owned
        · rw [Function.update_of_ne same] at owned
          exact owned
      refine ⟨dropped.giveNode node taken requested, ?_, ?_, rfl,
        drops.trans (dropped.giveNode_shrinks node taken requested)⟩
      · rw [Heap.tailOf]
        dsimp only
        rw [first]
        rfl
      · rw [<- represents]
        rfl

/-! ## The node free list as a whole -/

/-- The free nodes belong to nobody. -/
def forgetFree (releases : List Release) : Snapshot :=
  { snapshot with
    heap := { snapshot.heap with
      releases := releases
      freeListHead := none
      freelistNodeCount := 0#64
      totalNodesAllocatedFromHeap := 0#64 }
    owner := fun node => if snapshot.owner node = .free then .nobody else snapshot.owner node
    free := []
    lists := @lists_kept snapshot
      { snapshot.heap with
        releases := releases
        freeListHead := none
        freelistNodeCount := 0#64
        totalNodesAllocatedFromHeap := 0#64 }
      (fun node => if snapshot.owner node = .free then .nobody else snapshot.owner node)
      (fun _ _ => rfl) (fun _ _ _ => rfl)
      (fun node header owned => by
        rw [if_neg]
        · exact owned
        · rw [owned]
          exact Owner.noConfusion)
    owners := by
      intro node header owned
      by_cases isFree : snapshot.owner node = .free
      · rw [if_pos isFree] at owned
        cases owned
      · rw [if_neg isFree] at owned
        exact snapshot.owners node header owned
    freeChain := rfl
    freeOwned := fun _ member => absurd member List.not_mem_nil
    count := rfl
    nodesRequested := by
      intro node owned
      apply snapshot.nodesRequested
      intro nobody
      rw [nobody, if_neg (by exact Owner.noConfusion)] at owned
      exact owned rfl }

/-- `BCPL_FREE_CELLS`. -/
theorem exists_freeCells {fuel : Nat} (enough : snapshot.free.length <= fuel) :
    exists after : Snapshot, snapshot.heap.freeCells fuel = some after.heap ∧
      after.store = snapshot.store ∧ snapshot.Shrinks after ∧
      after.heap.releases = snapshot.heap.releases ++ snapshot.free.map .node := by
  have walks := @Chains.walk_invariant Nat Heap Heap.next Heap.freeCell
    (fun passed heap => heap =
      { snapshot.heap with releases := snapshot.heap.releases ++ passed.map .node })
    snapshot.free
    (by
      rintro passed record rest heap split rfl
      refine ⟨_, rfl, ?_, ?_⟩
      · rw [List.map_append, <- List.append_assoc]
        rfl
      · have chain := snapshot.freeChain
        rw [split] at chain
        exact chain.suffix.2.pointer_eq)
    fuel enough snapshot.heap (by rw [List.map_nil, List.append_nil])
  rcases walks with ⟨heap, performs, rfl⟩
  refine ⟨snapshot.forgetFree (snapshot.heap.releases ++ snapshot.free.map .node), ?_, rfl,
    ⟨fun _ => rfl, ?_⟩, rfl⟩
  · rw [Heap.freeCells, snapshot.freeChain.pointer_eq, performs]
    rfl
  · intro node header owned
    change ite _ _ _ = _ at owned
    by_cases isFree : snapshot.owner node = .free
    · rw [if_pos isFree] at owned
      cases owned
    · rw [if_neg isFree] at owned
      exact owned

/-! ## The calls that give nodes back -/

/-- What a call tells the allocators and the header pool. -/
def releasesOf : Operation -> List Release
  | .freeList (some header) =>
      (releaseElements snapshot.heap.strings (elementsOf snapshot.store (some header))).1 ++
        [.pooledHeader (snapshot.heap.headerSource header)]
  | .freeCells => snapshot.free.map .node
  | _ => []

/-- The call does what the operation on the sequences does, and no list gains a node. -/
structure GivesBack (image : Image) (before : Snapshot) (operation : Operation)
    (after : Snapshot) : Prop where
  performs : Performs image before.heap operation none after.heap
  expected : Expected copiedTrees image before.heap before.store none after.heap after.store
    operation
  shrinks : before.Shrinks after
  releases : after.heap.releases = before.heap.releases ++ before.releasesOf operation
  free : forall header records, operation = .freeList (some header) ->
    Owned before.heap before.owner header records -> after.free = records.reverse ++ before.free

theorem Shrinks.refl : snapshot.Shrinks snapshot where
  pads _ := rfl
  owner _ _ owned := owned

/-- The nodes of a list have values of the kinds that their types say. -/
theorem fits_of_elements {header : Nat} {elements : List Element} {records : List Nat}
    (live : snapshot.store header = some elements)
    (represents : records.map snapshot.heap.element = elements)
    (fits : forall element, element ∈ elementsOf snapshot.store (some header) -> element.Fits)
    (node : Nat) (member : node ∈ records) : (snapshot.heap.element node).Fits := by
  apply fits
  rw [elementsOf_live live, <- represents]
  exact List.mem_map_of_mem member

/-- One valid call that builds no list. -/
theorem exists_giveBack {image : Image} {operation : Operation}
    (builds : operation.builds = false)
    (valid : Valid image snapshot.heap snapshot.store operation) :
    exists after, snapshot.GivesBack image operation after := by
  cases operation with
  | tailOf list =>
      rcases valid with ⟨notNull, known⟩
      cases list with
      | none => exact absurd rfl notNull
      | some header =>
          cases live : snapshot.store header with
          | none => exact absurd live (known header rfl)
          | some elements =>
              rcases snapshot.exists_tailOf live with ⟨after, performs, store, releases, shrinks⟩
              refine ⟨after, ⟨0, by rw [perform, performs]; rfl⟩, ⟨rfl, ?_⟩, shrinks, ?_,
                fun _ _ other => by cases other⟩
              · rw [elementsOf_live live]
                exact store
              · rw [releases]
                exact (List.append_nil _).symm
  | freeList list =>
      rcases valid with ⟨known, fits⟩
      cases list with
      | none =>
          exact ⟨snapshot, ⟨0, rfl⟩, ⟨rfl, rfl⟩, Shrinks.refl snapshot,
            (List.append_nil _).symm, fun _ _ other => by cases other⟩
      | some header =>
          cases live : snapshot.store header with
          | none => exact absurd live (known header rfl)
          | some elements =>
              rcases snapshot.lists header elements live with ⟨records, isOwned, represents⟩
              rcases snapshot.exists_freeList live isOwned
                (snapshot.fits_of_elements live represents fits) (Nat.le_refl _) with
                ⟨after, performs, frees⟩
              refine ⟨after, ⟨_, by rw [perform, performs]; rfl⟩, ⟨rfl, frees.store⟩,
                frees.shrinks, ?_, ?_⟩
              · rw [frees.releases, represents, releasesOf, elementsOf_live live,
                  List.append_assoc]
              · rintro other others ⟨⟩ isOther
                rw [isOther.chain.unique isOwned.chain]
                exact frees.free
  | freeCells =>
      rcases snapshot.exists_freeCells (Nat.le_refl _) with
        ⟨after, performs, store, shrinks, releases⟩
      exact ⟨after, ⟨_, by rw [perform, performs]; rfl⟩, ⟨rfl, store⟩, shrinks, releases,
        fun _ _ other => by cases other⟩
  | _ => cases builds

end Snapshot

end Runtime
end NewBcpl
