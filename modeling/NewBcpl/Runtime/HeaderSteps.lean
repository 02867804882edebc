import NewBcpl.Runtime.NodeSteps

namespace NewBcpl
namespace Runtime

open Foundations

/-!
# The primitive steps on headers and strings

The header of a new list comes from the pool, or from `malloc` for the copy of a
literal. In both cases nobody used it.
-/

namespace Snapshot

variable {snapshot : Snapshot} {new : Nat}

variable (snapshot) in
/-- The headers of a new chunk. -/
def inHeaderChunk (header : Nat) : Prop :=
  snapshot.heap.freshHeader <= header ∧
    header <= snapshot.heap.freshHeader + headerFreelistChunkSize - 1

instance (header : Nat) : Decidable (snapshot.inHeaderChunk header) :=
  inferInstanceAs (Decidable (_ ∧ _))

theorem requested_not_inHeaderChunk {header : Nat}
    (requested : header < snapshot.heap.freshHeader) : ¬ snapshot.inHeaderChunk header :=
  fun within => Nat.not_lt.mpr within.1 requested

theorem replenish_headers {header : Nat} (requested : header < snapshot.heap.freshHeader) :
    snapshot.heap.replenishHeaderFreelist.headers header = snapshot.heap.headers header :=
  if_neg (requested_not_inHeaderChunk requested)

theorem headerChunkSize_eq : exists count, headerFreelistChunkSize = count + 1 := ⟨2047, rfl⟩

theorem replenish_headerChain :
    Chains.Chain snapshot.heap.replenishHeaderFreelist.nextHeader
      (some snapshot.heap.freshHeader)
      (List.range' snapshot.heap.freshHeader headerFreelistChunkSize ++
        snapshot.freeHeaders) := by
  rcases headerChunkSize_eq with ⟨count, size⟩
  have isFree : Chains.Chain snapshot.heap.replenishHeaderFreelist.nextHeader
      snapshot.heap.headerFreeListHead snapshot.freeHeaders := by
    apply snapshot.headerChain.congr
    intro header member
    exact congrArg ListHeader.head (replenish_headers (snapshot.headersPooled header member))
  rw [size]
  apply Chains.chain_consecutive isFree count
  · intro header above below
    have within : snapshot.heap.freshHeader <= header ∧
        header <= snapshot.heap.freshHeader + headerFreelistChunkSize - 1 := by omega
    change (ite _ _ _ : ListHeader).head = _
    rw [if_pos within]
    have notLast : header ≠ snapshot.heap.freshHeader + headerFreelistChunkSize - 1 := by omega
    exact if_neg notLast
  · have within : snapshot.heap.freshHeader <= snapshot.heap.freshHeader + count ∧
        snapshot.heap.freshHeader + count <=
          snapshot.heap.freshHeader + headerFreelistChunkSize - 1 := by omega
    change (ite _ _ _ : ListHeader).head = _
    rw [if_pos within]
    have isLast : snapshot.heap.freshHeader + count =
        snapshot.heap.freshHeader + headerFreelistChunkSize - 1 := by omega
    exact if_pos isLast

variable (snapshot) in
/-- `replenishHeaderFreelist`. -/
def replenishHeaders : Snapshot :=
  { snapshot with
    heap := snapshot.heap.replenishHeaderFreelist
    freeHeaders := List.range' snapshot.heap.freshHeader headerFreelistChunkSize ++
      snapshot.freeHeaders
    lists := snapshot.lists_kept
      (fun header live => replenish_headers (snapshot.headersRequested header live))
      (fun _ _ _ => rfl) (fun _ _ owned => owned)
    headerChain := replenish_headerChain
    headersUnused := by
      intro header member
      rcases List.mem_append.mp member with new | old
      · rw [List.mem_range'_1] at new
        by_contra live
        exact Nat.not_lt.mpr new.1 (snapshot.headersRequested header live)
      · exact snapshot.headersUnused header old
    headersPooled := by
      intro header member
      change header < snapshot.heap.freshHeader + headerFreelistChunkSize
      rcases List.mem_append.mp member with new | old
      · rw [List.mem_range'_1] at new
        exact new.2
      · exact Nat.lt_add_right _ (snapshot.headersPooled header old)
    headersRequested := fun header live =>
      Nat.lt_add_right _ (snapshot.headersRequested header live) }

/-- A header that is not in use becomes the header of an empty list. -/
structure Unused (snapshot : Snapshot) (header : Nat) : Prop where
  absent : snapshot.store header = none
  unlisted : header ∉ snapshot.freeHeaders
  requested : header < snapshot.heap.freshHeader

/-- The empty list of an unused header. -/
def openList (unused : snapshot.Unused new) (length : Word) : Snapshot :=
  { snapshot with
    heap := snapshot.heap.setHeader new ⟨sentinelType, 0#32, length, none, none⟩
    store := Function.update snapshot.store new (some [])
    lists := by
      intro header others live
      by_cases same : header = new
      · rw [same, Function.update_self] at live
        cases live
        rw [same]
        refine ⟨[], @owned_relisted snapshot.heap snapshot.owner new snapshot.heap.nodes
          ⟨sentinelType, 0#32, length, none, none⟩ [] rfl rfl ?_ ?_, rfl⟩
        · exact fun node member => absurd member List.not_mem_nil
        · exact fun nonempty => absurd rfl nonempty
      · rw [Function.update_of_ne same] at live
        refine @lists_kept snapshot
          (snapshot.heap.setHeader new ⟨sentinelType, 0#32, length, none, none⟩) snapshot.owner ?_
          (fun _ _ _ => rfl) (fun _ _ owned => owned) header others live
        intro other isLive
        apply Function.update_of_ne
        rintro rfl
        exact isLive unused.absent
    owners := by
      intro node header owned
      rw [Function.update_of_ne]
      · exact snapshot.owners node header owned
      · rintro rfl
        exact snapshot.owners node header owned unused.absent
    headerChain := by
      apply snapshot.headerChain.congr
      intro header member
      refine congrArg ListHeader.head (Function.update_of_ne ?_ _ _)
      rintro rfl
      exact unused.unlisted member
    headersUnused := by
      intro header member
      rw [Function.update_of_ne]
      · exact snapshot.headersUnused header member
      · rintro rfl
        exact unused.unlisted member
    headersRequested := by
      intro header live
      by_cases same : header = new
      · rw [same]
        exact unused.requested
      · rw [Function.update_of_ne same] at live
        exact snapshot.headersRequested header live }

theorem openList_header (unused : snapshot.Unused new) (length : Word) :
    (snapshot.openList unused length).heap.headers new =
      ⟨sentinelType, 0#32, length, none, none⟩ :=
  Function.update_self _ _ _

theorem openList_frame (unused : snapshot.Unused new) (length : Word) :
    Frame [new] [] snapshot (snapshot.openList unused length) where
  store _ _ closed := Function.update_of_ne (List.ne_of_not_mem_cons closed) _ _
  headers _ _ closed := Function.update_of_ne (List.ne_of_not_mem_cons closed) _ _
  exact header others absent closed present := by
    rw [show (snapshot.openList unused length).store header = snapshot.store header from
      Function.update_of_ne (List.ne_of_not_mem_cons closed) _ _, absent] at present
    cases present

variable (snapshot) in
theorem replenishHeaders_frame : Frame [] [] snapshot snapshot.replenishHeaders where
  headers header live _ := replenish_headers (snapshot.headersRequested header live)
  sources _ requested := if_neg (requested_not_inHeaderChunk requested)
  headersGrow := Nat.le_add_right _ _

theorem freeHeaders_of_head (first : snapshot.heap.headerFreeListHead = some new) :
    exists rest, snapshot.freeHeaders = new :: rest ∧
      Chains.Chain snapshot.heap.nextHeader (snapshot.heap.nextHeader new) rest := by
  have chain := snapshot.headerChain
  rw [first] at chain
  cases isFree : snapshot.freeHeaders with
  | nil =>
      rw [isFree] at chain
      cases chain
  | cons other rest =>
      rw [isFree] at chain
      cases chain.1
      exact ⟨rest, rfl, chain.2⟩

/-- The first free header is taken. -/
def unlinkHeader (first : snapshot.heap.headerFreeListHead = some new) : Snapshot :=
  { snapshot with
    heap := snapshot.heap.unlinkHeader new
    freeHeaders := snapshot.freeHeaders.tail
    lists := snapshot.lists_kept (fun _ _ => rfl) (fun _ _ _ => rfl) (fun _ _ owned => owned)
    headerChain := by
      rcases freeHeaders_of_head first with ⟨rest, isFree, chain⟩
      rw [isFree, List.tail_cons]
      exact chain
    headersUnused := fun header member =>
      snapshot.headersUnused header (List.mem_of_mem_tail member)
    headersPooled := fun header member =>
      snapshot.headersPooled header (List.mem_of_mem_tail member) }

theorem unlinkHeader_unused (first : snapshot.heap.headerFreeListHead = some new) :
    (unlinkHeader first).Unused new := by
  rcases freeHeaders_of_head first with ⟨rest, isFree, chain⟩
  have member : new ∈ snapshot.freeHeaders := by
    rw [isFree]
    exact List.mem_cons_self
  refine ⟨snapshot.headersUnused new member, ?_, snapshot.headersPooled new member⟩
  have nodup := snapshot.headerChain.nodup
  rw [isFree, List.nodup_cons] at nodup
  change new ∉ snapshot.freeHeaders.tail
  rw [isFree, List.tail_cons]
  exact nodup.1

theorem unlinkHeader_frame (first : snapshot.heap.headerFreeListHead = some new) :
    Frame [] [] snapshot (unlinkHeader first) where

/-- A new empty list. -/
structure Opens (before : Snapshot) (new : Nat) (length : Word) (after : Snapshot) : Prop where
  absent : before.store new = none
  store : after.store = Function.update before.store new (some [])
  header : after.heap.headers new = ⟨sentinelType, 0#32, length, none, none⟩
  nodes : after.heap.nodes = before.heap.nodes
  owner : after.owner = before.owner
  strings : after.heap.strings = before.heap.strings
  frame : Frame [new] [] before after
  draws : before.Draws after 0

variable (snapshot) in
/-- `BCPL_LIST_CREATE_EMPTY`. -/
theorem exists_createEmpty : exists new after,
    snapshot.heap.listCreateEmpty = (new, after.heap) ∧ snapshot.Opens new 0#64 after := by
  cases first : snapshot.heap.headerFreeListHead with
  | some new =>
      have unused := unlinkHeader_unused first
      refine ⟨new, (unlinkHeader first).openList unused 0#64, ?_, unused.absent, rfl,
        openList_header unused _, rfl, rfl, rfl,
        ((unlinkHeader_frame first).weaken (fun _ member => absurd member List.not_mem_nil)
          (fun _ member => member)).trans (openList_frame unused _), Draws.still rfl rfl rfl⟩
      rw [Heap.listCreateEmpty, Heap.getHeaderFromFreelist, first]
      rfl
  | none =>
      have head : snapshot.replenishHeaders.heap.headerFreeListHead =
          some snapshot.heap.freshHeader := rfl
      have unused := unlinkHeader_unused head
      refine ⟨snapshot.heap.freshHeader, (unlinkHeader head).openList unused 0#64, ?_,
        unused.absent, rfl, openList_header unused _, rfl, rfl, rfl,
        ((snapshot.replenishHeaders_frame.trans (unlinkHeader_frame head)).weaken
          (fun _ member => absurd member List.not_mem_nil)
          (fun _ member => member)).trans (openList_frame unused _), Draws.still rfl rfl rfl⟩
      rw [Heap.listCreateEmpty, Heap.getHeaderFromFreelist, first]
      rfl

variable (snapshot) in
/-- A header for the copy of a literal is requested. -/
def requestHeader : Snapshot :=
  { snapshot with
    heap := { snapshot.heap with
      headerSource :=
        Function.update snapshot.heap.headerSource snapshot.heap.freshHeader .malloc
      freshHeader := snapshot.heap.freshHeader + 1 }
    lists := snapshot.lists_kept (fun _ _ => rfl) (fun _ _ _ => rfl) (fun _ _ owned => owned)
    headersPooled := fun header member => Nat.lt_succ_of_lt (snapshot.headersPooled header member)
    headersRequested := fun header live =>
      Nat.lt_succ_of_lt (snapshot.headersRequested header live) }

variable (snapshot) in
theorem requestHeader_unused : snapshot.requestHeader.Unused snapshot.heap.freshHeader where
  absent := by
    by_contra live
    exact Nat.lt_irrefl _ (snapshot.headersRequested _ live)
  unlisted member := Nat.lt_irrefl _ (snapshot.headersPooled _ member)
  requested := Nat.lt_succ_self _

variable (snapshot) in
theorem requestHeader_frame : Frame [] [] snapshot snapshot.requestHeader where
  sources _ requested := Function.update_of_ne (Nat.ne_of_lt requested) _ _
  headersGrow := Nat.le_succ _

variable (snapshot) in
/-- The header of the copy of a literal. -/
theorem exists_mallocHeader (length : Word) : exists new after,
    snapshot.heap.mallocHeader length = (new, after.heap) ∧ snapshot.Opens new length after :=
  ⟨snapshot.heap.freshHeader,
    snapshot.requestHeader.openList snapshot.requestHeader_unused length, rfl,
    snapshot.requestHeader_unused.absent, rfl, openList_header _ _, rfl, rfl, rfl,
    (snapshot.requestHeader_frame.weaken (fun _ member => absurd member List.not_mem_nil)
      (fun _ member => member)).trans (openList_frame _ _), Draws.still rfl rfl rfl⟩

/-! ## Strings -/

variable (snapshot) in
/-- A new string. -/
def allocChars (characters : List (BitVec 32)) : Snapshot :=
  { snapshot with
    heap := (snapshot.heap.allocChars characters).2
    lists := snapshot.lists_kept (fun _ _ => rfl) (fun _ _ _ => rfl) (fun _ _ owned => owned)
    stringsRequested := by
      intro block above
      have bound : snapshot.heap.freshString + 1 <= block := above
      have different : block ≠ snapshot.heap.freshString := by omega
      exact (Function.update_of_ne different _ _).trans
        (snapshot.stringsRequested block (by omega)) }

variable (snapshot) in
theorem allocChars_frame (characters : List (BitVec 32)) :
    Frame [] [] snapshot (snapshot.allocChars characters) where
  strings block content present := by
    have different : block ≠ snapshot.heap.freshString := by
      rintro rfl
      rw [snapshot.stringsRequested _ (Nat.le_refl _)] at present
      cases present
    exact (Function.update_of_ne different _ _).trans present

end Snapshot

end Runtime
end NewBcpl
