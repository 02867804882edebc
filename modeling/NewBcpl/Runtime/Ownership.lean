import NewBcpl.Runtime.ListOperations
import NewBcpl.Runtime.ReleaseSteps

namespace NewBcpl
namespace Runtime

open Foundations

/-!
# What is given back

Nodes and pooled headers come out of chunks, strings and the headers of copied literals
from the allocators. A release is proper if it gives a string to the allocator with the
pointer that it returned, or a header of the pool to the pool. A list is released
properly if it has a pooled header, no nested lists and strings of its own; the free
nodes are never released properly one by one.
-/

/-- The release gives something back to where it came from. -/
def Release.proper : Release -> Bool
  | .string pointer block => pointer.isPayloadOf block
  | .pooledHeader source => source = .pool
  | .nestedHeader _ | .node _ => false

/-- The string that a release gives back. -/
def Release.block : Release -> Option Nat
  | .string pointer _ => some pointer.block
  | _ => none

/-- The string that an element points to. -/
def Element.stringPointer (element : Element) : Option StringPointer :=
  if element.type = stringType then
    match element.value with
    | .string pointer => pointer
    | _ => none
  else none

/-- The nodes of a list and of the lists in it. -/
inductive Reaches (heap : Heap) : Nat -> Nat -> Prop where
  | own {header node : Nat} {records : List Nat}
      (chain : Chains.Chain heap.next (heap.headers header).head records)
      (member : node ∈ records) : Reaches heap header node
  | nested {header node inner other : Nat} {records : List Nat}
      (chain : Chains.Chain heap.next (heap.headers header).head records)
      (member : node ∈ records) (isList : heap.element node = ⟨listType, .list (some inner)⟩)
      (reaches : Reaches heap inner other) : Reaches heap header other

/-- The node free list, its count, and that no node of a list is on it. -/
structure FreeNodes (heap : Heap) (store : Store) (free : List Nat) : Prop where
  chain : Chains.Chain heap.next heap.freeListHead free
  count : heap.freelistNodeCount = BitVec.ofNat 64 free.length
  nodup : free.Nodup
  apart : forall header, store header ≠ none -> forall records,
    Chains.Chain heap.next (heap.headers header).head records -> forall node, node ∈ records ->
      node ∉ free

/-- A release of a list puts all nodes on the free list and gives every string of the
list back once, with the pointer that the allocator returned. -/
def GivesAllBack (heap after : Heap) (header : Nat) : Prop :=
  (forall node, Reaches heap header node ->
    exists free, Chains.Chain after.next after.freeListHead free ∧ node ∈ free) ∧
  forall node block content, Reaches heap header node ->
    (heap.element node).stringPointer.map StringPointer.block = some block ->
    heap.strings block = some content -> content.readOnly = false ->
      ((after.releases.drop heap.releases.length).map Release.block).count (some block) = 1 ∧
        .string ⟨block, .firstCharacter⟩ (some content) ∈
          after.releases.drop heap.releases.length

/-- The free list is in order and everything was given back to where it came from. -/
def ownership (image : Image) : Contract where
  holds heap store := (exists free, FreeNodes heap store free) ∧
    forall release, release ∈ heap.releases -> release.proper = true
  valid := Valid image
  expected heap store result after store' operation :=
    Expected copiedTrees image heap store result after store' operation ∧
      forall header, operation = .freeList (some header) -> GivesAllBack heap after header

/-- A list that is released has a header of the pool, no nested lists, and pointers to
different strings, each the one that the allocator returned and not released before; the
free nodes are only released when there are none. -/
def ReleasesSafely (heap : Heap) (store : Store) : Operation -> Prop
  | .freeList (some header) =>
      heap.headerSource header = .pool ∧
        (forall element, element ∈ elementsOf store (some header) -> element.type = listType ->
          element.value = .list none) ∧
        (forall pointer,
          pointer ∈ (elementsOf store (some header)).filterMap Element.stringPointer ->
            pointer.isPayloadOf (heap.strings pointer.block) = true) ∧
        (((elementsOf store (some header)).filterMap Element.stringPointer).map
          StringPointer.block).Nodup
  | .freeCells => heap.freeListHead = none
  | _ => True

/-! ## The releases of one list -/

section Elements

/-- An element without a string releases nothing. -/
theorem releaseElement_none {strings : Strings} {element : Element} (fits : element.Fits)
    (flat : element.type = listType -> element.value = .list none)
    (noString : element.stringPointer = none) : releaseElement strings element = ([], strings) := by
  unfold releaseElement
  split
  · rename_i isPointer
    rcases isPointer with isString | isList
    · rcases fits.1 isString with ⟨pointer, isPointer⟩
      rw [Element.stringPointer, if_pos isString, isPointer] at noString
      cases noString
      rw [isPointer]
    · rw [flat isList]
  · rfl

/-- An element with a string that the allocator knows releases it. -/
theorem releaseElement_some {strings : Strings} {element : Element} {pointer : StringPointer}
    (isString : element.stringPointer = some pointer)
    (payload : pointer.isPayloadOf (strings pointer.block) = true) :
    releaseElement strings element = ([.string pointer (strings pointer.block)],
      Function.update strings pointer.block none) := by
  unfold Element.stringPointer at isString
  split at isString
  · rename_i type
    split at isString
    · rename_i value
      unfold releaseElement
      rw [if_pos (.inl type), value, isString]
      dsimp only
      rw [if_pos payload]
    · cases isString
  · cases isString

/-- The releases of a list with strings of its own. -/
theorem releaseElements_eq {strings : Strings} {elements : List Element}
    (fits : forall element, element ∈ elements -> element.Fits)
    (flat : forall element, element ∈ elements -> element.type = listType ->
      element.value = .list none)
    (payloads : forall pointer, pointer ∈ elements.filterMap Element.stringPointer ->
      pointer.isPayloadOf (strings pointer.block) = true)
    (apart : ((elements.filterMap Element.stringPointer).map StringPointer.block).Nodup) :
    (releaseElements strings elements).1 =
      (elements.filterMap Element.stringPointer).map fun pointer =>
        .string pointer (strings pointer.block) := by
  induction elements generalizing strings with
  | nil => rfl
  | cons element rest ih =>
      have restFits := fun other member => fits other (List.mem_cons_of_mem element member)
      have restFlat := fun other member => flat other (List.mem_cons_of_mem element member)
      rw [releaseElements]
      cases isString : element.stringPointer with
      | none =>
          rw [List.filterMap_cons_none isString] at payloads apart ⊢
          rw [releaseElement_none (fits element List.mem_cons_self)
            (flat element List.mem_cons_self) isString]
          exact ih restFits restFlat payloads apart
      | some pointer =>
          rw [List.filterMap_cons_some isString] at payloads apart ⊢
          rw [List.map_cons, List.nodup_cons] at apart
          rw [releaseElement_some isString (payloads pointer List.mem_cons_self), List.map_cons]
          have unchanged {other : StringPointer}
              (member : other ∈ rest.filterMap Element.stringPointer) :
              Function.update strings pointer.block none other.block = strings other.block := by
            apply Function.update_of_ne
            intro same
            apply apart.1
            rw [<- same]
            exact List.mem_map_of_mem member
          have others := @ih (Function.update strings pointer.block none) restFits restFlat
            (by
              intro other member
              rw [unchanged member]
              exact payloads other (List.mem_cons_of_mem pointer member)) apart.2
          dsimp only
          rw [others, List.singleton_append]
          congr 1
          apply List.map_congr_left
          intro other member
          rw [unchanged member]

end Elements

/-- The one that the allocator returned for a block. -/
theorem StringPointer.eq_payload {pointer : StringPointer} {content : StringBlock}
    (payload : pointer.isPayloadOf (some content) = true) :
    pointer = ⟨pointer.block, .firstCharacter⟩ := by
  rw [StringPointer.isPayloadOf, Bool.and_eq_true, decide_eq_true_eq] at payload
  rw [<- payload.1]

namespace Snapshot

variable {snapshot after : Snapshot} {image : Image} {operation : Operation}
  {result : Option Nat}

/-- All releases so far were proper. -/
def Proper (snapshot : Snapshot) : Prop :=
  forall release, release ∈ snapshot.heap.releases -> release.proper = true

theorem freeNodes (snapshot : Snapshot) :
    FreeNodes snapshot.heap snapshot.store snapshot.free where
  chain := snapshot.freeChain
  count := snapshot.count
  nodup := snapshot.freeChain.nodup
  apart header live records chain node member isFree := by
    cases known : snapshot.store header with
    | none => exact live known
    | some elements =>
        rcases snapshot.lists header elements known with ⟨others, isOwned, _⟩
        rw [chain.unique isOwned.chain] at member
        have owned := isOwned.owned node member
        rw [snapshot.freeOwned node isFree] at owned
        cases owned

theorem Proper.holds (proper : snapshot.Proper) (image : Image) :
    (ownership image).holds snapshot.heap snapshot.store :=
  ⟨⟨snapshot.free, snapshot.freeNodes⟩, proper⟩

/-! ## One release of a list -/

section Lists

variable {header : Nat} {elements : List Element} {records : List Nat}

/-- What a safe release of a list tells the allocators. -/
theorem releasesOf_freeList
    (valid : Valid image snapshot.heap snapshot.store (.freeList (some header)))
    (safe : ReleasesSafely snapshot.heap snapshot.store (.freeList (some header))) :
    snapshot.releasesOf (.freeList (some header)) =
      ((elementsOf snapshot.store (some header)).filterMap Element.stringPointer).map
        (fun pointer => .string pointer (snapshot.heap.strings pointer.block)) ++
          [.pooledHeader .pool] := by
  rcases safe with ⟨pooled, flat, payloads, apart⟩
  rw [releasesOf, releaseElements_eq valid.2 flat payloads apart, pooled]

theorem releasesOf_proper
    (valid : Valid image snapshot.heap snapshot.store operation)
    (safe : ReleasesSafely snapshot.heap snapshot.store operation) {release : Release}
    (member : release ∈ snapshot.releasesOf operation) : release.proper = true := by
  cases operation with
  | freeList list =>
      cases list with
      | none => exact absurd member List.not_mem_nil
      | some header =>
          rw [releasesOf_freeList valid safe, List.mem_append, List.mem_map,
            List.mem_singleton] at member
          rcases member with ⟨pointer, isPointer, rfl⟩ | rfl
          · exact safe.2.2.1 pointer isPointer
          · rfl
  | freeCells =>
      have empty := snapshot.freeChain
      have none : snapshot.heap.freeListHead = none := safe
      rw [none] at empty
      rw [releasesOf, empty.unique (Chains.chain_nil.mpr rfl)] at member
      exact absurd member List.not_mem_nil
  | _ => exact absurd member List.not_mem_nil

/-- A list without nested lists only reaches its own nodes. -/
theorem reaches_own (isOwned : Owned snapshot.heap snapshot.owner header records)
    (flat : forall node, node ∈ records -> (snapshot.heap.element node).type = listType ->
      (snapshot.heap.element node).value = .list none) {node : Nat}
    (reaches : Reaches snapshot.heap header node) : node ∈ records := by
  cases reaches with
  | own chain member =>
      rw [isOwned.chain.unique chain]
      exact member
  | nested chain member isList _ =>
      rw [<- isOwned.chain.unique chain] at member
      have value := flat _ member (congrArg Element.type isList)
      rw [isList] at value
      cases value

theorem GivesBack.givesAllBack
    (valid : Valid image snapshot.heap snapshot.store (.freeList (some header)))
    (safe : ReleasesSafely snapshot.heap snapshot.store (.freeList (some header)))
    (gives : snapshot.GivesBack image (.freeList (some header)) after) :
    GivesAllBack snapshot.heap after.heap header := by
  cases live : snapshot.store header with
  | none => exact absurd live (valid.1 header rfl)
  | some elements =>
      rcases snapshot.lists header elements live with ⟨records, isOwned, represents⟩
      have isElement {node : Nat} (member : node ∈ records) :
          snapshot.heap.element node ∈ elementsOf snapshot.store (some header) := by
        rw [elementsOf_live live, <- represents]
        exact List.mem_map_of_mem member
      have own {node : Nat} (reaches : Reaches snapshot.heap header node) : node ∈ records :=
        reaches_own isOwned (fun _ member => safe.2.1 _ (isElement member)) reaches
      have new : after.heap.releases.drop snapshot.heap.releases.length =
          snapshot.releasesOf (.freeList (some header)) := by
        rw [gives.releases, List.drop_left]
      constructor
      · intro node reaches
        refine ⟨after.free, after.freeChain, ?_⟩
        rw [gives.free header records rfl isOwned]
        exact List.mem_append_left _ (List.mem_reverse.mpr (own reaches))
      · intro node block content reaches isString present heapString
        rw [new, releasesOf_freeList valid safe]
        rw [Option.map_eq_some_iff] at isString
        rcases isString with ⟨pointer, isPointer, rfl⟩
        have member : pointer ∈
            (elementsOf snapshot.store (some header)).filterMap Element.stringPointer :=
          List.mem_filterMap.mpr ⟨_, isElement (own reaches), isPointer⟩
        have payload := safe.2.2.1 pointer member
        rw [present] at payload
        constructor
        · have blocks (pointers : List StringPointer) : (pointers.map fun pointer =>
              Release.string pointer (snapshot.heap.strings pointer.block)).map Release.block =
                (pointers.map StringPointer.block).map some := by
            rw [List.map_map, List.map_map]
            rfl
          rw [List.map_append, List.count_append, blocks,
            List.count_map_of_injective _ _ (Option.some_injective Nat),
            List.count_eq_one_of_mem safe.2.2.2 (List.mem_map_of_mem member)]
          rfl
        · apply List.mem_append_left
          rw [<- StringPointer.eq_payload payload, <- present]
          exact List.mem_map_of_mem member

end Lists

/-- Every run of valid calls. -/
theorem Proper.follows (proper : snapshot.Proper) (operations : List Operation) :
    Follows image (ownership image) ReleasesSafely snapshot.heap snapshot.store operations := by
  induction operations generalizing snapshot with
  | nil => exact proper.holds image
  | cons operation rest ih =>
      refine ⟨proper.holds image, ?_⟩
      intro valid safe
      cases builds : operation.builds with
      | true =>
          rcases exists_step builds valid with ⟨result, after, step⟩
          refine ⟨result, after.heap, step.performs, fun _ _ again => step.performs.unique again,
            after.store, ⟨step.expected, ?_⟩, ih ?_⟩
          · rintro header rfl
            cases builds
          · rcases step.frame with ⟨openLists, frame⟩
            intro release member
            rw [frame.releases] at member
            exact proper release member
      | false =>
          rcases exists_giveBack snapshot builds valid with ⟨after, gives⟩
          refine ⟨none, after.heap, gives.performs, fun _ _ again => gives.performs.unique again,
            after.store, ⟨gives.expected, ?_⟩, ih ?_⟩
          · rintro header rfl
            exact gives.givesAllBack valid safe
          · intro release member
            rw [gives.releases, List.mem_append] at member
            rcases member with old | new
            · exact proper release old
            · exact releasesOf_proper valid safe new

theorem start_proper (contents : Heap) : (start contents).Proper := by
  intro release member
  cases member

end Snapshot

/-- From the start of a program, everything is given back to where it came from as long as
the lists are released safely. -/
theorem ownership_kept (image : Image) (contents : Heap) (operations : List Operation) :
    Follows image (ownership image) ReleasesSafely (Heap.startup contents) (fun _ => none)
      operations := by
  rw [<- Snapshot.start_heap]
  exact (Snapshot.start_proper contents).follows operations

/-- The release of the free nodes of the first chunk is not proper. -/
theorem ownership_lost :
    ¬ forall (image : Image) (contents : Heap) (operations : List Operation),
      Follows image (ownership image) (fun _ _ _ => True) (Heap.startup contents)
        (fun _ => none) operations := by
  intro follows
  have run := follows noLiterals oneString [.freeCells]
  let start := Snapshot.start oneString
  rw [<- Snapshot.start_heap] at run
  rcases start.exists_freeCells (Nat.le_refl _) with ⟨after, performs, _, _, releases⟩
  have released : Performs noLiterals start.heap .freeCells none after.heap :=
    ⟨_, by rw [perform, performs]; rfl⟩
  rcases run.next trivial trivial released with ⟨store, _, holds⟩
  have isFree : 0 ∈ start.free := by
    refine List.mem_append_left _ (List.mem_range'_1.mpr ⟨Nat.le_refl 0, ?_⟩)
    decide
  have improper := holds.2 (.node 0) (by
    rw [releases]
    exact List.mem_append_right _ (List.mem_map_of_mem isFree))
  cases improper

end Runtime
end NewBcpl
