import NewBcpl.Runtime.ListRuns

namespace NewBcpl
namespace Runtime

open Foundations

/-!
# The operations that build lists

The runtime refines the operations on sequences of elements: every call that creates,
extends or copies lists leaves all lists well formed and apart, with the elements that
the operation on sequences gives. The exception is the deep copy of a string whose
pointer is not one to its first character.
-/

/-- The chain, the length and the tail of a list. -/
structure ListAt (heap : Heap) (header : Nat) (records : List Nat) : Prop where
  chain : Chains.Chain heap.next (heap.headers header).head records
  length : (heap.headers header).length = BitVec.ofNat 64 records.length
  tail : (heap.headers header).tail = records.getLast?

/-- The lists of a heap represent the elements of the store and share no node. -/
structure WellFormed (heap : Heap) (store : Store) : Prop where
  lists : forall header elements, store header = some elements ->
    exists records, ListAt heap header records ∧ records.map heap.element = elements
  apart : forall first second, store first ≠ none -> store second ≠ none -> first ≠ second ->
    forall records others, ListAt heap first records -> ListAt heap second others ->
      forall node, node ∈ records -> node ∉ others
  free : exists free, Chains.Chain heap.next heap.freeListHead free ∧
    forall header, store header ≠ none -> forall records, ListAt heap header records ->
      forall node, node ∈ records -> node ∉ free

/-- The calls that build lists refine the operations on sequences, with the deep copy that
leaves all trees as they are. -/
def refinement (image : Image) : Contract where
  holds := WellFormed
  valid heap store operation := operation.builds = true ∧ Valid image heap store operation
  expected := Expected id image

/-- The deep copy finds the characters of every string in the list: the pointer is one to
the first character, and no character is zero. -/
def FindsStrings (heap : Heap) (store : Store) : Operation -> Prop
  | .deepCopy (some header) => forall trees, Holds store heap.strings header trees ->
      copyableTrees trees = true
  | _ => True

/-- A deep copy that finds all strings leaves the trees as they are. -/
theorem Expected.found {image : Image} {heap after : Heap} {store store' : Store}
    {result : Option Nat} {operation : Operation} (finds : FindsStrings heap store operation)
    (expected : Expected copiedTrees image heap store result after store' operation) :
    Expected id image heap store result after store' operation := by
  cases operation with
  | deepCopy list =>
      cases list with
      | none => exact expected
      | some header =>
          intro trees holds
          have copies := expected trees holds
          rw [(copiedTrees_eq_iff trees).mpr (finds trees holds)] at copies
          exact copies
  | shallowCopy list => cases list <;> exact expected
  | reverse list => cases list <;> exact expected
  | literalCopy list => cases list <;> exact expected
  | concat first second => cases first <;> cases second <;> exact expected
  | filter list predicate => cases list <;> cases predicate <;> exact expected
  | tailOf list => cases list <;> exact expected
  | freeList list => cases list <;> exact expected
  | _ => exact expected

namespace Snapshot

variable {snapshot after : Snapshot} {image : Image} {new : Nat} {elements : List Element}

/-- The chain of a list in use belongs to it. -/
theorem owned_of_listAt {header : Nat} {records : List Nat}
    (live : snapshot.store header ≠ none) (isList : ListAt snapshot.heap header records) :
    forall node, node ∈ records -> snapshot.owner node = .list header := by
  cases known : snapshot.store header with
  | none => exact absurd known live
  | some elements =>
      rcases snapshot.lists header elements known with ⟨others, isOwned, _⟩
      rw [isList.chain.unique isOwned.chain]
      exact isOwned.owned

theorem Settled.wellFormed (settled : snapshot.Settled) :
    WellFormed snapshot.heap snapshot.store where
  lists header elements live := by
    rcases snapshot.lists header elements live with ⟨records, isOwned, represents⟩
    have isExact := settled header elements live
    refine ⟨records, ⟨isOwned.chain, ?_, ?_⟩, represents⟩
    · rw [isExact.length, <- represents, List.length_map]
    · cases records with
      | nil => exact isExact.tail represents.symm
      | cons node rest => exact isOwned.tail (List.cons_ne_nil node rest)
  apart first second liveFirst liveSecond different records others isFirst isSecond node member
      also := by
    have owned := owned_of_listAt liveFirst isFirst node member
    rw [owned_of_listAt liveSecond isSecond node also] at owned
    exact different (Owner.list.inj owned).symm
  free := by
    refine ⟨snapshot.free, snapshot.freeChain, ?_⟩
    intro header live records isList node member isFree
    have owned := owned_of_listAt live isList node member
    rw [snapshot.freeOwned node isFree] at owned
    cases owned

/-- Every run of valid calls. -/
theorem Settled.refines (settled : snapshot.Settled) (operations : List Operation) :
    Follows image (refinement image) FindsStrings snapshot.heap snapshot.store operations := by
  induction operations generalizing snapshot with
  | nil => exact settled.wellFormed
  | cons operation rest ih =>
      refine ⟨settled.wellFormed, ?_⟩
      rintro ⟨builds, valid⟩ finds
      rcases exists_step builds valid with ⟨result, after, step⟩
      exact ⟨result, after.heap, step.performs, fun _ _ again => step.performs.unique again,
        after.store, step.expected.found finds, ih (step.settled settled)⟩

/-- The elements of a list are determined by the heap. -/
theorem Settled.elements_eq (settled : snapshot.Settled) {store : Store}
    (wellFormed : WellFormed snapshot.heap store) {header : Nat} {elements others : List Element}
    (live : snapshot.store header = some elements) (known : store header = some others) :
    elements = others := by
  rcases settled.wellFormed.lists header elements live with ⟨records, isList, represents⟩
  rcases wellFormed.lists header others known with ⟨otherRecords, isOther, otherRepresents⟩
  rw [isOther.chain.unique isList.chain] at otherRepresents
  exact represents.symm.trans otherRepresents

/-- A deep copy that agrees with the operation on the sequences has found all strings. -/
theorem Settled.copyable_of_deepCopy (settled : snapshot.Settled) {header : Nat}
    {trees : List Tree} {result : Option Nat} {heap : Heap} {store' : Store}
    (holds : Holds snapshot.store snapshot.heap.strings header trees)
    (performs : Performs image snapshot.heap (.deepCopy (some header)) result heap)
    (expected : Expected id image snapshot.heap snapshot.store result heap store'
      (.deepCopy (some header))) (wellFormed : WellFormed heap store') :
    copyableTrees trees = true := by
  have valid : Valid image snapshot.heap snapshot.store (.deepCopy (some header)) := by
    intro other isHeader
    cases isHeader
    exact ⟨trees, holds⟩
  rcases exists_step rfl valid with ⟨found, after, step⟩
  rcases performs.unique step.performs with ⟨sameResult, rfl⟩
  rcases expected trees holds with ⟨_, new, isResult, _, depth, denotes⟩
  rcases step.expected trees holds with ⟨_, other, isOther, _, otherDepth, copied⟩
  rw [sameResult, isResult] at isOther
  cases isOther
  rw [<- copiedTrees_eq_iff]
  refine copied.unique ?_ denotes
  intro nested elements others present known
  exact (step.settled settled).elements_eq wellFormed (newLists_absent present).2
    (newLists_absent known).2

end Snapshot

/-- From the start of a program, the runtime refines the operations on sequences as long as
the deep copies find the strings. -/
theorem listOperations_refine (image : Image) (contents : Heap) (operations : List Operation) :
    Follows image (refinement image) FindsStrings (Heap.startup contents) (fun _ => none)
      operations := by
  rw [<- Snapshot.start_heap]
  exact (Snapshot.start_settled contents).refines operations

/-- The contents of a memory with the string `A`. -/
def oneString : Heap where
  nodes _ := ⟨0#32, 0#32, .word 0#64, none⟩
  headers _ := ⟨0#32, 0#32, 0#64, none, none⟩
  strings _ := some ⟨true, [65#32]⟩
  freeListHead := none
  freelistNodeCount := 0#64
  totalNodesAllocatedFromHeap := 0#64
  headerFreeListHead := none
  freshNode := 0
  freshHeader := 0
  freshString := 1
  nodeAddress _ := 0#64
  headerSource _ := .pool
  releases := []
  leftPads := []

/-- A program without literals. -/
def noLiterals : Image where
  headers _ := ⟨0#32, 0#32, none, none, 0#64⟩
  nodes _ := ⟨0#32, 0#32, .word 0#64, none⟩
  chains _ := none
  size := 0
  chain _ _ known := by cases known
  length _ _ known := by cases known
  tail _ _ known := by cases known
  sentinel _ _ known := by cases known
  bounded _ _ known := by cases known

/-- The deep copy of a list with the string `A`, to whose length word the list has the
pointer, is not that list. -/
theorem listOperations_differ :
    ¬ forall (image : Image) (contents : Heap) (operations : List Operation),
      Follows image (refinement image) (fun _ _ _ => True) (Heap.startup contents)
        (fun _ => none) operations := by
  intro refines
  let start := Snapshot.start oneString
  let element : Element := ⟨stringType, .string (some ⟨0, .lengthWord⟩)⟩
  rcases start.exists_createEmpty with ⟨new, opened, creates, opens⟩
  rcases Snapshot.exists_appendAtom opens.live element with ⟨filled, appends, extended⟩
  have settled : filled.Settled :=
    ((Snapshot.start_settled oneString).closed
      (opens.creates opens.store opens.isExact (Frame.refl _ _ _)
        (Snapshot.Draws.still rfl rfl rfl)).frame).extended opens.live
        extended
  have run := refines noLiterals oneString
    [.createEmpty, .appendString (some new) (some ⟨0, .lengthWord⟩), .deepCopy (some new)]
  rw [<- Snapshot.start_heap] at run
  have creating : Performs noLiterals start.heap .createEmpty (some new) opened.heap :=
    ⟨0, by rw [perform, creates]⟩
  rcases run.next ⟨rfl, trivial⟩ trivial creating with ⟨store, ⟨other, isNew, _, isStore⟩, run⟩
  cases isNew
  have sameStore : store = opened.store := isStore.trans opens.store.symm
  rw [sameStore] at run
  have sentinel : (opened.heap.headers new).type = sentinelType := by
    rw [opens.header]
  have appending : Performs noLiterals opened.heap
      (.appendString (some new) (some ⟨0, .lengthWord⟩)) none filled.heap := by
    refine ⟨0, ?_⟩
    rw [perform, Heap.listAppendString, Heap.appendChecked, if_pos sentinel, appends]
    rfl
  have known : Known opened.store (some new) := by
    intro header isHeader
    cases isHeader
    rw [opens.live]
    exact Option.some_ne_none []
  rcases run.next ⟨rfl, known⟩ trivial appending with ⟨store, ⟨_, isStore⟩, run⟩
  dsimp only at isStore
  rw [Snapshot.elementsOf_live opens.live] at isStore
  have sameStore : store = filled.store := isStore.trans extended.store.symm
  rw [sameStore] at run
  have content : filled.heap.strings 0 = some ⟨true, [65#32]⟩ :=
    extended.frame.strings 0 _ (opens.frame.strings 0 _ rfl)
  have holds : Holds filled.store filled.heap.strings new [.string .lengthWord [65#32]] :=
    ⟨1, [element], extended.live,
      List.Forall₂.cons ⟨0, true, rfl, content⟩ List.Forall₂.nil⟩
  have valid : Valid noLiterals filled.heap filled.store (.deepCopy (some new)) := by
    intro header isHeader
    cases isHeader
    exact ⟨_, holds⟩
  rcases @Snapshot.exists_step filled noLiterals (.deepCopy (some new)) rfl valid with
    ⟨copy, after, step⟩
  rcases run.next ⟨rfl, valid⟩ trivial step.performs with ⟨store, expected, wellFormed⟩
  exact Bool.false_ne_true
    (Snapshot.Settled.copyable_of_deepCopy settled holds step.performs expected wellFormed)

end Runtime
end NewBcpl
