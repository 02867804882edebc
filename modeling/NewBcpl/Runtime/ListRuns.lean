import NewBcpl.Runtime.DeepCopies
import NewBcpl.Runtime.Determinism

namespace NewBcpl
namespace Runtime

open Foundations

/-!
# Runs of calls

What a program may call, what each call does to the sequences of elements, and what it
means that every call of a run keeps a promise. The calls that build lists do what the
operations on sequences do, with the deep copy that the code computes.
-/

/-- A null pointer or a list. -/
def Known (store : Store) (list : Option Nat) : Prop :=
  forall header, list = some header -> store header ≠ none

/-- The elements behind a pointer to a list; null counts as the empty list. -/
def elementsOf (store : Store) : Option Nat -> List Element
  | none => []
  | some header => (store header).getD []

/-- The value of an element is of the kind that its type says. -/
def Element.Fits (element : Element) : Prop :=
  (element.type = stringType -> exists pointer, element.value = .string pointer) ∧
    (element.type = listType -> exists pointer, element.value = .list pointer)

/-- The calls with pointers to lists that exist, and without cycles where the call follows
the nested lists. -/
def Valid (image : Image) (heap : Heap) (store : Store) : Operation -> Prop
  | .createEmpty | .freeCells => True
  | .appendInt list _ => Known store list
  | .appendFloat list _ => Known store list
  | .appendString list _ => Known store list
  | .appendList list value => list ≠ none ∧ Known store list ∧ Known store value
  | .shallowCopy list => Known store list
  | .deepCopy list => forall header, list = some header ->
      exists trees, Holds store heap.strings header trees
  | .concat first second => Known store first ∧ Known store second
  | .reverse list => Known store list
  | .filter list _ => Known store list
  | .literalCopy literal => forall header, literal = some header ->
      exists trees, Holds image.lists heap.strings header trees
  | .tailOf list => list ≠ none ∧ Known store list
  | .freeList list => Known store list ∧
      forall element, element ∈ elementsOf store list -> element.Fits

/-- The calls that build lists. -/
def Operation.builds : Operation -> Bool
  | .tailOf _ | .freeList _ | .freeCells => false
  | _ => true

/-- A new list with the given elements is all that changes. -/
def Adds (store : Store) (elements : List Element) (result : Option Nat) (store' : Store) :
    Prop :=
  exists new, result = some new ∧ store new = none ∧
    store' = Function.update store new (some elements)

/-- The elements of one list grow by one at the end; null is ignored. -/
def Appends (store : Store) (list : Option Nat) (element : Element) (result : Option Nat)
    (store' : Store) : Prop :=
  result = none ∧ match list with
    | none => store' = store
    | some header =>
        store' = Function.update store header (some (elementsOf store list ++ [element]))

/-- A copy of all levels: the lists that existed are unchanged, and the new lists hold the
given trees. -/
def Copies (store : Store) (trees : List Tree) (result : Option Nat) (strings : Strings)
    (store' : Store) : Prop :=
  store.Within store' ∧ exists new, result = some new ∧ store new = none ∧
    Holds (Snapshot.newLists store store') strings new trees

/-- The operation on the sequences, with a deep copy of trees. -/
def Expected (copy : List Tree -> List Tree) (image : Image) (heap : Heap) (store : Store)
    (result : Option Nat) (after : Heap) (store' : Store) : Operation -> Prop
  | .createEmpty => Adds store [] result store'
  | .appendInt list value => Appends store list ⟨intType, .word value⟩ result store'
  | .appendFloat list value => Appends store list ⟨floatType, .word value⟩ result store'
  | .appendString list value => Appends store list ⟨stringType, .string value⟩ result store'
  | .appendList list value => Appends store list ⟨listType, .list value⟩ result store'
  | .shallowCopy none | .deepCopy none | .reverse none | .literalCopy none
  | .concat none none | .freeList none | .tailOf none | .freeCells =>
      result = none ∧ store' = store
  | .shallowCopy list => Adds store (elementsOf store list) result store'
  | .deepCopy (some header) => forall trees, Holds store heap.strings header trees ->
      Copies store (copy trees) result after.strings store'
  | .concat first second =>
      Adds store (elementsOf store first ++ elementsOf store second) result store'
  | .reverse list => Adds store (elementsOf store list).reverse result store'
  | .filter (some header) (some predicate) =>
      Adds store ((elementsOf store (some header)).filter fun element => predicate element.value)
        result store'
  | .filter _ _ => result = none ∧ store' = store
  | .literalCopy (some header) => forall trees, Holds image.lists heap.strings header trees ->
      Copies store trees result after.strings store'
  | .tailOf (some header) => result = none ∧
      store' = Function.update store header (some (elementsOf store (some header)).tail)
  | .freeList (some header) => result = none ∧ store' = Function.update store header none

/-- The number of nodes that a copy of lists in use copies. -/
def CopiedNodes (heap : Heap) (store : Store) : Operation -> Nat -> Prop
  | .shallowCopy list, count => count = (elementsOf store list).length
  | .reverse list, count => count = (elementsOf store list).length
  | .concat first second, count =>
      count = (elementsOf store first ++ elementsOf store second).length
  | .deepCopy none, count => count = 0
  | .deepCopy (some header), count =>
      exists trees, Holds store heap.strings header trees ∧ count = nodesOfTrees trees
  | _, _ => False

/-- A promise: what holds before and behind every call, and what a valid call does. -/
structure Contract where
  holds : Heap -> Store -> Prop
  valid : Heap -> Store -> Operation -> Prop
  expected : Heap -> Store -> Option Nat -> Heap -> Store -> Operation -> Prop

/-- Every valid call that is admitted ends, with one result, and does what it should. -/
def Follows (image : Image) (contract : Contract)
    (admits : Heap -> Store -> Operation -> Prop) : Heap -> Store -> List Operation -> Prop
  | heap, store, [] => contract.holds heap store
  | heap, store, operation :: rest =>
      contract.holds heap store ∧
        (contract.valid heap store operation -> admits heap store operation ->
          exists result after, Performs image heap operation result after ∧
            (forall other others, Performs image heap operation other others ->
              other = result ∧ others = after) ∧
            exists store', contract.expected heap store result after store' operation ∧
              Follows image contract admits after store' rest)

/-- What follows from a call in a run that keeps a promise. -/
theorem Follows.next {image : Image} {contract : Contract}
    {admits : Heap -> Store -> Operation -> Prop} {heap : Heap} {store : Store}
    {operation : Operation} {rest : List Operation}
    (follows : Follows image contract admits heap store (operation :: rest))
    (valid : contract.valid heap store operation) (admitted : admits heap store operation)
    {result : Option Nat} {after : Heap} (performs : Performs image heap operation result after) :
    exists store', contract.expected heap store result after store' operation ∧
      Follows image contract admits after store' rest := by
  rcases follows.2 valid admitted with ⟨other, others, _, unique, store', expected, further⟩
  rcases unique result after performs with ⟨rfl, rfl⟩
  exact ⟨store', expected, further⟩

namespace Snapshot

/-- No list is opened. -/
def Settled (snapshot : Snapshot) : Prop :=
  forall header elements, snapshot.store header = some elements ->
    Exact snapshot.heap header elements

variable {snapshot after : Snapshot} {image : Image} {new : Nat} {elements : List Element}

theorem Settled.closed (settled : snapshot.Settled) (frame : Frame [] [] snapshot after) :
    after.Settled := by
  intro header others live
  cases before : snapshot.store header with
  | none => exact frame.exact header others before List.not_mem_nil live
  | some known =>
      have kept := frame.live before List.not_mem_nil
      rw [live] at kept
      cases kept
      exact (settled header others before).of_header (frame.header before List.not_mem_nil)

theorem Settled.extended {old : List Element} (settled : snapshot.Settled)
    (live : snapshot.store new = some old)
    (extended : snapshot.Extends new old elements after) : after.Settled := by
  intro header others isLive
  by_cases same : header = new
  · rw [same, extended.live] at isLive
    cases isLive
    rw [same]
    exact extended.isExact (settled new old live)
  · have closed : header ∉ [new] := by
      rw [List.mem_singleton]
      exact same
    cases before : snapshot.store header with
    | none => exact extended.frame.exact header others before closed isLive
    | some known =>
        have kept := extended.frame.live before closed
        rw [isLive] at kept
        cases kept
        exact (settled header others before).of_header (extended.frame.header before closed)

/-- Memory of any contents, before anything is requested. -/
def blank (contents : Heap) : Snapshot where
  heap :=
    { contents with
      strings := fun block =>
        if block < contents.freshString then contents.strings block else none
      freeListHead := none
      freelistNodeCount := 0#64
      totalNodesAllocatedFromHeap := 0#64
      headerFreeListHead := none
      releases := []
      leftPads := [] }
  store := fun _ => none
  owner := fun _ => .nobody
  free := []
  freeHeaders := []
  lists _ _ live := by cases live
  owners _ _ owned := by cases owned
  freeChain := rfl
  freeOwned _ member := absurd member List.not_mem_nil
  count := rfl
  headerChain := rfl
  headersUnused _ member := absurd member List.not_mem_nil
  headersPooled _ member := absurd member List.not_mem_nil
  nodesRequested _ owned := absurd rfl owned
  headersRequested _ live := absurd rfl live
  stringsRequested _ above := if_neg (Nat.not_lt.mpr above)

/-- The snapshot at the start. -/
def start (contents : Heap) : Snapshot := (blank contents).replenish.replenishHeaders

theorem start_heap (contents : Heap) : (start contents).heap = Heap.startup contents := by
  rw [Heap.startup, Heap.initializeFreelist, if_pos rfl]
  rfl

theorem start_settled (contents : Heap) : (start contents).Settled := by
  intro header elements live
  cases live

/-- The call does what the operation on the sequences does, and opens no list for good. -/
structure Steps (image : Image) (before : Snapshot) (operation : Operation)
    (result : Option Nat) (after : Snapshot) : Prop where
  performs : Performs image before.heap operation result after.heap
  expected : Expected copiedTrees image before.heap before.store result after.heap after.store
    operation
  settled : before.Settled -> after.Settled
  frame : exists openLists, Frame openLists [] before after
  draws : forall count, CopiedNodes before.heap before.store operation count ->
    before.Draws after count

/-- Some step of the call. -/
def CanStep (image : Image) (before : Snapshot) (operation : Operation) : Prop :=
  exists result after, before.Steps image operation result after

/-- A null pointer to a list. -/
theorem steps_null {operation : Operation}
    (performs : perform image 0 snapshot.heap operation = some (none, snapshot.heap))
    (expected : Expected copiedTrees image snapshot.heap snapshot.store none snapshot.heap
      snapshot.store operation)
    (copied : forall count, CopiedNodes snapshot.heap snapshot.store operation count ->
      count = 0) : snapshot.CanStep image operation := by
  refine ⟨none, snapshot, ⟨0, performs⟩, expected, id, ⟨[], Frame.refl _ _ _⟩, ?_⟩
  intro count isCount
  rw [copied count isCount]
  exact Draws.still rfl rfl rfl

theorem Creates.adds (creates : snapshot.Creates new elements after) :
    Adds snapshot.store elements (some new) after.store :=
  ⟨new, rfl, creates.absent, creates.store⟩

theorem elementsOf_live {header : Nat} (live : snapshot.store header = some elements) :
    elementsOf snapshot.store (some header) = elements := by
  rw [elementsOf, live]
  rfl

/-- A call that adds one list. -/
theorem steps_creates (operation : Operation) {fuel : Nat}
    (creates : snapshot.Creates new elements after)
    (performs : perform image fuel snapshot.heap operation = some (some new, after.heap))
    (expected : Adds snapshot.store elements (some new) after.store ->
      Expected copiedTrees image snapshot.heap snapshot.store (some new) after.heap after.store
        operation)
    (copied : forall count, CopiedNodes snapshot.heap snapshot.store operation count ->
      count = elements.length) : snapshot.CanStep image operation := by
  refine ⟨some new, after, ⟨fuel, performs⟩, expected creates.adds,
    fun settled => settled.closed creates.frame, ⟨[], creates.frame⟩, ?_⟩
  intro count isCount
  rw [copied count isCount]
  exact creates.draws

theorem steps_createEmpty : snapshot.CanStep image .createEmpty := by
  rcases snapshot.exists_createEmpty with ⟨new, after, creates, opens⟩
  have created := opens.creates opens.store opens.isExact (Frame.refl _ _ _)
    (Draws.still rfl rfl rfl)
  have performs : perform image 0 snapshot.heap .createEmpty = some (some new, after.heap) := by
    rw [perform, creates]
  exact steps_creates .createEmpty created performs id fun _ copied => copied.elim

/-- A call that appends to a list. -/
theorem steps_extends (operation : Operation) {header : Nat} {element : Element}
    (live : snapshot.store header = some elements)
    (performs : forall after, snapshot.heap.appendAtom header element = some after ->
      perform image 0 snapshot.heap operation = some (none, after))
    (expected : forall store', Appends snapshot.store (some header) element none store' ->
      forall after, Expected copiedTrees image snapshot.heap snapshot.store none after store'
        operation)
    (copies : forall count, ¬ CopiedNodes snapshot.heap snapshot.store operation count) :
    snapshot.CanStep image operation := by
  rcases exists_appendAtom live element with ⟨after, appends, extended⟩
  refine ⟨none, after, ⟨0, performs after.heap appends⟩, ?_,
    fun settled => settled.extended live extended, ⟨[header], extended.frame⟩,
    fun count copied => absurd copied (copies count)⟩
  apply expected
  refine ⟨rfl, ?_⟩
  dsimp only
  rw [elementsOf_live live]
  exact extended.store

/-- An append that checks the header of the list. -/
theorem steps_append (operation : Operation) {list : Option Nat} {element : Element}
    (known : Known snapshot.store list)
    (performs : perform image 0 snapshot.heap operation =
      withoutResult (snapshot.heap.appendChecked list element))
    (expected : forall store', Appends snapshot.store list element none store' ->
      forall after, Expected copiedTrees image snapshot.heap snapshot.store none after store'
        operation)
    (copies : forall count, ¬ CopiedNodes snapshot.heap snapshot.store operation count) :
    snapshot.CanStep image operation := by
  cases list with
  | none =>
      exact steps_null performs (expected snapshot.store ⟨rfl, rfl⟩ snapshot.heap)
        fun count copied => absurd copied (copies count)
  | some header =>
      cases live : snapshot.store header with
      | none => exact absurd live (known header rfl)
      | some elements =>
          rcases snapshot.lists header elements live with ⟨records, isOwned, _⟩
          apply steps_extends operation live ?_ expected copies
          intro after appends
          rw [performs, Heap.appendChecked, if_pos isOwned.sentinel, appends]
          rfl

theorem steps_appendList {list value : Option Nat} (notNull : list ≠ none)
    (known : Known snapshot.store list) : snapshot.CanStep image (.appendList list value) := by
  cases list with
  | none => exact absurd rfl notNull
  | some header =>
      cases live : snapshot.store header with
      | none => exact absurd live (known header rfl)
      | some elements =>
          apply steps_extends (.appendList (some header) value) live ?_
            (fun _ appends _ => appends) fun _ copied => copied
          intro after appends
          rw [perform, Heap.listAppendList, appends]
          rfl

theorem steps_shallowCopy {list : Option Nat} (known : Known snapshot.store list) :
    snapshot.CanStep image (.shallowCopy list) := by
  cases list with
  | none => exact steps_null rfl ⟨rfl, rfl⟩ fun _ copied => copied
  | some header =>
      cases live : snapshot.store header with
      | none => exact absurd live (known header rfl)
      | some elements =>
          rcases exists_shallowCopy live (Nat.le_refl _) with ⟨new, after, performs, creates⟩
          apply steps_creates (.shallowCopy (some header)) creates performs
          · rw [<- elementsOf_live live]
            exact id
          · intro count isCount
            rw [isCount, elementsOf_live live]

theorem steps_reverse {list : Option Nat} (known : Known snapshot.store list) :
    snapshot.CanStep image (.reverse list) := by
  cases list with
  | none => exact steps_null rfl ⟨rfl, rfl⟩ fun _ copied => copied
  | some header =>
      cases live : snapshot.store header with
      | none => exact absurd live (known header rfl)
      | some elements =>
          rcases exists_reverse live (Nat.le_refl _) with ⟨new, after, performs, creates⟩
          apply steps_creates (.reverse (some header)) creates performs
          · rw [<- elementsOf_live live]
            exact id
          · intro count isCount
            rw [isCount, elementsOf_live live, List.length_reverse]

theorem steps_filter {list : Option Nat} {predicate : Option (Value -> Bool)}
    (known : Known snapshot.store list) :
    snapshot.CanStep image (.filter list predicate) := by
  cases list with
  | none => exact steps_null rfl ⟨rfl, rfl⟩ fun _ copied => copied.elim
  | some header =>
      cases predicate with
      | none => exact steps_null rfl ⟨rfl, rfl⟩ fun _ copied => copied.elim
      | some predicate =>
          cases live : snapshot.store header with
          | none => exact absurd live (known header rfl)
          | some elements =>
              rcases exists_filter live predicate (Nat.le_refl _) with
                ⟨new, after, performs, creates⟩
              apply steps_creates (.filter (some header) (some predicate)) creates performs
              · rw [<- elementsOf_live live]
                exact id
              · exact fun _ copied => copied.elim

theorem steps_concat {first second : Option Nat} (known : Known snapshot.store first)
    (knownSecond : Known snapshot.store second) :
    snapshot.CanStep image (.concat first second) := by
  cases first with
  | none =>
      cases second with
      | none => exact steps_null rfl ⟨rfl, rfl⟩ fun _ copied => copied
      | some other =>
          cases liveSecond : snapshot.store other with
          | none => exact absurd liveSecond (knownSecond other rfl)
          | some others =>
              rcases exists_shallowCopy liveSecond (Nat.le_refl _) with
                ⟨new, after, performs, creates⟩
              apply steps_creates (.concat none (some other)) creates performs
              · rw [<- elementsOf_live liveSecond]
                exact id
              · intro count isCount
                rw [isCount, elementsOf_live liveSecond]
                rfl
  | some header =>
      cases live : snapshot.store header with
      | none => exact absurd live (known header rfl)
      | some elements =>
          cases second with
          | none =>
              rcases exists_shallowCopy live (Nat.le_refl _) with ⟨new, after, performs, creates⟩
              have concats : perform image snapshot.heap.freshNode snapshot.heap
                  (.concat (some header) none) = some (some new, after.heap) := by
                rw [perform, Heap.concatLists, performs]
                rfl
              apply steps_creates (.concat (some header) none) creates concats
              · rw [<- List.append_nil elements, <- elementsOf_live live]
                exact id
              · intro count isCount
                rw [isCount, elementsOf_live live]
                exact congrArg List.length (List.append_nil elements)
          | some other =>
              cases liveSecond : snapshot.store other with
              | none => exact absurd liveSecond (knownSecond other rfl)
              | some others =>
                  rcases exists_concat live liveSecond (Nat.le_refl _) with
                    ⟨new, after, performs, creates⟩
                  apply steps_creates (.concat (some header) (some other)) creates performs
                  · rw [<- elementsOf_live live, <- elementsOf_live liveSecond]
                    exact id
                  · intro count isCount
                    rw [isCount, elementsOf_live live, elementsOf_live liveSecond]

theorem Duplicates.copies {depth : Nat} {trees : List Tree}
    (duplicates : snapshot.Duplicates new depth trees after) :
    Copies snapshot.store trees (some new) after.heap.strings after.store :=
  ⟨fun _ _ live => duplicates.frame.live live List.not_mem_nil, new, rfl, duplicates.absent,
    depth, duplicates.holds⟩

/-- A copy of all levels. -/
theorem steps_copies (operation : Operation) {fuel depth : Nat} {trees : List Tree}
    (duplicates : snapshot.Duplicates new depth trees after)
    (performs : perform image fuel snapshot.heap operation = some (some new, after.heap))
    (expected : Copies snapshot.store trees (some new) after.heap.strings after.store ->
      Expected copiedTrees image snapshot.heap snapshot.store (some new) after.heap after.store
        operation)
    (copied : forall count, CopiedNodes snapshot.heap snapshot.store operation count ->
      count = nodesOfTrees trees) : snapshot.CanStep image operation := by
  refine ⟨some new, after, ⟨fuel, performs⟩, expected duplicates.copies,
    fun settled => settled.closed duplicates.frame, ⟨[], duplicates.frame⟩, ?_⟩
  intro count isCount
  rw [copied count isCount]
  exact duplicates.draws

theorem steps_deepCopy {list : Option Nat}
    (valid : Valid image snapshot.heap snapshot.store (.deepCopy list)) :
    snapshot.CanStep image (.deepCopy list) := by
  cases list with
  | none => exact steps_null rfl ⟨rfl, rfl⟩ fun _ copied => copied
  | some header =>
      rcases valid header rfl with ⟨trees, depth, denotes⟩
      have sources : Sources snapshot.store snapshot.heap.strings snapshot.heap.freshNode snapshot :=
        ⟨fun _ _ live => live, fun _ _ present => present,
          fun _ _ live => snapshot.length_le live⟩
      rcases exists_deepCopy sources denotes (Nat.le_refl _) with
        ⟨new, after, performs, duplicates⟩
      apply steps_copies (.deepCopy (some header)) duplicates performs
      · intro copies others again
        rw [<- Holds.unique ⟨depth, denotes⟩ again]
        exact copies
      · rintro count ⟨others, again, isCount⟩
        rw [<- Holds.unique ⟨depth, denotes⟩ again] at isCount
        rw [nodesOfTrees_copied]
        exact isCount

theorem steps_literalCopy {literal : Option Nat}
    (valid : Valid image snapshot.heap snapshot.store (.literalCopy literal)) :
    snapshot.CanStep image (.literalCopy literal) := by
  cases literal with
  | none => exact steps_null rfl ⟨rfl, rfl⟩ fun _ copied => copied.elim
  | some header =>
      rcases valid header rfl with ⟨trees, depth, denotes⟩
      rcases exists_literalCopy (fun _ _ present => present) denotes (Nat.le_refl _) with
        ⟨new, after, performs, duplicates⟩
      apply steps_copies (.literalCopy (some header)) duplicates performs
      · intro copies others again
        rw [<- Holds.unique ⟨depth, denotes⟩ again]
        exact copies
      · exact fun _ copied => copied.elim

/-- One valid call that builds lists. -/
theorem exists_step {operation : Operation} (builds : operation.builds = true)
    (valid : Valid image snapshot.heap snapshot.store operation) :
    snapshot.CanStep image operation := by
  cases operation with
  | createEmpty => exact steps_createEmpty
  | appendInt list value =>
      exact steps_append _ valid rfl (fun _ appends _ => appends) fun _ copied => copied
  | appendFloat list value =>
      exact steps_append _ valid rfl (fun _ appends _ => appends) fun _ copied => copied
  | appendString list value =>
      exact steps_append _ valid rfl (fun _ appends _ => appends) fun _ copied => copied
  | appendList list value => exact steps_appendList valid.1 valid.2.1
  | shallowCopy list => exact steps_shallowCopy valid
  | deepCopy list => exact steps_deepCopy valid
  | concat first second => exact steps_concat valid.1 valid.2
  | reverse list => exact steps_reverse valid
  | filter list predicate => exact steps_filter valid
  | literalCopy literal => exact steps_literalCopy valid
  | tailOf list => cases builds
  | freeList list => cases builds
  | freeCells => cases builds

end Snapshot

end Runtime
end NewBcpl
