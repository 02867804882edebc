import NewBcpl.Lists.NodeChecks
import NewBcpl.Runtime.ListOperations
import NewBcpl.Runtime.ReleaseSteps

namespace NewBcpl
namespace Runtime

open Foundations

/-!
# The pads of the nodes

The type checks of the emitted code also see the pad of a node. The appends clear it, and
so does the copy of a literal. The shallow copy, the concatenation, the reversal and the
deep copy leave it as they find it in the memory of the node that they take.
-/

/-- The type checks are right on every node of every list. -/
def typeChecks (image : Image) : Contract where
  holds heap store := forall header, store header ≠ none ->
    exists records, Chains.Chain heap.next (heap.headers header).head records ∧
      forall node, node ∈ records ->
        Lists.ChecksType (heap.nodes node).type (heap.nodes node).pad
  valid := Valid image
  expected := Expected copiedTrees image

/-- The node that a request gives when that many others were given before it. -/
def Heap.Gives (heap : Heap) (index node : Nat) : Prop :=
  exists free, Chains.Chain heap.next heap.freeListHead free ∧
    node = free[index]?.getD (heap.freshNode + (index - free.length))

/-- The nodes that a copy of lists in use takes have clear pads. -/
def TakesClearPads (heap : Heap) (store : Store) (operation : Operation) : Prop :=
  forall count, CopiedNodes heap store operation count -> forall index node, index < count ->
    heap.Gives index node -> (heap.nodes node).pad = 0#32

/-! ## The account of the pads -/

/-- The copies that leave the pads of their nodes. -/
def Operation.leavesPads : Operation -> Bool
  | .shallowCopy _ | .deepCopy _ | .concat _ _ | .reverse _ => true
  | _ => false

section Accounts

variable {heap after : Heap} {image : Image}

theorem leftPads_getNode (heap : Heap) : heap.getNodeFromFreelist.2.leftPads = heap.leftPads := by
  unfold Heap.getNodeFromFreelist
  split <;> rfl

theorem leftPads_createEmpty (heap : Heap) : heap.listCreateEmpty.2.leftPads = heap.leftPads := by
  unfold Heap.listCreateEmpty Heap.getHeaderFromFreelist
  cases heap.headerFreeListHead <;> rfl

theorem leftPads_linkLast {header node : Nat} (links : heap.linkLast header node = some after) :
    after.leftPads = heap.leftPads := by
  unfold Heap.linkLast at links
  split at links
  · cases links
    rfl
  · split at links
    · cases links
    · cases links
      rfl

theorem leftPads_appendAtom {header : Nat} {element : Element}
    (appends : heap.appendAtom header element = some after) : after.leftPads = heap.leftPads := by
  rw [Heap.appendAtom, Option.map_eq_some_iff] at appends
  rcases appends with ⟨linked, links, rfl⟩
  have same := leftPads_linkLast links
  exact same.trans (leftPads_getNode heap)

theorem leftPads_appendChecked {list : Option Nat} {element : Element}
    (appends : heap.appendChecked list element = some after) : after.leftPads = heap.leftPads := by
  cases list with
  | none =>
      cases appends
      rfl
  | some header =>
      rw [Heap.appendChecked] at appends
      split at appends
      · exact leftPads_appendAtom appends
      · cases appends
        rfl

theorem leftPads_walk {link : Heap -> Nat -> Option Nat} {body : Heap -> Nat -> Option Heap}
    (keeps : forall state record next, body state record = some next ->
      next.leftPads = state.leftPads) {fuel : Nat} {pointer : Option Nat}
    (walks : Chains.walk link body fuel heap pointer = some after) :
    after.leftPads = heap.leftPads :=
  @Chains.walk_keeps Nat Heap link body (fun first second => second.leftPads = first.leftPads)
    (fun _ => rfl) (fun _ _ _ first second => second.trans first) keeps fuel heap after pointer
    walks

theorem leftPads_listFilter {fuel : Nat} {list : Option Nat}
    {predicate : Option (Value -> Bool)} {result : Option Nat}
    (filters : heap.listFilter fuel list predicate = some (result, after)) :
    after.leftPads = heap.leftPads := by
  unfold Heap.listFilter at filters
  split at filters
  · rw [Option.map_eq_some_iff] at filters
    rcases filters with ⟨copied, walks, equal⟩
    cases equal
    refine (leftPads_walk ?_ walks).trans (leftPads_createEmpty heap)
    intro state record next filters
    rw [Heap.filterCopy] at filters
    split at filters
    · exact leftPads_appendAtom filters
    · cases filters
      rfl
  · cases filters
    rfl

/-- The switch of the copy of a literal, if the function for nested lists does as well. -/
theorem leftPads_literalValue {nested : Heap -> Option Nat -> Option (Option Nat × Heap)}
    {original : Element} {value : Value}
    (keeps : forall state pointer result next, nested state pointer = some (result, next) ->
      next.leftPads = state.leftPads)
    (copies : heap.literalValue nested original = some (value, after)) :
    after.leftPads = heap.leftPads := by
  rw [Heap.literalValue] at copies
  split at copies
  · split at copies
    · rw [Option.map_eq_some_iff] at copies
      rcases copies with ⟨⟨result, next⟩, performs, equal⟩
      cases equal
      exact keeps _ _ _ _ performs
    · cases copies
  · cases copies
    rfl

theorem leftPads_literalCopy {fuel : Nat} {literal result : Option Nat}
    (copies : heap.deepCopyLiteralList image fuel literal = some (result, after)) :
    after.leftPads = heap.leftPads := by
  induction fuel generalizing heap after literal result with
  | zero =>
      cases literal with
      | none =>
          cases copies
          rfl
      | some literal => cases copies
  | succ fuel ih =>
      cases literal with
      | none =>
          cases copies
          rfl
      | some literal =>
          rw [Heap.deepCopyLiteralList, Option.map_eq_some_iff] at copies
          rcases copies with ⟨copied, walks, equal⟩
          cases equal
          refine (leftPads_walk ?_ walks).trans rfl
          intro state record next appends
          rw [Heap.appendLiteralCopy] at appends
          dsimp only at appends
          split at appends
          · cases appends
          · rename_i value copied isCopy
            have same := leftPads_literalValue (fun _ _ _ _ performs => ih performs) isCopy
            exact (leftPads_linkLast appends).trans (same.trans (leftPads_getNode state))

/-- The other calls that build lists put nothing on the account. -/
theorem leftPads_perform {operation : Operation} (builds : operation.builds = true)
    (clears : operation.leavesPads = false) {result : Option Nat}
    (performs : Performs image heap operation result after) : after.leftPads = heap.leftPads := by
  have unmapped {performed : Option Heap}
      (performs : withoutResult performed = some (result, after)) : performed = some after := by
    rw [withoutResult, Option.map_eq_some_iff] at performs
    rcases performs with ⟨heap, performs, equal⟩
    cases equal
    exact performs
  rcases performs with ⟨fuel, performs⟩
  cases operation with
  | createEmpty =>
      have same := leftPads_createEmpty heap
      cases performs
      exact same
  | appendInt list value => exact leftPads_appendChecked (unmapped performs)
  | appendFloat list value => exact leftPads_appendChecked (unmapped performs)
  | appendString list value => exact leftPads_appendChecked (unmapped performs)
  | appendList list value =>
      have appends := unmapped performs
      cases list with
      | none => cases appends
      | some header => exact leftPads_appendAtom appends
  | filter list predicate => exact leftPads_listFilter performs
  | literalCopy literal => exact leftPads_literalCopy performs
  | shallowCopy list => cases clears
  | deepCopy list => cases clears
  | concat first second => cases clears
  | reverse list => cases clears
  | tailOf list => cases builds
  | freeList list => cases builds
  | freeCells => cases builds

end Accounts

/-- A valid copy of lists in use copies some number of nodes. -/
theorem exists_copiedNodes {image : Image} {heap : Heap} {store : Store} {operation : Operation}
    (valid : Valid image heap store operation) (leaves : operation.leavesPads = true) :
    exists count, CopiedNodes heap store operation count := by
  cases operation with
  | shallowCopy list => exact ⟨_, rfl⟩
  | reverse list => exact ⟨_, rfl⟩
  | concat first second => exact ⟨_, rfl⟩
  | deepCopy list =>
      cases list with
      | none => exact ⟨0, rfl⟩
      | some header =>
          rcases valid header rfl with ⟨trees, holds⟩
          exact ⟨_, trees, holds, rfl⟩
  | _ => cases leaves

namespace Snapshot

variable {snapshot after : Snapshot} {image : Image} {operation : Operation}
  {result : Option Nat}

/-- The pads of the nodes of all lists are clear. -/
def ClearPads (snapshot : Snapshot) : Prop :=
  forall node header, snapshot.owner node = .list header -> (snapshot.heap.nodes node).pad = 0#32

theorem gives_upcoming (snapshot : Snapshot) (index : Nat) :
    snapshot.heap.Gives index (snapshot.upcoming index) :=
  ⟨snapshot.free, snapshot.freeChain, rfl⟩

/-- A node that a call puts on the account has a clear pad. -/
theorem Steps.left_clear (steps : snapshot.Steps image operation result after)
    (builds : operation.builds = true) (valid : Valid image snapshot.heap snapshot.store operation)
    (takesClear : TakesClearPads snapshot.heap snapshot.store operation) {node : Nat}
    (left : node ∈ after.heap.leftPads.drop snapshot.heap.leftPads.length) :
    (snapshot.heap.nodes node).pad = 0#32 := by
  cases leaves : operation.leavesPads with
  | false =>
      rw [leftPads_perform builds leaves steps.performs, List.drop_length] at left
      exact absurd left List.not_mem_nil
  | true =>
      rcases exists_copiedNodes valid leaves with ⟨count, copied⟩
      rcases (steps.draws count copied).left node left with ⟨index, below, isNode⟩
      apply takesClear count copied index node below
      rw [<- isNode]
      exact snapshot.gives_upcoming index

/-- What a call that builds lists keeps. -/
theorem ClearPads.steps (clear : snapshot.ClearPads)
    (steps : snapshot.Steps image operation result after) (builds : operation.builds = true)
    (valid : Valid image snapshot.heap snapshot.store operation)
    (takesClear : TakesClearPads snapshot.heap snapshot.store operation) : after.ClearPads := by
  intro node header owned
  rcases steps.frame with ⟨openLists, frame⟩
  rcases frame.gained node header owned with ⟨earlier, before⟩ | opened | zero | left
  · rcases frame.pads node with same | zero
    · exact same.trans (clear node earlier before)
    · exact zero
  · exact absurd opened List.not_mem_nil
  · exact zero
  · rcases frame.pads node with same | zero
    · exact same.trans (steps.left_clear builds valid takesClear left)
    · exact zero

theorem ClearPads.shrinks (clear : snapshot.ClearPads) (shrinks : snapshot.Shrinks after) :
    after.ClearPads := by
  intro node header owned
  rw [shrinks.pads]
  exact clear node header (shrinks.owner node header owned)

/-- Clear pads make the type checks right. -/
theorem ClearPads.checks (clear : snapshot.ClearPads) (image : Image) :
    (typeChecks image).holds snapshot.heap snapshot.store := by
  intro header live
  cases known : snapshot.store header with
  | none => exact absurd known live
  | some elements =>
      rcases snapshot.lists header elements known with ⟨records, isOwned, _⟩
      refine ⟨records, isOwned.chain, ?_⟩
      intro node member
      rw [clear node header (isOwned.owned node member)]
      exact Lists.checksType_of_clear _

/-- Every run of valid calls. -/
theorem ClearPads.follows (clear : snapshot.ClearPads) (operations : List Operation) :
    Follows image (typeChecks image) TakesClearPads snapshot.heap snapshot.store operations := by
  induction operations generalizing snapshot with
  | nil => exact clear.checks image
  | cons operation rest ih =>
      refine ⟨clear.checks image, ?_⟩
      intro valid takesClear
      cases builds : operation.builds with
      | true =>
          rcases exists_step builds valid with ⟨result, after, step⟩
          exact ⟨result, after.heap, step.performs, fun _ _ again => step.performs.unique again,
            after.store, step.expected, ih (clear.steps step builds valid takesClear)⟩
      | false =>
          rcases exists_giveBack snapshot builds valid with ⟨after, gives⟩
          exact ⟨none, after.heap, gives.performs, fun _ _ again => gives.performs.unique again,
            after.store, gives.expected, ih (clear.shrinks gives.shrinks)⟩

theorem start_clearPads (contents : Heap) : (start contents).ClearPads := by
  intro node header owned
  change ite _ _ _ = _ at owned
  split at owned <;> cases owned

end Snapshot

/-- From the start of a program, the type checks are right on all nodes as long as the
copies of lists take nodes with clear pads. -/
theorem typeChecks_agree (image : Image) (contents : Heap) (operations : List Operation) :
    Follows image (typeChecks image) TakesClearPads (Heap.startup contents) (fun _ => none)
      operations := by
  rw [<- Snapshot.start_heap]
  exact (Snapshot.start_clearPads contents).follows operations

/-- The contents of a memory that was used before. -/
def usedMemory : Heap :=
  { oneString with nodes := fun _ => ⟨0#32, 1#32, .word 0#64, none⟩ }

theorem usedMemory_created :
    (perform noLiterals 1 (Heap.startup usedMemory) .createEmpty).map Prod.fst =
      some (some 0) := rfl

/-- A list with one number and its shallow copy. -/
def copiedNumber : Option (Option Nat × Heap) :=
  (perform noLiterals 1 (Heap.startup usedMemory) .createEmpty).bind fun created =>
    (perform noLiterals 1 created.2 (.appendInt (some 0) 7#64)).bind fun filled =>
      perform noLiterals 1 filled.2 (.shallowCopy (some 0))

/-- The node of the copy has the pad of the memory. -/
theorem copiedNumber_node :
    copiedNumber.map (fun copied => (copied.1, (copied.2.headers 1).head, copied.2.nodes 1)) =
      some (some 1, some 1, ⟨intType, 1#32, .word 7#64, none⟩) := rfl

/-- The type check of a copied number traps if the memory of its node was not clear. -/
theorem typeChecks_trap :
    ¬ forall (image : Image) (contents : Heap) (operations : List Operation),
      Follows image (typeChecks image) (fun _ _ _ => True) (Heap.startup contents)
        (fun _ => none) operations := by
  intro follows
  have run := follows noLiterals usedMemory
    [.createEmpty, .appendInt (some 0) 7#64, .shallowCopy (some 0)]
  have copied := copiedNumber_node
  rw [Option.map_eq_some_iff] at copied
  rcases copied with ⟨⟨copy, heap⟩, isCopied, facts⟩
  rw [copiedNumber, Option.bind_eq_some_iff] at isCopied
  rcases isCopied with ⟨⟨list, created⟩, creating, isFilled⟩
  rw [Option.bind_eq_some_iff] at isFilled
  rcases isFilled with ⟨⟨nothing, filled⟩, filling, copying⟩
  have isList := usedMemory_created
  rw [creating] at isList
  cases isList
  simp only [Prod.mk.injEq] at facts
  rcases facts with ⟨rfl, head, node⟩
  rcases run.next trivial trivial ⟨1, creating⟩ with ⟨store, ⟨_, isNew, _, isStore⟩, run⟩
  cases isNew
  have live : store 0 = some [] := by
    rw [isStore, Function.update_self]
  have known {other : Store} {elements : List Element} (live : other 0 = some elements) :
      Known other (some 0) := by
    rintro header ⟨⟩
    rw [live]
    exact Option.some_ne_none elements
  rcases run.next (known live) trivial ⟨1, filling⟩ with ⟨filledStore, ⟨_, isFilled⟩, run⟩
  dsimp only at isFilled
  have liveFilled := congrFun isFilled 0
  rw [Function.update_self] at liveFilled
  rcases run.next (known liveFilled) trivial ⟨1, copying⟩ with
    ⟨copyStore, ⟨_, isCopy, _, isCopyStore⟩, checks⟩
  cases isCopy
  have liveCopy : copyStore 1 ≠ none := by
    rw [isCopyStore, Function.update_self]
    exact Option.some_ne_none _
  rcases checks 1 liveCopy with ⟨records, chain, typed⟩
  rw [head] at chain
  cases records with
  | nil => cases chain
  | cons first rest =>
      have isFirst := chain.1
      cases isFirst
      have check := typed 1 List.mem_cons_self
      rw [node] at check
      exact absurd ((Lists.checksType_iff .asInt 1#32).mp check) (by decide)

end Runtime
end NewBcpl
