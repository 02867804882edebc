import NewBcpl.Foundations.Chains
import NewBcpl.Lists.ListDataTypes

namespace NewBcpl
namespace Runtime

open Foundations

/-!
# The list heap of the runtime

The functions of `heap_interface.cpp` on records. Nodes, headers and strings are
named in the order in which memory for them was requested; what a fresh record
contains is arbitrary. A result `none` is a null or dangling pointer that the code
follows, or a loop that the fuel does not finish. Requests for memory succeed.
-/

/-- A pointer to a string points to the word with its length or to its payload. -/
inductive StringPlace where
  | lengthWord | firstCharacter
  deriving DecidableEq, Repr

structure StringPointer where
  block : Nat
  place : StringPlace
  deriving DecidableEq, Repr

/-- The characters of a string. The length word in front of them and the zero behind
them are not stored separately. -/
structure StringBlock where
  readOnly : Bool
  characters : List (BitVec 32)
  deriving DecidableEq, Repr

/-- The pointer is the one that `bcpl_alloc_chars` returned for a block. -/
def StringPointer.isPayloadOf (pointer : StringPointer) : Option StringBlock -> Bool
  | none => false
  | some block => pointer.place = .firstCharacter && !block.readOnly

/-- The union in a node. -/
inductive Value where
  | word (bits : Word)
  | string (pointer : Option StringPointer)
  | list (pointer : Option Nat)
  deriving DecidableEq, Repr

structure ListAtom where
  type : BitVec 32
  pad : BitVec 32
  value : Value
  next : Option Nat
  deriving DecidableEq, Repr

/-- On the free list of the headers, `head` is the next free header. -/
structure ListHeader where
  type : BitVec 32
  pad : BitVec 32
  length : Word
  head : Option Nat
  tail : Option Nat
  deriving DecidableEq, Repr

structure ListLiteralHeader where
  type : BitVec 32
  pad : BitVec 32
  tail : Option Nat
  head : Option Nat
  length : Word
  deriving DecidableEq, Repr

def sentinelType : BitVec 32 := BitVec.ofNat 32 Lists.atomSentinel
def intType : BitVec 32 := BitVec.ofNat 32 Lists.atomInt
def floatType : BitVec 32 := BitVec.ofNat 32 Lists.atomFloat
def stringType : BitVec 32 := BitVec.ofNat 32 Lists.atomString
def listType : BitVec 32 := BitVec.ofNat 32 Lists.atomListPointer

/-- What a list stores for an element. -/
structure Element where
  type : BitVec 32
  value : Value
  deriving DecidableEq, Repr

def ListAtom.element (atom : ListAtom) : Element := ⟨atom.type, atom.value⟩

/-- The chunk of the header pool, or a `malloc` of its own. -/
inductive HeaderSource where
  | pool | malloc
  deriving DecidableEq, Repr

/-- A call of an allocator's `free`, with what the allocator knows of the block, or the
return of a header to the pool. -/
inductive Release where
  | string (pointer : StringPointer) (block : Option StringBlock)
  | nestedHeader (header : Nat)
  | node (node : Nat)
  | pooledHeader (source : HeaderSource)
  deriving DecidableEq, Repr

/-- The records with the variables of the free lists. The last three fields only keep
account: where a header came from, which calls released something, and which nodes were
filled without a value for their pad. -/
structure Heap where
  nodes : Nat -> ListAtom
  headers : Nat -> ListHeader
  strings : Nat -> Option StringBlock
  freeListHead : Option Nat
  freelistNodeCount : Word
  totalNodesAllocatedFromHeap : Word
  headerFreeListHead : Option Nat
  freshNode : Nat
  freshHeader : Nat
  freshString : Nat
  nodeAddress : Nat -> Word
  headerSource : Nat -> HeaderSource
  releases : List Release
  leftPads : List Nat

def initialFreelistChunkSize : Nat := 8192
def headerFreelistChunkSize : Nat := initialFreelistChunkSize / 4

namespace Heap

def setNode (heap : Heap) (node : Nat) (atom : ListAtom) : Heap :=
  { heap with nodes := Function.update heap.nodes node atom }

def setHeader (heap : Heap) (address : Nat) (header : ListHeader) : Heap :=
  { heap with headers := Function.update heap.headers address header }

/-- The link of a node. -/
def next (heap : Heap) (node : Nat) : Option Nat := (heap.nodes node).next

/-- The link of a free header. -/
def nextHeader (heap : Heap) (header : Nat) : Option Nat := (heap.headers header).head

def element (heap : Heap) (node : Nat) : Element := (heap.nodes node).element

/-! ## The free lists -/

def replenishHeaderFreelist (heap : Heap) : Heap :=
  let last := heap.freshHeader + headerFreelistChunkSize - 1
  { heap with
    headers := fun header =>
      if heap.freshHeader <= header ∧ header <= last then
        { heap.headers header with
          head := if header = last then heap.headerFreeListHead else some (header + 1) }
      else heap.headers header
    headerSource := fun header =>
      if heap.freshHeader <= header ∧ header <= last then .pool else heap.headerSource header
    headerFreeListHead := some heap.freshHeader
    freshHeader := heap.freshHeader + headerFreelistChunkSize }

/-- The part of `getHeaderFromFreelist` behind the check. -/
def unlinkHeader (heap : Heap) (header : Nat) : Heap :=
  { heap with headerFreeListHead := heap.nextHeader header }

def getHeaderFromFreelist (heap : Heap) : Nat × Heap :=
  match heap.headerFreeListHead with
  | some header => (header, heap.unlinkHeader header)
  | none => (heap.freshHeader, heap.replenishHeaderFreelist.unlinkHeader heap.freshHeader)

def returnHeaderToFreelist (heap : Heap) (header : Nat) : Heap :=
  { heap.setHeader header { heap.headers header with head := heap.headerFreeListHead } with
    headerFreeListHead := some header
    releases := heap.releases ++ [.pooledHeader (heap.headerSource header)] }

def replenishFreelist (heap : Heap) : Heap :=
  let last := heap.freshNode + initialFreelistChunkSize - 1
  { heap with
    nodes := fun node =>
      if heap.freshNode <= node ∧ node <= last then
        { heap.nodes node with
          next := if node = last then heap.freeListHead else some (node + 1) }
      else heap.nodes node
    freeListHead := some heap.freshNode
    freelistNodeCount := heap.freelistNodeCount + BitVec.ofNat 64 initialFreelistChunkSize
    totalNodesAllocatedFromHeap :=
      heap.totalNodesAllocatedFromHeap + BitVec.ofNat 64 initialFreelistChunkSize
    freshNode := heap.freshNode + initialFreelistChunkSize }

/-- The part of `getNodeFromFreelist` behind the check. -/
def unlinkNode (heap : Heap) (node : Nat) : Heap :=
  { heap with
    freeListHead := heap.next node
    freelistNodeCount := heap.freelistNodeCount - 1#64 }

def getNodeFromFreelist (heap : Heap) : Nat × Heap :=
  match heap.freeListHead with
  | some node => (node, heap.unlinkNode node)
  | none => (heap.freshNode, heap.replenishFreelist.unlinkNode heap.freshNode)

def returnNodeToFreelist (heap : Heap) (node : Nat) : Heap :=
  { heap.setNode node { heap.nodes node with next := heap.freeListHead } with
    freeListHead := some node
    freelistNodeCount := heap.freelistNodeCount + 1#64 }

def initializeFreelist (heap : Heap) : Heap :=
  if heap.totalNodesAllocatedFromHeap = 0#64 then
    heap.replenishFreelist.replenishHeaderFreelist
  else heap

/-! ## Building lists -/

/-- `BCPL_LIST_CREATE_EMPTY`. -/
def listCreateEmpty (heap : Heap) : Nat × Heap :=
  let (header, taken) := heap.getHeaderFromFreelist
  (header, taken.setHeader header ⟨sentinelType, 0#32, 0#64, none, none⟩)

/-- The end of an append: the new node becomes the tail. -/
def linkLast (heap : Heap) (header node : Nat) : Option Heap :=
  match (heap.headers header).head with
  | none =>
      some (heap.setHeader header
        { heap.headers header with head := some node, tail := some node })
  | some _ =>
      match (heap.headers header).tail with
      | none => none
      | some tail =>
          let linked := heap.setNode tail { heap.nodes tail with next := some node }
          some (linked.setHeader header { linked.headers header with tail := some node })

/-- `header->length++`. -/
def countUp (heap : Heap) (header : Nat) : Heap :=
  heap.setHeader header
    { heap.headers header with length := (heap.headers header).length + 1#64 }

/-- A new node with the fields that the appends set. -/
def newAtom (heap : Heap) (element : Element) : Nat × Heap :=
  let (node, taken) := heap.getNodeFromFreelist
  (node, taken.setNode node ⟨element.type, 0#32, element.value, none⟩)

/-- The body that the appends share. -/
def appendAtom (heap : Heap) (header : Nat) (element : Element) : Option Heap :=
  let (node, filled) := heap.newAtom element
  (filled.linkLast header node).map fun linked => linked.countUp header

/-- The appends that check the header. -/
def appendChecked (heap : Heap) (header : Option Nat) (element : Element) : Option Heap :=
  match header with
  | none => some heap
  | some header =>
      if (heap.headers header).type = sentinelType then heap.appendAtom header element
      else some heap

/-- `BCPL_LIST_APPEND_INT`. -/
def listAppendInt (heap : Heap) (header : Option Nat) (value : Word) : Option Heap :=
  heap.appendChecked header ⟨intType, .word value⟩

/-- `BCPL_LIST_APPEND_FLOAT`, with the bits of the value. -/
def listAppendFloat (heap : Heap) (header : Option Nat) (value : Word) : Option Heap :=
  heap.appendChecked header ⟨floatType, .word value⟩

/-- `BCPL_LIST_APPEND_STRING`. -/
def listAppendString (heap : Heap) (header : Option Nat) (value : Option StringPointer) :
    Option Heap :=
  heap.appendChecked header ⟨stringType, .string value⟩

/-- `BCPL_LIST_APPEND_LIST`, which does not check the header. -/
def listAppendList (heap : Heap) (header : Option Nat) (list : Option Nat) :
    Option Heap :=
  match header with
  | none => none
  | some header => heap.appendAtom header ⟨listType, .list list⟩

/-! ## Copies -/

/-- The pad of a new node stays what it was. -/
def leavePad (heap : Heap) (node : Nat) : Heap :=
  { heap with leftPads := heap.leftPads ++ [node] }

/-- A new node with the type and the value of another one. -/
def copiedAtom (heap : Heap) (original : Nat) (link : Heap -> Option Nat) :
    Nat × Heap :=
  let (node, taken) := heap.getNodeFromFreelist
  (node, (taken.setNode node
    ⟨(taken.nodes original).type, (taken.nodes node).pad, (taken.nodes original).value,
      link taken⟩).leavePad node)

/-- The body of the loops of `BCPL_SHALLOW_COPY_LIST` and `BCPL_CONCAT_LISTS`. -/
def appendCopy (new : Nat) (heap : Heap) (original : Nat) : Option Heap :=
  let (node, filled) := heap.copiedAtom original fun _ => none
  (filled.linkLast new node).map fun linked => linked.countUp new

/-- `BCPL_SHALLOW_COPY_LIST`. -/
def shallowCopyList (fuel : Nat) (heap : Heap) (original : Option Nat) :
    Option (Option Nat × Heap) :=
  match original with
  | none => some (none, heap)
  | some original =>
      let (new, created) := heap.listCreateEmpty
      (Chains.walk next (appendCopy new) fuel created (created.headers original).head).map
        fun copied => (some new, copied)

/-- The second part of `BCPL_CONCAT_LISTS`. -/
def appendList (fuel : Nat) (new : Nat) (heap : Heap) (second : Option Nat) :
    Option Heap :=
  match second with
  | none => some heap
  | some second => Chains.walk next (appendCopy new) fuel heap (heap.headers second).head

/-- `BCPL_CONCAT_LISTS`. -/
def concatLists (fuel : Nat) (heap : Heap) (first second : Option Nat) :
    Option (Option Nat × Heap) :=
  match heap.shallowCopyList fuel first with
  | none => none
  | some (none, copied) => copied.shallowCopyList fuel second
  | some (some new, copied) =>
      (copied.appendList fuel new second).map fun joined => (some new, joined)

/-- The body of the loop of `BCPL_REVERSE_LIST`. -/
def prependCopy (new : Nat) (heap : Heap) (original : Nat) : Option Heap :=
  let (node, filled) := heap.copiedAtom original fun taken => (taken.headers new).head
  let header := filled.headers new
  let linked := filled.setHeader new
    { header with head := some node, tail := if header.tail = none then some node else header.tail }
  some (linked.countUp new)

/-- `BCPL_REVERSE_LIST`. -/
def reverseList (fuel : Nat) (heap : Heap) (original : Option Nat) :
    Option (Option Nat × Heap) :=
  match original with
  | none => some (none, heap)
  | some original =>
      let (new, created) := heap.listCreateEmpty
      (Chains.walk next (prependCopy new) fuel created (created.headers original).head).map
        fun copied => (some new, copied)

/-- The body of the loop of `BCPL_LIST_FILTER`. -/
def filterCopy (predicate : Value -> Bool) (new : Nat) (heap : Heap) (original : Nat) :
    Option Heap :=
  if predicate (heap.nodes original).value then heap.appendAtom new (heap.element original)
  else some heap

/-- `BCPL_LIST_FILTER`. -/
def listFilter (fuel : Nat) (heap : Heap) (original : Option Nat)
    (predicate : Option (Value -> Bool)) : Option (Option Nat × Heap) :=
  match original, predicate with
  | some original, some predicate =>
      let (new, created) := heap.listCreateEmpty
      (Chains.walk next (filterCopy predicate new) fuel created
        (created.headers original).head).map fun copied => (some new, copied)
  | _, _ => some (none, heap)

end Heap

/-! ## Strings and nested lists -/

/-- The 32-bit words from a pointer to the zero behind the characters. -/
def StringBlock.wordsFrom (block : StringBlock) : StringPlace -> List (BitVec 32)
  | .lengthWord =>
      let length := BitVec.ofNat 64 block.characters.length
      [length.setWidth 32, (length >>> 32).setWidth 32] ++ block.characters ++ [0#32]
  | .firstCharacter => block.characters ++ [0#32]

/-- The characters that a scan for the zero passes. -/
def StringBlock.scanned (block : StringBlock) (place : StringPlace) : List (BitVec 32) :=
  (block.wordsFrom place).takeWhile fun character => character != 0#32

namespace Heap

/-- `bcpl_alloc_chars` and the characters that are written into the new block. -/
def allocChars (heap : Heap) (characters : List (BitVec 32)) : StringPointer × Heap :=
  (⟨heap.freshString, .firstCharacter⟩,
    { heap with
      strings := Function.update heap.strings heap.freshString (some ⟨false, characters⟩)
      freshString := heap.freshString + 1 })

/-- The case `ATOM_STRING` of the deep copy. -/
def duplicateString (heap : Heap) (original : Option StringPointer) :
    Option (Option StringPointer × Heap) :=
  match original with
  | none => some (none, heap)
  | some pointer =>
      match heap.strings pointer.block with
      | none => none
      | some block =>
          let (new, allocated) := heap.allocChars (block.scanned pointer.place)
          some (some new, allocated)

/-- A taken node gets its type, and its link is cleared. -/
def beginAtom (heap : Heap) (node : Nat) (type : BitVec 32) : Heap :=
  (heap.setNode node { heap.nodes node with type := type, next := none }).leavePad node

def setValue (heap : Heap) (node : Nat) (value : Value) : Heap :=
  heap.setNode node { heap.nodes node with value := value }

/-- The switch of the deep copy, with the function for nested lists. -/
def duplicateValue (nested : Heap -> Option Nat -> Option (Option Nat × Heap))
    (heap : Heap) (original : Element) : Option (Value × Heap) :=
  if original.type = stringType then
    match original.value with
    | .string pointer => (heap.duplicateString pointer).map fun copy => (.string copy.1, copy.2)
    | _ => none
  else if original.type = listType then
    match original.value with
    | .list pointer => (nested heap pointer).map fun copy => (.list copy.1, copy.2)
    | _ => none
  else some (original.value, heap)

/-- The body of the loop of `BCPL_DEEP_COPY_LIST`. -/
def appendDeepCopy (nested : Heap -> Option Nat -> Option (Option Nat × Heap))
    (new : Nat) (heap : Heap) (original : Nat) : Option Heap :=
  let (node, taken) := heap.getNodeFromFreelist
  let begun := taken.beginAtom node (taken.nodes original).type
  match begun.duplicateValue nested (begun.element original) with
  | none => none
  | some (value, copied) =>
      ((copied.setValue node value).linkLast new node).map fun linked => linked.countUp new

/-- `BCPL_DEEP_COPY_LIST`. The fuel counts the nested calls and the rounds of a loop. -/
def deepCopyList : Nat -> Heap -> Option Nat -> Option (Option Nat × Heap)
  | _, heap, none => some (none, heap)
  | 0, _, some _ => none
  | fuel + 1, heap, some original =>
      let (new, created) := heap.listCreateEmpty
      (Chains.walk next (appendDeepCopy (deepCopyList fuel) new) fuel created
        (created.headers original).head).map fun copied => (some new, copied)

end Heap

/-! ## Literals -/

/-- The read-only lists of a program, each with the nodes that are laid out for it. -/
structure Image where
  headers : Nat -> ListLiteralHeader
  nodes : Nat -> ListAtom
  chains : Nat -> Option (List Nat)
  size : Nat
  chain : forall header records, chains header = some records ->
    Chains.Chain (fun node => (nodes node).next) (headers header).head records
  length : forall header records, chains header = some records ->
    (headers header).length = BitVec.ofNat 64 records.length
  tail : forall header records, chains header = some records ->
    (headers header).tail = records.getLast?
  sentinel : forall header records, chains header = some records ->
    (headers header).type = sentinelType
  bounded : forall header records, chains header = some records -> records.length <= size

namespace Image

def next (image : Image) (node : Nat) : Option Nat := (image.nodes node).next

def element (image : Image) (node : Nat) : Element := (image.nodes node).element

end Image

namespace Heap

/-- The header that the copy of a literal allocates. -/
def mallocHeader (heap : Heap) (length : Word) : Nat × Heap :=
  (heap.freshHeader,
    { heap.setHeader heap.freshHeader ⟨sentinelType, 0#32, length, none, none⟩ with
      headerSource := Function.update heap.headerSource heap.freshHeader .malloc
      freshHeader := heap.freshHeader + 1 })

/-- The switch of the copy of a literal. -/
def literalValue (nested : Heap -> Option Nat -> Option (Option Nat × Heap))
    (heap : Heap) (original : Element) : Option (Value × Heap) :=
  if original.type = listType then
    match original.value with
    | .list pointer => (nested heap pointer).map fun copy => (.list copy.1, copy.2)
    | _ => none
  else some (original.value, heap)

/-- The body of the loop of `BCPL_DEEP_COPY_LITERAL_LIST`. -/
def appendLiteralCopy (image : Image)
    (nested : Heap -> Option Nat -> Option (Option Nat × Heap))
    (new : Nat) (heap : Heap) (original : Nat) : Option Heap :=
  let (node, taken) := heap.getNodeFromFreelist
  let begun := taken.setNode node
    { taken.nodes node with type := (image.nodes original).type, pad := 0#32, next := none }
  match begun.literalValue nested (image.element original) with
  | none => none
  | some (value, copied) => (copied.setValue node value).linkLast new node

/-- `BCPL_DEEP_COPY_LITERAL_LIST`. The fuel counts as in the deep copy. -/
def deepCopyLiteralList (image : Image) :
    Nat -> Heap -> Option Nat -> Option (Option Nat × Heap)
  | _, heap, none => some (none, heap)
  | 0, _, some _ => none
  | fuel + 1, heap, some literal =>
      let (new, created) := heap.mallocHeader (image.headers literal).length
      (Chains.walk (fun _ => image.next)
        (appendLiteralCopy image (deepCopyLiteralList image fuel) new) fuel created
        (image.headers literal).head).map fun copied => (some new, copied)

/-! ## Releases -/

/-- The block that a `free` gives back. A pointer that the allocator did not return is
only recorded. -/
def releaseString (heap : Heap) (pointer : StringPointer) : Heap :=
  { heap with
    strings :=
      if pointer.isPayloadOf (heap.strings pointer.block) then
        Function.update heap.strings pointer.block none
      else heap.strings
    releases := heap.releases ++ [.string pointer (heap.strings pointer.block)] }

/-- `bcpl_free` on the value of a node. -/
def bcplFree (heap : Heap) : Value -> Option Heap
  | .word _ => none
  | .string none => some heap
  | .string (some pointer) => some (heap.releaseString pointer)
  | .list none => some heap
  | .list (some header) => some { heap with releases := heap.releases ++ [.nestedHeader header] }

/-- The body of the loop of `bcpl_free_list`. -/
def freeNode (heap : Heap) (node : Nat) : Option Heap :=
  let atom := heap.nodes node
  if atom.type = stringType ∨ atom.type = listType then
    (heap.bcplFree atom.value).map fun freed => freed.returnNodeToFreelist node
  else some (heap.returnNodeToFreelist node)

/-- The loop of `bcpl_free_list`, which reads the link before the node is returned. -/
def freeNodes : Nat -> Heap -> Option Nat -> Option Heap
  | _, heap, none => some heap
  | 0, _, some _ => none
  | fuel + 1, heap, some node =>
      match heap.freeNode node with
      | none => none
      | some freed => freeNodes fuel freed (heap.next node)

/-- `bcpl_free_list`. -/
def bcplFreeList (fuel : Nat) (heap : Heap) (header : Option Nat) : Option Heap :=
  match header with
  | none => some heap
  | some header =>
      (heap.freeNodes fuel (heap.headers header).head).map fun freed =>
        freed.returnHeaderToFreelist header

/-- The body of the loop of `BCPL_FREE_CELLS`. -/
def freeCell (heap : Heap) (node : Nat) : Option Heap :=
  some { heap with releases := heap.releases ++ [.node node] }

/-- `BCPL_FREE_CELLS`. -/
def freeCells (fuel : Nat) (heap : Heap) : Option Heap :=
  (Chains.walk next freeCell fuel heap heap.freeListHead).map fun freed =>
    { freed with
      freeListHead := none
      freelistNodeCount := 0#64
      totalNodesAllocatedFromHeap := 0#64 }

/-- The emitted code of TL. It reads and clears the length where it means the tail. -/
def tailOf (heap : Heap) (header : Option Nat) : Option Heap :=
  match header with
  | none => none
  | some address =>
      let header := heap.headers address
      match header.head with
      | none => some heap
      | some node =>
          let unlinked := heap.setHeader address
            { header with
              head := heap.next node
              length := if header.length = heap.nodeAddress node then 0#64 else header.length }
          some (unlinked.returnNodeToFreelist node)

end Heap

/-! ## Operations -/

/-- The calls of a program. -/
inductive Operation where
  | createEmpty
  | appendInt (list : Option Nat) (value : Word)
  | appendFloat (list : Option Nat) (value : Word)
  | appendString (list : Option Nat) (value : Option StringPointer)
  | appendList (list : Option Nat) (value : Option Nat)
  | shallowCopy (list : Option Nat)
  | deepCopy (list : Option Nat)
  | concat (first second : Option Nat)
  | reverse (list : Option Nat)
  | filter (list : Option Nat) (predicate : Option (Value -> Bool))
  | literalCopy (literal : Option Nat)
  | tailOf (list : Option Nat)
  | freeList (list : Option Nat)
  | freeCells

/-- An operation that gives no pointer. -/
def withoutResult (performed : Option Heap) : Option (Option Nat × Heap) :=
  performed.map fun heap => (none, heap)

/-- One call, with its result. -/
def perform (image : Image) (fuel : Nat) (heap : Heap) :
    Operation -> Option (Option Nat × Heap)
  | .createEmpty => let (new, created) := heap.listCreateEmpty; some (some new, created)
  | .appendInt list value => withoutResult (heap.listAppendInt list value)
  | .appendFloat list value => withoutResult (heap.listAppendFloat list value)
  | .appendString list value => withoutResult (heap.listAppendString list value)
  | .appendList list value => withoutResult (heap.listAppendList list value)
  | .shallowCopy list => heap.shallowCopyList fuel list
  | .deepCopy list => heap.deepCopyList fuel list
  | .concat first second => heap.concatLists fuel first second
  | .reverse list => heap.reverseList fuel list
  | .filter list predicate => heap.listFilter fuel list predicate
  | .literalCopy literal => heap.deepCopyLiteralList image fuel literal
  | .tailOf list => withoutResult (heap.tailOf list)
  | .freeList list => withoutResult (heap.bcplFreeList fuel list)
  | .freeCells => withoutResult (heap.freeCells fuel)

/-- The call ends with the result. -/
def Performs (image : Image) (heap : Heap) (operation : Operation) (result : Option Nat)
    (after : Heap) : Prop :=
  exists fuel, perform image fuel heap operation = some (result, after)

/-- The start of a program: memory of any contents, with the strings that exist then. -/
def Heap.startup (contents : Heap) : Heap :=
  Heap.initializeFreelist
    { contents with
      strings := fun block =>
        if block < contents.freshString then contents.strings block else none
      freeListHead := none
      freelistNodeCount := 0#64
      totalNodesAllocatedFromHeap := 0#64
      headerFreeListHead := none
      releases := []
      leftPads := [] }

end Runtime
end NewBcpl
