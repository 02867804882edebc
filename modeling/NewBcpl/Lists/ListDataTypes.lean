import NewBcpl.Arm64.Machine

namespace NewBcpl
namespace Lists

open Foundations

/-!
# Lists in memory

The layouts of `ListDataTypes.h`. A header of the runtime and the header of a
read-only literal have the head pointer at the same offset and the other two
fields exchanged. A list in memory is a header, the chain of its nodes, and the
pieces of memory that belong to it.
-/

/-- The type tags of nodes. -/
def atomSentinel : Nat := 0
def atomInt : Nat := 1
def atomFloat : Nat := 2
def atomString : Nat := 3
def atomListPointer : Nat := 4

/-- `ListHeader` and `ListLiteralHeader`. -/
inductive Layout where
  | heap | literal
  deriving DecidableEq, Repr

namespace Layout

/-- The offset of `length`. -/
def lengthOffset : Layout -> Nat
  | heap => 8
  | literal => 24

/-- The offset of `tail`. -/
def tailOffset : Layout -> Nat
  | heap => 24
  | literal => 8

end Layout

/-- The offset of `head` in both headers, and of `value` and `next` in a node. -/
def headOffset : Nat := 16
def valueOffset : Nat := 8
def nextOffset : Nat := 16

/-- `sizeof(ListHeader)` and `sizeof(ListAtom)`. -/
def headerSize : Nat := 32
def atomSize : Nat := 24

/-- The 64-bit field at an offset of a record. -/
def field (memory : ByteMemory.Memory 64) (address : Word) (offset : Nat) : Word :=
  BitVec.ofNat 64 (ByteMemory.read memory (address + BitVec.ofNat 64 offset) 8)

/-- The pointer starts the chain of the given nodes. -/
def Chain (memory : ByteMemory.Memory 64) : Word -> List Word -> Prop
  | pointer, [] => pointer = 0#64
  | pointer, node :: rest =>
      pointer = node ∧ node ≠ 0#64 ∧ Chain memory (field memory node nextOffset) rest

/-- The last node, or null. -/
def lastNode (nodes : List Word) : Word := nodes.getLast?.getD 0#64

/-- The list invariant of a header. -/
structure ListAt (layout : Layout) (memory : ByteMemory.Memory 64) (header : Word)
    (nodes : List Word) : Prop where
  sentinel : ByteMemory.read memory header 4 = atomSentinel
  length : field memory header layout.lengthOffset = BitVec.ofNat 64 nodes.length
  chain : Chain memory (field memory header headOffset) nodes
  tail : field memory header layout.tailOffset = lastNode nodes

/-- The variables of the runtime's node free list. -/
structure FreeListGlobals where
  head : Word
  nodeCount : Word

/-- The header shares no byte with the nodes and the free list's variables, and both
variables are apart from each other. -/
structure Placed (globals : FreeListGlobals) (header : Word) (nodes : List Word) :
    Prop where
  nodes : forall node, node ∈ nodes ->
    ByteMemory.Disjoint header headerSize node atomSize
  head : ByteMemory.Disjoint header headerSize globals.head 8
  nodeCount : ByteMemory.Disjoint header headerSize globals.nodeCount 8

theorem chain_head {memory : ByteMemory.Memory 64} {pointer : Word} {nodes : List Word}
    (chain : Chain memory pointer nodes) : pointer = nodes.head?.getD 0#64 := by
  cases nodes with
  | nil => exact chain
  | cons node rest => exact chain.1

theorem chain_eq_null {memory : ByteMemory.Memory 64} {pointer : Word} {nodes : List Word}
    (chain : Chain memory pointer nodes) : pointer = 0#64 <-> nodes = [] := by
  cases nodes with
  | nil => exact iff_of_true chain rfl
  | cons node rest =>
      refine iff_of_false ?_ (List.cons_ne_nil node rest)
      rw [chain.1]
      exact chain.2.1

end Lists
end NewBcpl
