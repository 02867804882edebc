import NewBcpl.Ast
import Mathlib.Logic.Function.Basic

namespace NewBcpl
namespace HeapTracking

/-!
# The heap manager

`HeapManager` gets its blocks from the C library and records them in a table of fixed size,
which it fills in a circle. The memory of the library is the set of the blocks that it has
handed out. A call comes with the outcome of the call to the library that it makes.
-/

/-- `AllocType`. -/
inductive AllocType where
  | unknown | vec | string | generic | free
  deriving DecidableEq, Repr

/-- `HeapBlock`; the names of the function and of the variable are always null. -/
structure HeapBlock where
  type : AllocType
  address : Option Nat
  size : Word
  deriving DecidableEq, Repr

/-- `MAX_HEAP_BLOCKS`. -/
def maxHeapBlocks : Nat := 128

/-- `HeapManager` and `g_heap_blocks_array`. -/
structure HeapManager where
  blocks : Fin maxHeapBlocks -> HeapBlock
  heapIndex : Fin maxHeapBlocks
  totalBytesAllocated : Word
  totalBytesFreed : Word
  totalVectorsAllocated : Word
  totalStringsAllocated : Word
  totalVectorsFreed : Word
  totalStringsFreed : Word

/-- The manager and the blocks that the C library has handed out. -/
structure World where
  manager : HeapManager
  allocated : Nat -> Bool

/-- What `realloc` gives: nothing, an address, or, when the new size is zero, nothing and the
old block is released all the same. -/
inductive Reallocation where
  | failed
  | moved (address : Nat)
  | released
  deriving DecidableEq, Repr

/-- The calls, with what `posix_memalign` and `realloc` give. -/
inductive Call where
  | allocVec (numElements : Word) (outcome : Option Nat)
  | allocString (numChars : Word) (outcome : Option Nat)
  | resizeVec (payload : Nat) (newNumElements : Word) (outcome : Reallocation)
  | free (payload : Nat)
  deriving DecidableEq, Repr

/-- The state after a call, the pointer that it returns, and the addresses that it gives to
`std::free`. -/
structure Result where
  world : World
  returned : Option Nat
  released : List Nat

/-- The size of a vector in bytes. -/
def vecSize (numElements : Word) : Word := 8#64 + numElements * 8#64

/-- The size of a string in bytes. -/
def stringSize (numChars : Word) : Word := 8#64 + (numChars + 1#64) * 4#64

namespace HeapManager

/-- The entry for a block, at the place whose turn it is. -/
def track (manager : HeapManager) (block : HeapBlock) : HeapManager :=
  { manager with
    blocks := Function.update manager.blocks manager.heapIndex block
    heapIndex := ⟨(manager.heapIndex + 1) % maxHeapBlocks, Nat.mod_lt _ (by decide)⟩ }

/-- The counters of an allocation. -/
def countAllocation (manager : HeapManager) (type : AllocType) (size : Word) : HeapManager :=
  { manager with
    totalBytesAllocated := manager.totalBytesAllocated + size
    totalVectorsAllocated :=
      if type = .vec then manager.totalVectorsAllocated + 1#64 else manager.totalVectorsAllocated
    totalStringsAllocated :=
      if type = .string then manager.totalStringsAllocated + 1#64
      else manager.totalStringsAllocated }

/-- The counters of a release. -/
def countRelease (manager : HeapManager) (type : AllocType) (size : Word) : HeapManager :=
  { manager with
    totalBytesFreed := manager.totalBytesFreed + size
    totalVectorsFreed :=
      if type = .vec then manager.totalVectorsFreed + 1#64 else manager.totalVectorsFreed
    totalStringsFreed :=
      if type = .string then manager.totalStringsFreed + 1#64 else manager.totalStringsFreed }

/-- Another entry at a place. -/
def record (manager : HeapManager) (index : Fin maxHeapBlocks) (block : HeapBlock) :
    HeapManager :=
  { manager with blocks := Function.update manager.blocks index block }

/-- The entry whose payload this is: the first one that the loop meets. -/
def find (manager : HeapManager) (payload : Nat) : Option (Fin maxHeapBlocks) :=
  (List.finRange maxHeapBlocks).find? fun index =>
    (manager.blocks index).address.any fun address => address + 8 == payload

end HeapManager

namespace World

/-- `allocVec` and `allocString`. The length that is written into the block needs eight bytes;
there is no result when the size has wrapped around and the block is smaller. -/
def allocate (world : World) (type : AllocType) (size : Word) : Option Nat -> Option Result
  | none => some ⟨world, none, []⟩
  | some address =>
      if size < 8#64 then none
      else
        some
          { world :=
              { manager :=
                  (world.manager.track ⟨type, some address, size⟩).countAllocation type size
                allocated := Function.update world.allocated address true }
            returned := some (address + 8)
            released := [] }

/-- `HeapManager::allocVec`. -/
def allocVec (world : World) (numElements : Word) (outcome : Option Nat) : Option Result :=
  world.allocate .vec (vecSize numElements) outcome

/-- `HeapManager::allocString`. -/
def allocString (world : World) (numChars : Word) (outcome : Option Nat) : Option Result :=
  world.allocate .string (stringSize numChars) outcome

/-- `resizeVec`. A null pointer is rejected, like one that is not in the table and one to a
string. -/
def resizeVec (world : World) (payload : Nat) (newNumElements : Word)
    (outcome : Reallocation) : Option Result :=
  if payload = 0 then some ⟨world, none, []⟩
  else
    match world.manager.find payload with
    | none => some ⟨world, none, []⟩
    | some index =>
        let block := world.manager.blocks index
        if block.type ≠ .vec then some ⟨world, none, []⟩
        else
          let size := vecSize newNumElements
          match outcome, block.address with
          | .moved address, some old =>
              if size < 8#64 then none
              else
                some
                  { world :=
                      { manager := world.manager.record index ⟨block.type, some address, size⟩
                        allocated := Function.update
                          (Function.update world.allocated old false) address true }
                    returned := some (address + 8)
                    released := [] }
          | .released, some old =>
              some ⟨{ world with allocated := Function.update world.allocated old false },
                none, []⟩
          | _, _ => some ⟨world, none, []⟩

/-- `HeapManager::free`; there is no result when the library is given a block that it has not
handed out. -/
def free (world : World) (payload : Nat) : Option Result :=
  if payload = 0 then some ⟨world, none, []⟩
  else
    match world.manager.find payload with
    | none => some ⟨world, none, []⟩
    | some index =>
        let block := world.manager.blocks index
        match block.address with
        | none => some ⟨world, none, []⟩
        | some address =>
            if world.allocated address then
              some
                { world :=
                    { manager := (world.manager.countRelease block.type block.size).record index
                        ⟨.free, none, 0#64⟩
                      allocated := Function.update world.allocated address false }
                  returned := none
                  released := [address] }
            else none

/-- A call. -/
def call (world : World) : Call -> Option Result
  | .allocVec numElements outcome => world.allocVec numElements outcome
  | .allocString numChars outcome => world.allocString numChars outcome
  | .resizeVec payload newNumElements outcome => world.resizeVec payload newNumElements outcome
  | .free payload => world.free payload

/-- The state in which the program starts. -/
def start : World :=
  { manager :=
      { blocks := fun _ => ⟨.unknown, none, 0#64⟩
        heapIndex := ⟨0, by decide⟩
        totalBytesAllocated := 0#64
        totalBytesFreed := 0#64
        totalVectorsAllocated := 0#64
        totalStringsAllocated := 0#64
        totalVectorsFreed := 0#64
        totalStringsFreed := 0#64 }
    allocated := fun _ => false }

end World

/-! ## What the program sees -/

/-- A block that was returned and not freed since. -/
structure LiveBlock where
  type : AllocType
  address : Nat
  size : Word
  deriving DecidableEq, Repr

/-- The pointer that was returned for the block. -/
def LiveBlock.payload (block : LiveBlock) : Nat := block.address + 8

/-- The live blocks after a call that returned a pointer. -/
def liveAfter (live : List LiveBlock) : Call -> Option Nat -> List LiveBlock
  | .allocVec numElements _, some payload =>
      ⟨.vec, payload - 8, vecSize numElements⟩ :: live
  | .allocString numChars _, some payload =>
      ⟨.string, payload - 8, stringSize numChars⟩ :: live
  | .resizeVec old newNumElements _, some payload =>
      live.map fun block =>
        if block.payload = old then ⟨block.type, payload - 8, vecSize newNumElements⟩ else block
  | .free payload, _ => live.filter fun block => block.payload != payload
  | _, none => live

/-- The addresses that a call is to release. -/
def toRelease (live : List LiveBlock) : Call -> List Nat
  | .free payload => (live.filter fun block => block.payload = payload).map LiveBlock.address
  | _ => []

/-- The pointer of the call is not live. -/
def IsRejected (live : List LiveBlock) : Call -> Prop
  | .free payload | .resizeVec payload _ _ =>
      forall block, block ∈ live -> block.payload ≠ payload
  | _ => False

/-- What the C library promises: an address that is handed out is not null and not in use. -/
def LibraryKeeps (world : World) : Call -> Prop
  | .allocVec _ outcome | .allocString _ outcome =>
      forall address, outcome = some address ->
        address ≠ 0 ∧ world.allocated address = false
  | .resizeVec payload newNumElements outcome =>
      (forall address, outcome = .moved address ->
        address ≠ 0 ∧ (world.allocated address = false ∨ address + 8 = payload)) ∧
        (outcome = .released -> vecSize newNumElements = 0#64)
  | .free _ => True

/-- The bytes that were allocated and not freed are those of the live blocks. -/
def Balanced (world : World) (live : List LiveBlock) : Prop :=
  world.manager.totalBytesAllocated - world.manager.totalBytesFreed =
    (live.map LiveBlock.size).sum

/-- In a run each call that meets a condition releases the block that it is to release and
no other, and a call that is rejected changes nothing; the account is balanced all the time. -/
def Accounts (meets : World -> List LiveBlock -> Call -> Prop) :
    World -> List LiveBlock -> List Call -> Prop
  | world, live, [] => Balanced world live
  | world, live, call :: rest =>
      Balanced world live ∧
        (LibraryKeeps world call -> meets world live call ->
          exists result, world.call call = some result ∧
            result.released = toRelease live call ∧
            (IsRejected live call -> result.world = world ∧ result.returned = none) ∧
            Accounts meets result.world (liveAfter live call result.returned) rest)

/-- An allocation finds a place in the table that holds no block, its size has not wrapped
around to nothing, and a vector is only resized to its own size. -/
def KeepsAccount (world : World) (live : List LiveBlock) : Call -> Prop
  | .allocVec numElements outcome =>
      outcome ≠ none -> (world.manager.blocks world.manager.heapIndex).address = none ∧
        8#64 <= vecSize numElements
  | .allocString numChars outcome =>
      outcome ≠ none -> (world.manager.blocks world.manager.heapIndex).address = none ∧
        8#64 <= stringSize numChars
  | .resizeVec payload newNumElements outcome =>
      forall block, block ∈ live -> block.payload = payload -> block.type = .vec ->
        outcome ≠ .failed -> vecSize newNumElements = block.size
  | .free _ => True

end HeapTracking
end NewBcpl
