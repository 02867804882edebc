import NewBcpl.HeapTracking.HeapManager
import Mathlib.Data.List.Nodup
import Mathlib.Data.BitVec

namespace NewBcpl
namespace HeapTracking

/-!
# The table and the live blocks

As long as no entry of a live block is overwritten, the entries with an address are the live
blocks, each once. The four operations keep this, and the account with it.
-/

/-- The entry of a live block. -/
def LiveBlock.entry (block : LiveBlock) : HeapBlock :=
  ⟨block.type, some block.address, block.size⟩

/-- The table records the live blocks and nothing else, each of them is a block of the library
with space for its length, and the account is balanced. -/
structure Tracks (world : World) (live : List LiveBlock) : Prop where
  listed : forall block, block ∈ live <-> exists index,
    world.manager.blocks index = block.entry
  separate : forall first second address,
    (world.manager.blocks first).address = some address ->
      (world.manager.blocks second).address = some address -> first = second
  distinct : (live.map LiveBlock.address).Nodup
  owned : forall block, block ∈ live -> world.allocated block.address = true
  sized : forall block, block ∈ live -> 8#64 <= block.size
  balanced : Balanced world live

/-- What is to be shown of one call. -/
structure Accounted (world : World) (live : List LiveBlock) (call : Call) (result : Result) :
    Prop where
  released : result.released = toRelease live call
  rejected : IsRejected live call -> result.world = world ∧ result.returned = none
  tracks : Tracks result.world (liveAfter live call result.returned)

/-! ## The list of the live blocks -/

theorem LiveBlock.payload_eq_iff (first second : LiveBlock) :
    first.payload = second.payload <-> first.address = second.address := by
  unfold LiveBlock.payload
  omega

/-- A pointer belongs to one live block. -/
theorem filter_payload {live : List LiveBlock} {block : LiveBlock}
    (distinct : (live.map LiveBlock.address).Nodup) (member : block ∈ live) :
    (live.filter fun other => other.payload = block.payload).map LiveBlock.address =
      [block.address] := by
  induction live with
  | nil => exact absurd member List.not_mem_nil
  | cons head rest hypothesis =>
      rw [List.map_cons, List.nodup_cons] at distinct
      rcases List.mem_cons.mp member with same | inRest
      · subst same
        have others : rest.filter (fun other => other.payload = block.payload) = [] := by
          apply List.filter_eq_nil_iff.mpr
          intro other inside equal
          apply distinct.1
          rw [← (LiveBlock.payload_eq_iff other block).mp (of_decide_eq_true equal)]
          exact List.mem_map_of_mem inside
        rw [List.filter_cons_of_pos (by simp), others, List.map_cons, List.map_nil]
      · have differs : ¬ head.payload = block.payload := by
          intro equal
          apply distinct.1
          rw [(LiveBlock.payload_eq_iff head block).mp equal]
          exact List.mem_map_of_mem inRest
        rw [List.filter_cons_of_neg (by simpa using differs)]
        exact hypothesis distinct.2 inRest

/-- No live block has a pointer that is not live. -/
theorem filter_payload_of_absent {live : List LiveBlock} {payload : Nat}
    (absent : forall block, block ∈ live -> block.payload ≠ payload) :
    live.filter (fun block => block.payload = payload) = [] := by
  apply List.filter_eq_nil_iff.mpr
  intro block member equal
  exact absent block member (of_decide_eq_true equal)

/-- The blocks that stay when no block has the pointer. -/
theorem filter_others_of_absent {live : List LiveBlock} {payload : Nat}
    (absent : forall block, block ∈ live -> block.payload ≠ payload) :
    live.filter (fun block => block.payload != payload) = live := by
  apply List.filter_eq_self.mpr
  intro block member
  exact bne_iff_ne.mpr (absent block member)

/-- The bytes of the live blocks are those of one of them and those of the others. -/
theorem sum_sizes_of_mem {live : List LiveBlock} {block : LiveBlock}
    (distinct : (live.map LiveBlock.address).Nodup) (member : block ∈ live) :
    (live.map LiveBlock.size).sum = block.size +
      ((live.filter fun other => other.payload != block.payload).map LiveBlock.size).sum := by
  induction live with
  | nil => exact absurd member List.not_mem_nil
  | cons head rest hypothesis =>
      rw [List.map_cons, List.nodup_cons] at distinct
      rcases List.mem_cons.mp member with same | inRest
      · subst same
        have others : rest.filter (fun other => other.payload != block.payload) = rest := by
          apply filter_others_of_absent
          intro other inside equal
          apply distinct.1
          rw [← (LiveBlock.payload_eq_iff other block).mp equal]
          exact List.mem_map_of_mem inside
        rw [List.filter_cons_of_neg (by simp), others, List.map_cons, List.sum_cons]
      · have differs : head.payload ≠ block.payload := by
          intro equal
          apply distinct.1
          rw [(LiveBlock.payload_eq_iff head block).mp equal]
          exact List.mem_map_of_mem inRest
        rw [List.filter_cons_of_pos (by simpa using differs), List.map_cons, List.map_cons,
          List.sum_cons, List.sum_cons, hypothesis distinct.2 inRest, add_left_comm]

/-! ## The search -/

/-- What the search finds has the pointer. -/
theorem HeapManager.find_some {manager : HeapManager} {payload : Nat}
    {index : Fin maxHeapBlocks} (found : manager.find payload = some index) :
    exists address, (manager.blocks index).address = some address ∧ address + 8 = payload := by
  have holds := List.find?_some found
  cases stored : (manager.blocks index).address with
  | none =>
      rw [stored] at holds
      exact absurd holds Bool.false_ne_true
  | some address =>
      rw [stored] at holds
      exact ⟨address, rfl, eq_of_beq holds⟩

/-- The search finds a pointer that some entry has. -/
theorem HeapManager.find_isSome {manager : HeapManager} {index : Fin maxHeapBlocks}
    {address : Nat} (stored : (manager.blocks index).address = some address) :
    exists found, manager.find (address + 8) = some found := by
  cases result : manager.find (address + 8) with
  | some found => exact ⟨found, rfl⟩
  | none =>
      have absent := List.find?_eq_none.mp result index (List.mem_finRange index)
      rw [stored] at absent
      exact absurd (beq_self_eq_true _) absent

namespace Tracks

variable {world : World} {live : List LiveBlock}

/-- An entry with an address is the entry of a live block. -/
theorem exists_block (tracks : Tracks world live) {index : Fin maxHeapBlocks} {address : Nat}
    (stored : (world.manager.blocks index).address = some address) :
    exists block, block ∈ live ∧ world.manager.blocks index = block.entry ∧
      block.address = address := by
  have entry : world.manager.blocks index = LiveBlock.entry
      ⟨(world.manager.blocks index).type, address, (world.manager.blocks index).size⟩ := by
    unfold LiveBlock.entry
    rw [← stored]
  exact ⟨_, (tracks.listed _).mpr ⟨index, entry⟩, entry, rfl⟩

/-- Two live blocks at one address are the same. -/
theorem eq_of_address (tracks : Tracks world live) {first second : LiveBlock}
    (inFirst : first ∈ live) (inSecond : second ∈ live)
    (equal : first.address = second.address) : first = second :=
  List.inj_on_of_nodup_map tracks.distinct inFirst inSecond equal

/-- The search for a pointer finds the entry of its block. -/
theorem find_of_mem (tracks : Tracks world live) {block : LiveBlock} (member : block ∈ live) :
    exists index, world.manager.find block.payload = some index ∧
      world.manager.blocks index = block.entry := by
  obtain ⟨place, entry⟩ := (tracks.listed block).mp member
  have stored : (world.manager.blocks place).address = some block.address := by
    rw [entry]
    rfl
  obtain ⟨index, found⟩ := HeapManager.find_isSome stored
  obtain ⟨address, storedHere, equal⟩ := HeapManager.find_some found
  have same : address = block.address := by omega
  subst same
  have samePlace := tracks.separate index place block.address storedHere stored
  subst samePlace
  exact ⟨index, found, entry⟩

/-- The search for a pointer that is not live finds nothing. -/
theorem find_of_absent (tracks : Tracks world live) {payload : Nat}
    (absent : forall block, block ∈ live -> block.payload ≠ payload) :
    world.manager.find payload = none := by
  cases result : world.manager.find payload with
  | none => rfl
  | some index =>
      obtain ⟨address, stored, equal⟩ := HeapManager.find_some result
      obtain ⟨block, member, _, place⟩ := tracks.exists_block stored
      have pointer : block.payload = payload := by
        unfold LiveBlock.payload
        rw [place, equal]
      exact absurd pointer (absent block member)

/-- The entries of the other places are those of the other blocks. -/
theorem others_iff (tracks : Tracks world live) {block : LiveBlock}
    {index : Fin maxHeapBlocks} (entry : world.manager.blocks index = block.entry)
    (other : LiveBlock) :
    (exists place, place ≠ index ∧ world.manager.blocks place = other.entry) <->
      other ∈ live ∧ other.payload ≠ block.payload := by
  have stored : (world.manager.blocks index).address = some block.address := by
    rw [entry]
    rfl
  constructor
  · rintro ⟨place, differs, otherEntry⟩
    refine ⟨(tracks.listed other).mpr ⟨place, otherEntry⟩, ?_⟩
    intro equal
    have otherStored : (world.manager.blocks place).address = some block.address := by
      rw [otherEntry, ← (LiveBlock.payload_eq_iff other block).mp equal]
      rfl
    exact differs (tracks.separate place index block.address otherStored stored)
  · rintro ⟨member, differs⟩
    obtain ⟨place, otherEntry⟩ := (tracks.listed other).mp member
    refine ⟨place, ?_, otherEntry⟩
    intro same
    subst same
    rw [otherEntry] at stored
    exact differs ((LiveBlock.payload_eq_iff other block).mpr (Option.some.inj stored))

end Tracks

/-- The entries after one of them is written. -/
theorem exists_update_iff (blocks : Fin maxHeapBlocks -> HeapBlock) (index : Fin maxHeapBlocks)
    (written : HeapBlock) (block : LiveBlock) :
    (exists place, Function.update blocks index written place = block.entry) <->
      written = block.entry ∨ exists place, place ≠ index ∧ blocks place = block.entry := by
  constructor
  · rintro ⟨place, entry⟩
    by_cases same : place = index
    · subst same
      rw [Function.update_self] at entry
      exact Or.inl entry
    · rw [Function.update_of_ne same] at entry
      exact Or.inr ⟨place, same, entry⟩
  · rintro (here | ⟨place, differs, entry⟩)
    · exact ⟨index, by rw [Function.update_self, here]⟩
    · exact ⟨place, by rw [Function.update_of_ne differs, entry]⟩

/-- The addresses stay separate when the address that is written is in no other entry. -/
theorem separate_update {blocks : Fin maxHeapBlocks -> HeapBlock}
    (separate : forall first second address, (blocks first).address = some address ->
      (blocks second).address = some address -> first = second)
    {index : Fin maxHeapBlocks} {written : HeapBlock}
    (unused : forall place address, place ≠ index -> (blocks place).address = some address ->
      written.address ≠ some address) (first second : Fin maxHeapBlocks) (address : Nat)
    (atFirst : (Function.update blocks index written first).address = some address)
    (atSecond : (Function.update blocks index written second).address = some address) :
    first = second := by
  by_cases firstHere : first = index
  · by_cases secondHere : second = index
    · rw [firstHere, secondHere]
    · rw [firstHere, Function.update_self] at atFirst
      rw [Function.update_of_ne secondHere] at atSecond
      exact absurd atFirst (unused second address secondHere atSecond)
  · rw [Function.update_of_ne firstHere] at atFirst
    by_cases secondHere : second = index
    · rw [secondHere, Function.update_self] at atSecond
      exact absurd atSecond (unused first address firstHere atFirst)
    · rw [Function.update_of_ne secondHere] at atSecond
      exact separate first second address atFirst atSecond

end HeapTracking
end NewBcpl
