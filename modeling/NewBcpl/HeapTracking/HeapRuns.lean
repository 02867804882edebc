import NewBcpl.HeapTracking.LiveBlocks

namespace NewBcpl
namespace HeapTracking

/-!
# The account of a run

Each operation keeps the table in step with the live blocks when an allocation does not
overwrite the entry of one of them and a resize does not change a size.
-/

namespace Tracks

variable {world : World} {live : List LiveBlock}

/-- The table records nothing at the start. -/
theorem start : Tracks World.start [] where
  listed := by
    intro block
    constructor
    · intro member
      exact absurd member List.not_mem_nil
    · rintro ⟨index, entry⟩
      have address : none = some block.address := congrArg HeapBlock.address entry
      exact absurd address (Option.some_ne_none _).symm
  separate := by
    intro first second address atFirst
    exact absurd atFirst (Option.some_ne_none _).symm
  distinct := List.nodup_nil
  owned := fun block member => absurd member List.not_mem_nil
  sized := fun block member => absurd member List.not_mem_nil
  balanced := rfl

/-- An allocation at a place that holds no block. -/
theorem allocated (tracks : Tracks world live) {type : AllocType} {address : Nat} {size : Word}
    (fresh : world.allocated address = false)
    (vacant : (world.manager.blocks world.manager.heapIndex).address = none)
    (room : 8#64 <= size) :
    Tracks
      { manager := (world.manager.track ⟨type, some address, size⟩).countAllocation type size
        allocated := Function.update world.allocated address true }
      (⟨type, address, size⟩ :: live) := by
  have unowned : forall block, block ∈ live -> block.address ≠ address := by
    intro block member same
    have owned := tracks.owned block member
    rw [same, fresh] at owned
    exact absurd owned Bool.false_ne_true
  refine ⟨?_, ?_, ?_, ?_, ?_, ?_⟩
  · intro block
    refine Iff.trans ?_ (exists_update_iff world.manager.blocks world.manager.heapIndex
      ⟨type, some address, size⟩ block).symm
    rw [List.mem_cons]
    apply or_congr
    · constructor
      · rintro rfl
        rfl
      · intro entry
        cases block
        cases entry
        rfl
    · rw [tracks.listed block]
      constructor
      · rintro ⟨place, entry⟩
        refine ⟨place, ?_, entry⟩
        rintro rfl
        rw [entry] at vacant
        exact absurd vacant (Option.some_ne_none _)
      · rintro ⟨place, _, entry⟩
        exact ⟨place, entry⟩
  · apply separate_update tracks.separate
    intro place other _ stored same
    obtain ⟨block, member, _, atOther⟩ := tracks.exists_block stored
    exact unowned block member (atOther.trans (Option.some.inj same).symm)
  · rw [List.map_cons, List.nodup_cons]
    refine ⟨?_, tracks.distinct⟩
    intro member
    obtain ⟨block, inside, same⟩ := List.mem_map.mp member
    exact unowned block inside same
  · intro block member
    rcases List.mem_cons.mp member with rfl | inside
    · exact Function.update_self address true world.allocated
    · exact (Function.update_of_ne (unowned block inside) true world.allocated).trans
        (tracks.owned block inside)
  · intro block member
    rcases List.mem_cons.mp member with rfl | inside
    · exact room
    · exact tracks.sized block inside
  · have balanced := tracks.balanced
    unfold Balanced at balanced
    change world.manager.totalBytesAllocated + size - world.manager.totalBytesFreed =
      size + (live.map LiveBlock.size).sum
    rw [← balanced, add_comm world.manager.totalBytesAllocated size, add_sub_assoc]

/-- A release of a live block. -/
theorem freed (tracks : Tracks world live) {block : LiveBlock} (member : block ∈ live)
    {index : Fin maxHeapBlocks} (entry : world.manager.blocks index = block.entry) :
    Tracks
      { manager := (world.manager.countRelease block.type block.size).record index
          ⟨.free, none, 0#64⟩
        allocated := Function.update world.allocated block.address false }
      (live.filter fun other => other.payload != block.payload) := by
  have kept : forall other,
      other ∈ live.filter (fun other => other.payload != block.payload) <->
        other ∈ live ∧ other.payload ≠ block.payload := by
    intro other
    rw [List.mem_filter, bne_iff_ne]
  refine ⟨?_, ?_, ?_, ?_, ?_, ?_⟩
  · intro other
    refine Iff.trans ?_ (exists_update_iff world.manager.blocks index
      ⟨.free, none, 0#64⟩ other).symm
    rw [kept, tracks.others_iff entry other, or_iff_right]
    intro same
    exact absurd (congrArg HeapBlock.address same) (Option.some_ne_none _).symm
  · apply separate_update tracks.separate
    intro place other _ _ same
    exact absurd same (Option.some_ne_none _).symm
  · exact tracks.distinct.sublist (List.filter_sublist.map LiveBlock.address)
  · intro other stays
    obtain ⟨inside, differs⟩ := (kept other).mp stays
    have elsewhere : other.address ≠ block.address := by
      intro same
      exact differs ((LiveBlock.payload_eq_iff other block).mpr same)
    exact (Function.update_of_ne elsewhere false world.allocated).trans
      (tracks.owned other inside)
  · intro other stays
    exact tracks.sized other ((kept other).mp stays).1
  · have balanced := tracks.balanced
    unfold Balanced at balanced
    rw [sum_sizes_of_mem tracks.distinct member] at balanced
    change world.manager.totalBytesAllocated - (world.manager.totalBytesFreed + block.size) =
      ((live.filter fun other => other.payload != block.payload).map LiveBlock.size).sum
    rw [← sub_sub, balanced, add_sub_cancel_left]

/-- A block that moves without a change of its size. -/
theorem moved (tracks : Tracks world live) {block : LiveBlock} (member : block ∈ live)
    {index : Fin maxHeapBlocks} (entry : world.manager.blocks index = block.entry)
    {address : Nat} (fresh : world.allocated address = false ∨ address = block.address) :
    Tracks
      { manager := world.manager.record index ⟨block.type, some address, block.size⟩
        allocated := Function.update (Function.update world.allocated block.address false)
          address true }
      (live.map fun other =>
        if other.payload = block.payload then ⟨other.type, address, block.size⟩ else other) := by
  have unowned : forall other, other ∈ live -> other.payload ≠ block.payload ->
      other.address ≠ address := by
    intro other inside differs same
    rcases fresh with free | here
    · have owned := tracks.owned other inside
      rw [same, free] at owned
      exact absurd owned Bool.false_ne_true
    · exact differs ((LiveBlock.payload_eq_iff other block).mpr (same.trans here))
  have alone : forall other, other ∈ live -> other.payload = block.payload -> other = block :=
    fun other inside equal => tracks.eq_of_address inside member
      ((LiveBlock.payload_eq_iff other block).mp equal)
  have kept : forall other,
      (other ∈ live.map fun other => if other.payload = block.payload then
          (⟨other.type, address, block.size⟩ : LiveBlock) else other) <->
        other = ⟨block.type, address, block.size⟩ ∨
          other ∈ live ∧ other.payload ≠ block.payload := by
    intro other
    rw [List.mem_map]
    constructor
    · rintro ⟨source, inside, rfl⟩
      by_cases equal : source.payload = block.payload
      · rw [if_pos equal, alone source inside equal]
        exact Or.inl rfl
      · rw [if_neg equal]
        exact Or.inr ⟨inside, equal⟩
    · rintro (rfl | ⟨inside, differs⟩)
      · exact ⟨block, member, if_pos rfl⟩
      · exact ⟨other, inside, if_neg differs⟩
  refine ⟨?_, ?_, ?_, ?_, ?_, ?_⟩
  · intro other
    refine Iff.trans ?_ (exists_update_iff world.manager.blocks index
      ⟨block.type, some address, block.size⟩ other).symm
    rw [kept, tracks.others_iff entry other]
    apply or_congr_left
    constructor
    · rintro rfl
      rfl
    · intro same
      cases other
      cases same
      rfl
  · apply separate_update tracks.separate
    intro place other differs stored same
    obtain ⟨found, inside, foundEntry, atOther⟩ := tracks.exists_block stored
    have elsewhere := (tracks.others_iff entry found).mp ⟨place, differs, foundEntry⟩
    exact unowned found inside elsewhere.2 (atOther.trans (Option.some.inj same).symm)
  · rw [List.map_map]
    apply List.Nodup.map_on _ (List.Nodup.of_map LiveBlock.address tracks.distinct)
    intro first inFirst second inSecond same
    by_cases firstHere : first.payload = block.payload
    · by_cases secondHere : second.payload = block.payload
      · rw [alone first inFirst firstHere, alone second inSecond secondHere]
      · simp only [Function.comp_apply, if_pos firstHere, if_neg secondHere] at same
        exact absurd same.symm (unowned second inSecond secondHere)
    · by_cases secondHere : second.payload = block.payload
      · simp only [Function.comp_apply, if_neg firstHere, if_pos secondHere] at same
        exact absurd same (unowned first inFirst firstHere)
      · simp only [Function.comp_apply, if_neg firstHere, if_neg secondHere] at same
        exact tracks.eq_of_address inFirst inSecond same
  · intro other stays
    rcases (kept other).mp stays with rfl | ⟨inside, differs⟩
    · apply Function.update_self
    · have elsewhere : other.address ≠ block.address := by
        intro same
        exact differs ((LiveBlock.payload_eq_iff other block).mpr same)
      exact (Function.update_of_ne (unowned other inside differs) true _).trans
        ((Function.update_of_ne elsewhere false world.allocated).trans
          (tracks.owned other inside))
  · intro other stays
    rcases (kept other).mp stays with rfl | ⟨inside, _⟩
    · exact tracks.sized block member
    · exact tracks.sized other inside
  · have sizes : (live.map fun other => if other.payload = block.payload then
        (⟨other.type, address, block.size⟩ : LiveBlock) else other).map LiveBlock.size =
          live.map LiveBlock.size := by
      rw [List.map_map]
      apply List.map_congr_left
      intro other inside
      by_cases equal : other.payload = block.payload
      · rw [Function.comp_apply, if_pos equal, alone other inside equal]
      · rw [Function.comp_apply, if_neg equal]
    unfold Balanced
    rw [sizes]
    exact tracks.balanced

end Tracks

/-! ## One call -/

/-- `allocVec` and `allocString`. -/
theorem allocate_accounted {world : World} {live : List LiveBlock} (tracks : Tracks world live)
    (type : AllocType) (size : Word) (outcome : Option Nat)
    (library : forall address, outcome = some address -> world.allocated address = false)
    (keeps : outcome ≠ none ->
      (world.manager.blocks world.manager.heapIndex).address = none ∧ 8#64 <= size) :
    exists result, world.allocate type size outcome = some result ∧ result.released = [] ∧
      ((outcome = none ∧ result.returned = none ∧ Tracks result.world live) ∨
        exists address, result.returned = some (address + 8) ∧
          Tracks result.world (⟨type, address, size⟩ :: live)) := by
  cases outcome with
  | none => exact ⟨_, rfl, rfl, Or.inl ⟨rfl, rfl, tracks⟩⟩
  | some address =>
      obtain ⟨vacant, room⟩ := keeps (Option.some_ne_none address)
      unfold World.allocate
      simp only [if_neg (BitVec.not_lt.mpr room)]
      exact ⟨_, rfl, rfl, Or.inr ⟨address, rfl,
        tracks.allocated (library address rfl) vacant room⟩⟩

/-- `HeapManager::free`. -/
theorem free_accounted {world : World} {live : List LiveBlock} (tracks : Tracks world live)
    (payload : Nat) :
    exists result, world.free payload = some result ∧
      Accounted world live (.free payload) result := by
  by_cases alive : exists block, block ∈ live ∧ block.payload = payload
  · obtain ⟨block, member, rfl⟩ := alive
    obtain ⟨index, found, entry⟩ := tracks.find_of_mem member
    have pointer : ¬ block.payload = 0 := Nat.succ_ne_zero _
    unfold World.free
    simp only [if_neg pointer, found, entry, LiveBlock.entry, tracks.owned block member, if_true]
    refine ⟨_, rfl, ?_, ?_, tracks.freed member entry⟩
    · exact (filter_payload tracks.distinct member).symm
    · intro rejected
      exact absurd rfl (rejected block member)
  · have absent : forall block, block ∈ live -> block.payload ≠ payload :=
      fun block member equal => alive ⟨block, member, equal⟩
    have unchanged : world.free payload = some ⟨world, none, []⟩ := by
      unfold World.free
      rw [tracks.find_of_absent absent]
      exact ite_self _
    refine ⟨_, unchanged, ?_, fun _ => ⟨rfl, rfl⟩, ?_⟩
    · change [] = (live.filter fun block => block.payload = payload).map LiveBlock.address
      rw [filter_payload_of_absent absent, List.map_nil]
    · change Tracks world (live.filter fun block => block.payload != payload)
      rw [filter_others_of_absent absent]
      exact tracks

/-- `resizeVec`. -/
theorem resizeVec_accounted {world : World} {live : List LiveBlock} (tracks : Tracks world live)
    (payload : Nat) (newNumElements : Word) (outcome : Reallocation)
    (library : LibraryKeeps world (.resizeVec payload newNumElements outcome))
    (keeps : KeepsAccount world live (.resizeVec payload newNumElements outcome)) :
    exists result, world.resizeVec payload newNumElements outcome = some result ∧
      Accounted world live (.resizeVec payload newNumElements outcome) result := by
  by_cases alive : exists block, block ∈ live ∧ block.payload = payload
  · obtain ⟨block, member, rfl⟩ := alive
    obtain ⟨index, found, entry⟩ := tracks.find_of_mem member
    have pointer : ¬ block.payload = 0 := Nat.succ_ne_zero _
    have notRejected : forall result : Result,
        IsRejected live (.resizeVec block.payload newNumElements outcome) ->
          result.world = world ∧ result.returned = none :=
      fun result rejected => absurd rfl (rejected block member)
    unfold World.resizeVec
    simp only [if_neg pointer, found, entry, LiveBlock.entry]
    by_cases vector : block.type = .vec
    · rw [if_neg (not_not_intro vector)]
      have room := tracks.sized block member
      cases outcome with
      | failed => exact ⟨_, rfl, rfl, notRejected _, tracks⟩
      | moved address =>
          have size := keeps block member rfl vector Reallocation.noConfusion
          have fresh : world.allocated address = false ∨ address = block.address := by
            rcases (library.1 address rfl).2 with free | here
            · exact Or.inl free
            · exact Or.inr (Nat.add_right_cancel here)
          rw [size]
          simp only [if_neg (BitVec.not_lt.mpr room)]
          refine ⟨_, rfl, rfl, notRejected _, ?_⟩
          simp only [liveAfter, Nat.add_sub_cancel, size]
          exact tracks.moved member entry fresh
      | released =>
          have size := keeps block member rfl vector Reallocation.noConfusion
          rw [← size, library.2 rfl] at room
          exact absurd room (by decide)
    · rw [if_pos vector]
      exact ⟨_, rfl, rfl, notRejected _, tracks⟩
  · have absent : forall block, block ∈ live -> block.payload ≠ payload :=
      fun block member equal => alive ⟨block, member, equal⟩
    have unchanged : world.resizeVec payload newNumElements outcome =
        some ⟨world, none, []⟩ := by
      unfold World.resizeVec
      rw [tracks.find_of_absent absent]
      exact ite_self _
    exact ⟨_, unchanged, rfl, fun _ => ⟨rfl, rfl⟩, tracks⟩

/-- Each call releases what it is to release and keeps the table in step. -/
theorem call_accounted {world : World} {live : List LiveBlock} (tracks : Tracks world live)
    (call : Call) (library : LibraryKeeps world call) (keeps : KeepsAccount world live call) :
    exists result, world.call call = some result ∧ Accounted world live call result := by
  cases call with
  | allocVec numElements outcome =>
      obtain ⟨result, runs, released, outcomes⟩ := allocate_accounted tracks .vec
        (vecSize numElements) outcome (fun address same => (library address same).2) keeps
      refine ⟨result, runs, released, fun rejected => rejected.elim, ?_⟩
      rcases outcomes with ⟨_, returned, kept⟩ | ⟨address, returned, grown⟩
      · rw [returned]
        exact kept
      · rw [returned]
        exact grown
  | allocString numChars outcome =>
      obtain ⟨result, runs, released, outcomes⟩ := allocate_accounted tracks .string
        (stringSize numChars) outcome (fun address same => (library address same).2) keeps
      refine ⟨result, runs, released, fun rejected => rejected.elim, ?_⟩
      rcases outcomes with ⟨_, returned, kept⟩ | ⟨address, returned, grown⟩
      · rw [returned]
        exact kept
      · rw [returned]
        exact grown
  | resizeVec payload newNumElements outcome =>
      exact resizeVec_accounted tracks payload newNumElements outcome library keeps
  | free payload => exact free_accounted tracks payload

/-! ## A run -/

/-- A run accounts for its blocks from each state that tracks them. -/
theorem Tracks.accounts {world : World} {live : List LiveBlock} (tracks : Tracks world live)
    (calls : List Call) : Accounts KeepsAccount world live calls := by
  induction calls generalizing world live with
  | nil => exact tracks.balanced
  | cons call rest hypothesis =>
      refine ⟨tracks.balanced, ?_⟩
      intro library keeps
      obtain ⟨result, runs, accounted⟩ := call_accounted tracks call library keeps
      exact ⟨result, runs, accounted.released, accounted.rejected,
        hypothesis accounted.tracks⟩

/-- The blocks are accounted for in each run in which no allocation meets the entry of a live
block and no resize changes a size. -/
theorem heapRun_accounts (calls : List Call) : Accounts KeepsAccount World.start [] calls :=
  Tracks.start.accounts calls

/-- The bytes that a resize adds are counted nowhere: a vector of one element, made longer. -/
theorem resizedVector_unbalanced :
    ¬ forall calls, Accounts (fun _ _ _ => True) World.start [] calls := by
  intro accounts
  obtain ⟨_, first⟩ := accounts [.allocVec 1#64 (some 16), .resizeVec 24 2#64 (.moved 16)]
  obtain ⟨made, runs, _, _, _, second⟩ := first (by
    intro address same
    cases same
    exact ⟨by decide, rfl⟩) trivial
  have called : World.call World.start (.allocVec 1#64 (some 16)) = some
      { world :=
          { manager := (World.start.manager.track ⟨.vec, some 16, 16#64⟩).countAllocation .vec 16#64
            allocated := Function.update World.start.allocated 16 true }
        returned := some 24
        released := [] } := rfl
  cases called.symm.trans runs
  obtain ⟨resized, runsAgain, _, _, unbalanced⟩ := second ⟨by
    intro address same
    cases same
    exact ⟨by decide, Or.inr rfl⟩, fun same => Reallocation.noConfusion same⟩ trivial
  cases runsAgain
  have bytes : (16#64 : Word) = 24#64 := unbalanced
  exact absurd bytes (by decide)

end HeapTracking
end NewBcpl
