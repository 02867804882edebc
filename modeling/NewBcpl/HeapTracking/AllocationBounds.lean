import NewBcpl.Foundations.Layout
import NewBcpl.HeapTracking.HeapManager
import NewBcpl.Runtime.PackedStrings

namespace NewBcpl
namespace HeapTracking

open Foundations
open Foundations.Layout
open NewBcpl.Runtime (Build)

/-!
# The sizes of blocks

A block holds a length word, its elements and, for a string, a zero behind them. The
allocation functions take a signed count and compute the size of the block with unsigned
words. Each call comes with the outcome of the call to the allocator of the system; the
writes of a call are regions of its block, which starts at zero.
-/

/-- What a block is allocated for. -/
inductive Contents where
  | words | chars
  deriving DecidableEq, Repr

namespace Contents

/-- The bytes of an element. -/
def elementBytes : Contents -> Int
  | words => 8
  | chars => 4

/-- The bytes behind the elements. -/
def terminatorBytes : Contents -> Int
  | words => 0
  | chars => 4

/-- The size of a block with so many elements, as a number. -/
def exactSize (contents : Contents) (count : Int) : Int :=
  8 + contents.elementBytes * count + contents.terminatorBytes

/-- The size that is computed. -/
def totalSize : Contents -> Word -> Word
  | words => vecSize
  | chars => stringSize

/-- An element in its block. -/
def element (contents : Contents) (index : Int) : Region :=
  { start := 8 + contents.elementBytes * index, size := contents.elementBytes }

end Contents

/-- The length word. -/
def header : Region := { start := 0, size := 8 }

/-- The zero behind the characters: the element whose index is the count. -/
def terminator (count : Int) : Region := Contents.chars.element count

section Functions

/-! ## The functions -/

/-- What a call leaves: the state, the pointer that it returns, the size that it has got a
block of, and its writes into the block. -/
structure Allocation where
  world : World
  returned : Option Nat
  obtained : Option Word
  writes : List Region

/-- A call that returns null. -/
def Allocation.null (world : World) : Allocation :=
  { world := world, returned := none, obtained := none, writes := [] }

/-- The state with a new block in the table. -/
def World.tracked (world : World) (type : AllocType) (size : Word) (address : Nat) : World :=
  { manager := (world.manager.track ⟨type, some address, size⟩).countAllocation type size
    allocated := Function.update world.allocated address true }

/-- The state with a new block that no table has. -/
def World.untracked (world : World) (address : Nat) : World :=
  { world with allocated := Function.update world.allocated address true }

/-- A call that has asked the system for a block. -/
def receive (world : World) (size : Word) (writes : List Region) (keep : Nat -> World) :
    Option Nat -> Allocation
  | none => Allocation.null world
  | some address =>
      { world := keep address
        returned := some (address + 8)
        obtained := some size
        writes := writes }

/-- `HeapManager::allocVec`, with its write. -/
def heapAllocVec (world : World) (numElements : Word) (outcome : Option Nat) : Allocation :=
  let totalSize := vecSize numElements
  receive world totalSize [header] (world.tracked .vec totalSize) outcome

/-- `HeapManager::allocString`, with its writes; the count is a `size_t`. -/
def heapAllocString (world : World) (numChars : Word) (outcome : Option Nat) : Allocation :=
  let totalSize := stringSize numChars
  receive world totalSize [header, terminator numChars.toNat] (world.tracked .string totalSize)
    outcome

/-- `num_chars + 1` as a signed number, if it is one. -/
def signedSuccessor (numChars : Word) : Option Word :=
  if numChars.toInt + 1 < 2 ^ 63 then some (numChars + 1#64) else none

/-- `bcpl_alloc_words`. -/
def bcplAllocWords (build : Build) (world : World) (numWords : Word) (outcome : Option Nat) :
    Option Allocation :=
  match build with
  | .heapInterfaceJit | .heapBridge =>
      if numWords.toInt ≤ 0 then some (Allocation.null world)
      else some (heapAllocVec world numWords outcome)
  | .standaloneRuntime =>
      if numWords.toInt ≤ 0 then some (Allocation.null world)
      else
        let totalSize := 8#64 + numWords * 8#64
        some (receive world totalSize [header] world.untracked outcome)
  | .heapInterfaceStandalone =>
      let totalSize := 8#64 + numWords * 8#64
      some (receive world totalSize [header] world.untracked outcome)

/-- `bcpl_alloc_chars`; there is no result where the signed addition overflows. -/
def bcplAllocChars (build : Build) (world : World) (numChars : Word) (outcome : Option Nat) :
    Option Allocation :=
  match build with
  | .heapInterfaceJit | .heapBridge =>
      if numChars.toInt < 0 then some (Allocation.null world)
      else some (heapAllocString world numChars outcome)
  | .standaloneRuntime =>
      if numChars.toInt < 0 then some (Allocation.null world)
      else do
        let withTerminator <- signedSuccessor numChars
        let totalSize := 8#64 + withTerminator * 4#64
        -- the characters are cleared behind the write of the terminator
        let cleared : Region := { start := 8, size := (numChars * 4#64).toNat }
        some (receive world totalSize [header, terminator numChars.toInt, cleared]
          world.untracked outcome)
  | .heapInterfaceStandalone => do
      let withTerminator <- signedSuccessor numChars
      let totalSize := 8#64 + withTerminator * 4#64
      some (receive world totalSize [header, terminator numChars.toInt] world.untracked outcome)

/-- The function for the contents. -/
def bcplAlloc (build : Build) : Contents -> World -> Word -> Option Nat -> Option Allocation
  | .words => bcplAllocWords build
  | .chars => bcplAllocChars build

/-- The manager of the heap is the one of the other modules as long as the length word lies
in the block. -/
theorem heapAllocVec_refines (world : World) (numElements : Word) (outcome : Option Nat)
    (room : 8#64 <= vecSize numElements) :
    world.allocVec numElements outcome =
      some ⟨(heapAllocVec world numElements outcome).world,
        (heapAllocVec world numElements outcome).returned, []⟩ := by
  cases outcome with
  | none => rfl
  | some address => exact if_neg (BitVec.not_lt.mpr room)

theorem heapAllocString_refines (world : World) (numChars : Word) (outcome : Option Nat)
    (room : 8#64 <= stringSize numChars) :
    world.allocString numChars outcome =
      some ⟨(heapAllocString world numChars outcome).world,
        (heapAllocString world numChars outcome).returned, []⟩ := by
  cases outcome with
  | none => rfl
  | some address => exact if_neg (BitVec.not_lt.mpr room)

end Functions

section Property

/-! ## The property and its condition -/

/-- The call returns null and records nothing. -/
def Allocation.IsNull (allocation : Allocation) (world : World) : Prop :=
  allocation.returned = none ∧ allocation.world = world

/-- The block is one for the count: its size has not wrapped around, and all writes and all
elements below the count lie in it. -/
structure Allocation.Holds (allocation : Allocation) (contents : Contents) (count : Int)
    (size : Word) : Prop where
  obtained : allocation.obtained = some size
  exact_ : (size.toNat : Int) = contents.exactSize count
  writes : forall region, region ∈ allocation.writes -> region.Within 0 size.toNat
  wroteHeader : header ∈ allocation.writes
  wroteTerminator : contents = .chars -> terminator count ∈ allocation.writes
  elements : forall index, 0 ≤ index -> index < count ->
    (contents.element index).Within 0 size.toNat

/-- A call does what it is to do. -/
def Meets (build : Build) (contents : Contents) (world : World) (count : Word)
    (outcome : Option Nat) : Prop :=
  exists allocation, bcplAlloc build contents world count outcome = some allocation ∧
    (allocation.IsNull world ∨ exists size, allocation.Holds contents count.toInt size)

/-- The counts that a build refuses. -/
def Refuses : Build -> Contents -> Int -> Prop
  | .heapInterfaceStandalone, _, _ => False
  | _, .words, count => count ≤ 0
  | _, .chars, count => count < 0

/-- The counts for which the size is computed without an overflow of the signed addition. -/
def IsComputed : Build -> Contents -> Int -> Prop
  | .standaloneRuntime, .chars, count | .heapInterfaceStandalone, .chars, count =>
      count ≠ 2 ^ 63 - 1
  | _, _, _ => True

/-- The counts whose size is a word that has room for the length word. -/
def InRange : Contents -> Int -> Prop
  | .words, count => 0 ≤ count ∧ count ≤ 2 ^ 61 - 2
  | .chars, count => -1 ≤ count ∧ count ≤ 2 ^ 62 - 4

/-- The count is refused, or the size is computed and the system has no memory or the count
is in range. -/
def Allowed (build : Build) (contents : Contents) (count : Int) (outcome : Option Nat) : Prop :=
  Refuses build contents count ∨
    (IsComputed build contents count ∧ (outcome = none ∨ InRange contents count))

end Property

section Sizes

/-! ## The computed size -/

/-- The computed size is the exact one without its multiples of 2^64. -/
theorem totalSize_toNat (contents : Contents) (count : Word) :
    ((contents.totalSize count).toNat : Int) = contents.exactSize count.toInt % 2 ^ 64 := by
  have signed := BitVec.toInt_eq_toNat_cond count
  have bounded := count.isLt
  cases contents with
  | words =>
      simp only [Contents.totalSize, vecSize, Contents.exactSize, Contents.elementBytes,
        Contents.terminatorBytes, BitVec.toNat_add, BitVec.toNat_mul, BitVec.toNat_ofNat]
      split at signed <;> omega
  | chars =>
      simp only [Contents.totalSize, stringSize, Contents.exactSize, Contents.elementBytes,
        Contents.terminatorBytes, BitVec.toNat_add, BitVec.toNat_mul, BitVec.toNat_ofNat]
      split at signed <;> omega

/-- A size that has not wrapped around and has room for the length word is one of a count
in range. -/
theorem exactSize_iff (contents : Contents) (count : Word) :
    ((contents.totalSize count).toNat : Int) = contents.exactSize count.toInt ∧
        8 ≤ contents.exactSize count.toInt <->
      InRange contents count.toInt := by
  rw [totalSize_toNat]
  cases contents with
  | words =>
      simp only [Contents.exactSize, Contents.elementBytes, Contents.terminatorBytes, InRange]
      omega
  | chars =>
      simp only [Contents.exactSize, Contents.elementBytes, Contents.terminatorBytes, InRange]
      omega

/-- The elements below the count lie in a block of the exact size. -/
theorem element_within {contents : Contents} {count index : Int} (above : 0 ≤ index)
    (below : index < count) :
    (contents.element index).Within 0 (contents.exactSize count) := by
  cases contents with
  | words =>
      simp only [Region.Within, Region.stop, Contents.element, Contents.exactSize,
        Contents.elementBytes, Contents.terminatorBytes]
      omega
  | chars =>
      simp only [Region.Within, Region.stop, Contents.element, Contents.exactSize,
        Contents.elementBytes, Contents.terminatorBytes]
      omega

/-- The terminator lies in a block of the exact size, behind the length word or in it. -/
theorem terminator_within {count : Int} (above : -1 ≤ count) :
    (terminator count).Within 0 (Contents.chars.exactSize count) := by
  simp only [Region.Within, Region.stop, terminator, Contents.element, Contents.exactSize,
    Contents.elementBytes, Contents.terminatorBytes]
  omega

end Sizes

section Calls

/-! ## The calls -/

variable {build : Build} {contents : Contents} {world : World} {count : Word}
  {outcome : Option Nat}

/-- The writes of a call: the length word, the terminator of a string, and perhaps the
characters. -/
structure WritesOf (contents : Contents) (count : Int) (writes : List Region) : Prop where
  wroteHeader : header ∈ writes
  wroteTerminator : contents = .chars -> terminator count ∈ writes
  known : forall region, region ∈ writes -> region = header ∨
    (contents = .chars ∧ region = terminator count) ∨
      (contents = .chars ∧ 0 ≤ count ∧
        region = { start := 8, size := 4 * count % 2 ^ 64 })

theorem writesOf_words (count : Int) : WritesOf .words count [header] where
  wroteHeader := List.mem_cons_self
  wroteTerminator isChars := Contents.noConfusion isChars
  known _ member := Or.inl (List.mem_singleton.mp member)

theorem writesOf_chars (count : Int) : WritesOf .chars count [header, terminator count] where
  wroteHeader := List.mem_cons_self
  wroteTerminator _ := List.mem_cons_of_mem _ List.mem_cons_self
  known region member := by
    rcases List.mem_cons.mp member with isHeader | isRest
    · exact Or.inl isHeader
    · exact Or.inr (Or.inl ⟨rfl, List.mem_singleton.mp isRest⟩)

/-- With the characters cleared, the writes are those of a string as well. -/
theorem WritesOf.cleared {count : Int} {writes : List Region} (ofCount : WritesOf .chars count writes)
    (above : 0 ≤ count) :
    WritesOf .chars count (writes ++ [{ start := 8, size := 4 * count % 2 ^ 64 }]) where
  wroteHeader := List.mem_append_left _ ofCount.wroteHeader
  wroteTerminator isChars := List.mem_append_left _ (ofCount.wroteTerminator isChars)
  known region member := by
    rcases List.mem_append.mp member with isOld | isNew
    · exact ofCount.known region isOld
    · exact Or.inr (Or.inr ⟨rfl, above, List.mem_singleton.mp isNew⟩)

theorem signedSuccessor_some (notLargest : count.toInt ≠ 2 ^ 63 - 1) :
    signedSuccessor count = some (count + 1#64) := by
  have bounded := BitVec.toInt_lt (x := count)
  exact if_pos (by omega)

theorem signedSuccessor_none (largest : count.toInt = 2 ^ 63 - 1) :
    signedSuccessor count = none := by
  exact if_neg (by omega)

/-- A count that is not negative is the number that its word spells. -/
theorem toInt_of_nonneg (above : 0 ≤ count.toInt) : (count.toNat : Int) = count.toInt := by
  have signed := BitVec.toInt_eq_toNat_cond count
  have bounded := count.isLt
  split at signed <;> omega

/-- The cleared characters. -/
theorem clearedSize (above : 0 ≤ count.toInt) :
    ((count * 4#64).toNat : Int) = 4 * count.toInt % 2 ^ 64 := by
  rw [<- toInt_of_nonneg above, BitVec.toNat_mul, BitVec.toNat_ofNat]
  omega

/-- A call refuses the count, or it has no meaning, or it asks the system for the computed
size and writes into the block that it gets. -/
inductive Does (build : Build) (contents : Contents) (world : World) (count : Word)
    (outcome : Option Nat) : Option Allocation -> Prop
  | refuses (refused : Refuses build contents count.toInt) :
      Does build contents world count outcome (some (Allocation.null world))
  | overflows (notRefused : ¬ Refuses build contents count.toInt)
      (notComputed : ¬ IsComputed build contents count.toInt) :
      Does build contents world count outcome none
  | asks (notRefused : ¬ Refuses build contents count.toInt)
      (computed : IsComputed build contents count.toInt) {writes : List Region}
      (ofCount : WritesOf contents count.toInt writes) (keep : Nat -> World) :
      Does build contents world count outcome
        (some (receive world (contents.totalSize count) writes keep outcome))

/-- The managed and the checked allocation of words. -/
theorem words_does (refusal : Refuses build .words count.toInt <-> count.toInt ≤ 0)
    (computed : IsComputed build .words count.toInt) (keep : Nat -> World) :
    Does build .words world count outcome
      (if count.toInt ≤ 0 then some (Allocation.null world)
      else some (receive world (vecSize count) [header] keep outcome)) := by
  by_cases refused : count.toInt ≤ 0
  · rw [if_pos refused]
    exact Does.refuses (refusal.mpr refused)
  · rw [if_neg refused]
    exact Does.asks (fun refuses => refused (refusal.mp refuses)) computed
      (writesOf_words count.toInt) keep

/-- The managed allocation of characters. -/
theorem chars_does (refusal : Refuses build .chars count.toInt <-> count.toInt < 0)
    (computed : IsComputed build .chars count.toInt) :
    Does build .chars world count outcome
      (if count.toInt < 0 then some (Allocation.null world)
      else some (heapAllocString world count outcome)) := by
  by_cases refused : count.toInt < 0
  · rw [if_pos refused]
    exact Does.refuses (refusal.mpr refused)
  · rw [if_neg refused]
    have same := toInt_of_nonneg (Int.not_lt.mp refused)
    unfold heapAllocString
    rw [same]
    exact Does.asks (fun refuses => refused (refusal.mp refuses)) computed
      (writesOf_chars count.toInt) (world.tracked .string (stringSize count))

/-- What a call does. -/
theorem bcplAlloc_does (build : Build) (contents : Contents) (world : World) (count : Word)
    (outcome : Option Nat) :
    Does build contents world count outcome
      (bcplAlloc build contents world count outcome) := by
  cases contents with
  | words =>
      cases build with
      | heapInterfaceJit => exact @words_does .heapInterfaceJit _ _ _ Iff.rfl trivial _
      | heapBridge => exact @words_does .heapBridge _ _ _ Iff.rfl trivial _
      | standaloneRuntime => exact @words_does .standaloneRuntime _ _ _ Iff.rfl trivial _
      | heapInterfaceStandalone =>
          have notRefused : ¬ Refuses .heapInterfaceStandalone .words count.toInt := not_false
          exact Does.asks notRefused trivial (writesOf_words count.toInt) world.untracked
  | chars =>
      cases build with
      | heapInterfaceJit => exact @chars_does .heapInterfaceJit _ _ _ Iff.rfl trivial
      | heapBridge => exact @chars_does .heapBridge _ _ _ Iff.rfl trivial
      | standaloneRuntime =>
          dsimp only [bcplAlloc, bcplAllocChars]
          by_cases refused : count.toInt < 0
          · rw [if_pos refused]
            exact Does.refuses refused
          have notRefused : ¬ Refuses .standaloneRuntime .chars count.toInt := refused
          rw [if_neg refused]
          by_cases largest : count.toInt = 2 ^ 63 - 1
          · rw [signedSuccessor_none largest]
            exact Does.overflows notRefused (not_not_intro largest)
          · rw [signedSuccessor_some largest, clearedSize (Int.not_lt.mp refused)]
            exact Does.asks notRefused largest
              ((writesOf_chars count.toInt).cleared (Int.not_lt.mp refused)) world.untracked
      | heapInterfaceStandalone =>
          have notRefused : ¬ Refuses .heapInterfaceStandalone .chars count.toInt := not_false
          dsimp only [bcplAlloc, bcplAllocChars]
          by_cases largest : count.toInt = 2 ^ 63 - 1
          · rw [signedSuccessor_none largest]
            exact Does.overflows notRefused (not_not_intro largest)
          · rw [signedSuccessor_some largest]
            exact Does.asks notRefused largest (writesOf_chars count.toInt) world.untracked

/-- The writes lie in a block of the exact size if and only if there is room for the length
word, for counts in range. -/
theorem WritesOf.within {writes : List Region} (ofCount : WritesOf contents count.toInt writes)
    (inRange : InRange contents count.toInt) :
    forall region, region ∈ writes -> region.Within 0 (contents.exactSize count.toInt) := by
  have room := ((exactSize_iff contents count).mpr inRange).2
  intro region member
  rcases ofCount.known region member with isHeader | ⟨isChars, isTerminator⟩ |
    ⟨isChars, above, isCleared⟩
  · rw [isHeader]
    exact ⟨Int.le_refl 0, room⟩
  · subst isChars
    rw [isTerminator]
    exact terminator_within inRange.1
  · subst isChars
    rw [isCleared]
    have bounded := inRange.2
    simp only [Region.Within, Region.stop, Contents.exactSize, Contents.elementBytes,
      Contents.terminatorBytes]
    omega

/-- A block of the computed size is one for the count if and only if the count is in
range. -/
theorem holds_iff {writes : List Region} (ofCount : WritesOf contents count.toInt writes)
    (keep : Nat -> World) (address : Nat) :
    (exists size, (receive world (contents.totalSize count) writes keep (some address)).Holds
      contents count.toInt size) <-> InRange contents count.toInt := by
  rw [<- exactSize_iff]
  constructor
  · rintro ⟨size, holds⟩
    injection holds.obtained with same
    rw [same]
    refine ⟨holds.exact_, ?_⟩
    rw [<- holds.exact_]
    exact (holds.writes header holds.wroteHeader).2
  · intro fits
    have within := ofCount.within ((exactSize_iff contents count).mp fits)
    refine ⟨contents.totalSize count, rfl, fits.1, ?_, ofCount.wroteHeader,
      ofCount.wroteTerminator, ?_⟩
    · rw [fits.1]
      exact within
    · rw [fits.1]
      exact fun _ above below => element_within above below

/-- Each call does what it is to do if and only if it is allowed. -/
theorem meets_iff : Meets build contents world count outcome <->
    Allowed build contents count.toInt outcome := by
  have does := bcplAlloc_does build contents world count outcome
  unfold Meets Allowed
  generalize bcplAlloc build contents world count outcome = called at does
  cases does with
  | refuses refused =>
      exact iff_of_true ⟨_, rfl, Or.inl ⟨rfl, rfl⟩⟩ (Or.inl refused)
  | overflows notRefused notComputed =>
      apply iff_of_false
      · rintro ⟨_, same, _⟩
        cases same
      · rintro (refused | ⟨computed, _⟩)
        · exact notRefused refused
        · exact notComputed computed
  | asks notRefused computed ofCount keep =>
      rw [or_iff_right notRefused, and_iff_right computed]
      cases outcome with
      | none => exact iff_of_true ⟨_, rfl, Or.inl ⟨rfl, rfl⟩⟩ (Or.inl rfl)
      | some address =>
          rw [or_iff_right (Option.some_ne_none address), <- holds_iff ofCount keep address]
          constructor
          · rintro ⟨allocation, same, isNull | holds⟩
            · injection same with same
              rw [<- same] at isNull
              exact absurd isNull.1 (Option.some_ne_none _)
            · injection same with same
              rw [same]
              exact holds
          · exact fun holds => ⟨_, rfl, Or.inr holds⟩

end Calls

section Results

/-! ## All counts -/

/-- For every count, either null is returned and nothing recorded, or the block holds the
length word, the elements and the terminator, if and only if the count is refused, or its
size is computed and the system has no memory or the count is in range. -/
theorem allocation_meets_iff (build : Build) (contents : Contents) (world : World)
    (count : Word) (outcome : Option Nat) :
    Meets build contents world count outcome <-> Allowed build contents count.toInt outcome :=
  meets_iff

/-- The managed heap gives a block of eight bytes for 2^61 words, and the standalone one a
block without bytes for a count of -1. -/
theorem hugeVector_overruns :
    ¬ Meets .heapInterfaceJit .words World.start (BitVec.ofNat 64 (2 ^ 61)) (some 16) ∧
      ¬ Meets .heapInterfaceStandalone .words World.start (BitVec.ofInt 64 (-1)) (some 16) := by
  constructor
  · rw [meets_iff]
    rintro (refused | ⟨_, noMemory | inRange⟩)
    · have positive : ¬ (BitVec.ofNat 64 (2 ^ 61)).toInt ≤ 0 := by decide
      exact positive refused
    · cases noMemory
    · exact absurd inRange.2 (by decide)
  · rw [meets_iff]
    rintro (refused | ⟨_, noMemory | inRange⟩)
    · exact refused
    · cases noMemory
    · exact absurd inRange.1 (by decide)

end Results

end HeapTracking
end NewBcpl
