import NewBcpl.Codegen.BitfieldAccess

namespace NewBcpl
namespace Codegen

open Encoding
open Arm64 (Machine Register)
open Foundations Foundations.BitFields

/-!
# Where bit fields are accessed right

The runs of the four accesses. With constant operands the two instructions do what is meant.
With variable operands a read loses the whole word, for which the mask is zero, and an
assignment keeps 32 bits of the variable and changes the register of the value.
-/

namespace AccessSite

variable (site : AccessSite)

/-- The registers that are in use when others are acquired. -/
def used : List (Fin 31) := [site.word, site.start, site.width, site.value] ++ site.homes

/-- An acquired register is none of them. -/
theorem used_ne {site : AccessSite} {register : Fin 31} (inUse : register ∈ site.used) :
    register ≠ site.first ∧ register ≠ site.second ∧ register ≠ site.third := by
  refine ⟨?_, ?_, ?_⟩
  · rintro rfl
    exact site.fresh _ (by simp) inUse
  · rintro rfl
    exact site.fresh _ (by simp) inUse
  · rintro rfl
    exact site.fresh _ (by simp) inUse

theorem word_used : site.word ∈ site.used := by simp [used]
theorem start_used : site.start ∈ site.used := by simp [used]
theorem width_used : site.width ∈ site.used := by simp [used]
theorem value_used : site.value ∈ site.used := by simp [used]

theorem home_used {site : AccessSite} {register : Fin 31} (home : register ∈ site.homes) :
    register ∈ site.used :=
  List.mem_append_right _ home

/-- The acquired registers differ. -/
theorem acquired_distinct :
    site.first ≠ site.second ∧ site.first ≠ site.third ∧ site.second ≠ site.third := by
  have distinct := site.distinct
  simp only [List.nodup_cons, List.mem_cons, List.not_mem_nil, or_false, not_or] at distinct
  exact ⟨distinct.1.1, distinct.1.2, distinct.2.1⟩

/-! ## Reading -/

/-- The state after a read with constant operands. -/
theorem run_readConstant {start width : Nat} (nonempty : 1 <= width)
    (inside : start + width <= 64) (before : Machine) :
    runFields (site.readConstant start width) before =
      some (before.write (.x site.first) (fieldValue (before.read (.x site.word)) start width)) := by
  obtain ⟨word, made, decoded⟩ := decodeField_ubfx site.first site.word nonempty inside
  have performed : performField before (.basic (.ubfm true (.general site.first)
      (.general site.word) (BitVec.ofNat 6 start) (BitVec.ofNat 6 (start + width - 1)))) =
        some (before.write (.x site.first)
          (fieldValue (before.read (.x site.word)) start width)) := by
    rw [← bitfieldMove_ubfx _ nonempty inside]
    rfl
  unfold readConstant
  rw [runFields_cons made decoded performed]
  rfl

/-- The variables after a read with constant operands. -/
theorem preserves_readConstant (before : Machine) (value : Word) :
    Preserves site.homes before (before.write (.x site.first) value) where
  homes := by
    intro register home
    rw [read_write, if_neg (used_ne (home_used home)).1]
  flags := rfl
  calls := rfl

/-- The state after a read with variable operands. -/
theorem run_readVariable (before : Machine) :
    exists after, runFields site.readVariable before = some after ∧
      after.read (.x site.first) =
        (before.read (.x site.word) >>> ((before.read (.x site.start)).toNat % 64)) &&&
          Access.lowBits ((before.read (.x site.width)).toNat % 64) ∧
      Preserves site.homes before after ∧ after.memory = before.memory := by
  obtain ⟨firstSecond, firstThird, _⟩ := site.acquired_distinct
  obtain ⟨widthFirst, _, widthThird⟩ := used_ne site.width_used
  obtain ⟨shifted, madeShifted, decodedShifted⟩ :=
    decodeField_lsrReg site.first site.word site.start
  obtain ⟨masked, madeMasked, decodedMasked⟩ :=
    decodeField_andReg site.first site.first site.second
  have lsr : performField before (.lsrv true (.general site.first) (.general site.word)
      (.general site.start)) = some (before.write (.x site.first)
        (before.read (.x site.word) >>> ((before.read (.x site.start)).toNat % 64))) := rfl
  unfold readVariable
  rw [runFields_cons madeShifted decodedShifted lsr, runFields_mask widthThird,
    runFields_cons madeMasked decodedMasked rfl]
  refine ⟨_, rfl, ?_, ⟨?_, rfl, rfl⟩, rfl⟩
  · change Machine.read (Machine.write _ (.x site.first)
      ((withMask _ site.second site.third _).read (.x site.first) &&&
        (withMask _ site.second site.third _).read (.x site.second))) (.x site.first) = _
    rw [read_write, if_pos rfl, read_withMask, read_withMask, if_neg firstSecond,
      if_neg firstThird, if_pos rfl, read_write, if_pos rfl, read_write, if_neg widthFirst]
  · intro register home
    obtain ⟨first, second, third⟩ := used_ne (home_used home)
    change Machine.read (Machine.write _ (.x site.first) _) (.x register) = _
    rw [read_write, if_neg first, read_withMask, if_neg second, if_neg third, read_write,
      if_neg first]

/-! ## Storing the word -/

/-- A word that is stored is loaded back. -/
theorem load_store (machine : Machine) (address value : Word) :
    (machine.store address value).load address = value := by
  have back := ByteMemory.read_write_same machine.memory address value.toNat
    (show 8 <= 2 ^ 64 by decide)
  unfold Machine.load Machine.store
  rw [back, Nat.mod_eq_of_lt (show value.toNat < 256 ^ 8 from value.isLt)]
  rw [BitVec.ofNat_toNat, BitVec.setWidth_eq]

/-- A store of the word leaves the registers alone. -/
theorem run_storeWord (machine : Machine) :
    exists after, runFields site.storeWord machine = some after ∧
      site.target after = machine.read (.x site.word) ∧
      (forall register, after.read register = machine.read register) ∧
      after.flags = machine.flags ∧ after.calls = machine.calls ∧
      site.KeepsMemory machine after := by
  unfold storeWord target KeepsMemory
  cases placed : site.location with
  | register => exact ⟨machine, rfl, rfl, fun _ => rfl, rfl, rfl, rfl⟩
  | slot base offset =>
      obtain ⟨_, fits⟩ := site.slotPlaced base offset placed
      obtain ⟨encoded, made, decoded⟩ := decodeField_strImm site.word base fits site.variableName
      have str : performField machine (.basic (.str true (.general site.word) (.general base)
          offset)) = some (machine.store (machine.read (.x base) + BitVec.ofInt 64 offset)
            (machine.read (.x site.word))) := rfl
      simp only [made, Option.map_some]
      rw [runFields_cons rfl decoded str]
      refine ⟨_, rfl, ?_, fun _ => rfl, rfl, rfl, ?_⟩
      · rw [Machine.read_store]
        exact load_store machine _ _
      · intro address far
        exact ByteMemory.write_outside _ far

/-- Where the word is stored does not change while its bits are put in. -/
theorem keepsMemory_of_base {before middle after : Machine}
    (bases : forall base offset, site.location = .slot base offset ->
      middle.read (.x base) = before.read (.x base))
    (memory : middle.memory = before.memory) (keeps : site.KeepsMemory middle after) :
    site.KeepsMemory before after := by
  unfold KeepsMemory at keeps ⊢
  cases placed : site.location with
  | register =>
      rw [placed] at keeps
      exact keeps.trans memory
  | slot base offset =>
      rw [placed] at keeps
      simp only at keeps ⊢
      rw [bases base offset placed, memory] at keeps
      exact keeps

/-- An assignment is done when the word has its value and the other variables are as before. -/
theorem assigns_of_word {start width : Nat} {before middle after : Machine}
    (word : middle.read (.x site.word) =
      withField (before.read (.x site.word)) (before.read (.x site.value)) start width)
    (homes : forall register, register ∈ site.homes -> register ≠ site.word ->
      middle.read (.x register) = before.read (.x register))
    (bases : forall base offset, site.location = .slot base offset ->
      middle.read (.x base) = before.read (.x base))
    (memory : middle.memory = before.memory) (flags : middle.flags = before.flags)
    (calls : middle.calls = before.calls)
    (stored : site.target after = middle.read (.x site.word) ∧
      (forall register, after.read register = middle.read register) ∧
      after.flags = middle.flags ∧ after.calls = middle.calls ∧
      site.KeepsMemory middle after) : site.Assigns start width before after where
  value := stored.1.trans word
  preserves :=
    { homes := by
        intro register home
        obtain ⟨isHome, other⟩ := List.mem_filter.mp home
        rw [stored.2.1, homes register isHome (of_decide_eq_true other)]
      flags := stored.2.2.1.trans flags
      calls := stored.2.2.2.1.trans calls }
  memory := site.keepsMemory_of_base bases memory stored.2.2.2.2

/-- The base of a slot is in none of the registers that are written. -/
theorem base_apart {base : Fin 31} {offset : Int} (placed : site.location = .slot base offset) :
    base ≠ site.word ∧ base ≠ site.value ∧ base ≠ site.first ∧ base ≠ site.second ∧
      base ≠ site.third := by
  have apart := (site.slotPlaced base offset placed).1
  simp only [List.mem_cons, List.not_mem_nil, or_false, not_or] at apart
  exact apart

/-! ## Assigning with constant operands -/

/-- The assignment with constant operands. -/
theorem run_writeConstant {start width : Nat} (nonempty : 1 <= width)
    (inside : start + width <= 64) (before : Machine) :
    exists after, runFields (site.writeConstant start width) before = some after ∧
      site.Assigns start width before after := by
  obtain ⟨word, made, decoded⟩ := decodeField_bfi site.word site.value nonempty inside
  have performed : performField before (.basic (.bfm true (.general site.word)
      (.general site.value) (BitVec.ofNat 6 ((64 - start) % 64)) (BitVec.ofNat 6 (width - 1)))) =
        some (before.write (.x site.word)
          (withField (before.read (.x site.word)) (before.read (.x site.value)) start width)) := by
    rw [← bitfieldMove_bfi _ _ nonempty inside]
    rfl
  obtain ⟨after, ran, stored⟩ := site.run_storeWord (before.write (.x site.word)
    (withField (before.read (.x site.word)) (before.read (.x site.value)) start width))
  refine ⟨after, (runFields_cons made decoded performed).trans ran, ?_⟩
  refine @assigns_of_word site start width before (before.write (.x site.word) _) after ?_ ?_ ?_
    rfl rfl rfl stored
  · rw [read_write, if_pos rfl]
  · intro register _ other
    rw [read_write, if_neg other]
  · intro base offset placed
    rw [read_write, if_neg (site.base_apart placed).1]

/-! ## Assigning with variable operands -/

/-- The registers after the masks are computed. -/
def masked (before : Machine) : Machine :=
  (withMask before site.first site.second ((before.read (.x site.width)).toNat % 64)).write
    (.x site.third) (Access.lowBits ((before.read (.x site.width)).toNat % 64) <<<
      ((before.read (.x site.start)).toNat % 64))

/-- The registers after the bits are put into the word. -/
def inserted (machine : Machine) : Machine :=
  let cleared := machine.write (.x site.word)
    (machine.read (.x site.word) &&& ~~~machine.read (.x site.third))
  let truncated := cleared.write (.x site.value)
    (cleared.read (.x site.value) &&& cleared.read (.x site.first))
  let shifted := truncated.write (.x site.value)
    (truncated.read (.x site.value) <<< ((truncated.read (.x site.start)).toNat % 64))
  shifted.write (.x site.word)
    (sized false (shifted.read (.x site.word) ||| shifted.read (.x site.value)))

/-- The assignment is the masks, the bits and the store. -/
theorem run_writeVariable (before : Machine) :
    runFields site.writeVariable before =
      runFields site.storeWord (site.inserted (site.masked before)) := by
  obtain ⟨firstSecond, _, _⟩ := site.acquired_distinct
  obtain ⟨widthFirst, widthSecond, _⟩ := used_ne site.width_used
  obtain ⟨startFirst, startSecond, _⟩ := used_ne site.start_used
  obtain ⟨moved, madeMoved, decodedMoved⟩ := decodeField_lslReg site.third site.first site.start
  obtain ⟨cleared, madeCleared, decodedCleared⟩ :=
    decodeField_bicReg site.word site.word site.third
  obtain ⟨cut, madeCut, decodedCut⟩ := decodeField_andReg site.value site.value site.first
  obtain ⟨shifted, madeShifted, decodedShifted⟩ :=
    decodeField_lslReg site.value site.value site.start
  obtain ⟨joined, madeJoined, decodedJoined⟩ := decodeField_orrReg site.word site.word site.value
  have mask : performField (withMask before site.first site.second
      ((before.read (.x site.width)).toNat % 64))
      (.lslv true (.general site.third) (.general site.first) (.general site.start)) =
        some (site.masked before) := by
    unfold masked
    change some (Machine.write _ (.x site.third) (Machine.read _ (.x site.first) <<<
      ((Machine.read _ (.x site.start)).toNat % 64))) = _
    rw [read_withMask, read_withMask, if_pos rfl, if_neg startFirst, if_neg startSecond]
  unfold writeVariable
  simp only
  rw [runFields_mask widthSecond, runFields_cons madeMoved decodedMoved mask,
    runFields_cons madeCleared decodedCleared rfl, runFields_cons madeCut decodedCut rfl,
    runFields_cons madeShifted decodedShifted rfl, runFields_cons madeJoined decodedJoined rfl]
  rfl

/-- The masks leave the registers in use alone. -/
theorem read_masked (before : Machine) {register : Fin 31} (inUse : register ∈ site.used) :
    (site.masked before).read (.x register) = before.read (.x register) := by
  obtain ⟨first, second, third⟩ := used_ne inUse
  unfold masked
  rw [read_write, if_neg third, read_withMask, if_neg first, if_neg second]

/-- The masks. -/
theorem read_masked_acquired (before : Machine) :
    (site.masked before).read (.x site.first) =
        Access.lowBits ((before.read (.x site.width)).toNat % 64) ∧
      (site.masked before).read (.x site.third) =
        Access.lowBits ((before.read (.x site.width)).toNat % 64) <<<
          ((before.read (.x site.start)).toNat % 64) := by
  obtain ⟨_, firstThird, _⟩ := site.acquired_distinct
  unfold masked
  constructor
  · rw [read_write, if_neg firstThird, read_withMask, if_pos rfl]
  · rw [read_write, if_pos rfl]

end AccessSite

end Codegen
end NewBcpl
