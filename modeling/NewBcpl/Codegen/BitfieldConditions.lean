import NewBcpl.Codegen.BitfieldRuns

namespace NewBcpl
namespace Codegen

open Encoding
open Arm64 (Machine Register)
open Foundations Foundations.BitFields

/-!
# Where bit fields are right

The bits that an assignment with variable operands leaves, by the registers that its value
shares, and where they are the ones that are meant.
-/

/-! ## Bits -/

/-- The word without its field. -/
def cleared (base : Word) (start width : Nat) : Word :=
  base &&& ~~~(Access.lowBits (width % 64) <<< start)

/-- The low bits of the value, in their place. -/
def placedBits (value : Word) (start width : Nat) : Word :=
  (value &&& Access.lowBits (width % 64)) <<< start

/-- Both together are the field, unless it is the whole word. -/
theorem cleared_or_placedBits (base value : Word) (start : Nat) {width : Nat}
    (short : width < 64) :
    cleared base start width ||| placedBits value start width =
      withField base value start width := by
  unfold cleared placedBits
  rw [Nat.mod_eq_of_lt short]
  exact or_masked_shiftLeft_eq_writeField base value start width

/-- For a width of 64 the mask is zero. -/
theorem cleared_or_placedBits_whole (base value : Word) :
    cleared base 0 64 ||| placedBits value 0 64 = base := by
  have mask : Access.lowBits (64 % 64) = 0#64 := by decide
  unfold cleared placedBits
  rw [mask, BitVec.zero_shiftLeft, BitVec.and_zero, BitVec.zero_shiftLeft, BitVec.or_zero,
    BitVec.not_zero, BitVec.and_allOnes]

/-- The lower half of a word is the word when the word is small. -/
theorem sized_eq_iff (value : Word) : sized false value = value <-> value.toNat < 2 ^ 32 := by
  have half : (sized false value).toNat = value.toNat % 2 ^ 32 := by
    change ((value.setWidth 32).setWidth 64).toNat = _
    rw [BitVec.toNat_setWidth, BitVec.toNat_setWidth]
    exact Nat.mod_eq_of_lt ((Nat.mod_lt _ (by decide)).trans (by decide))
  constructor
  · intro same
    rw [← same, half]
    exact Nat.mod_lt _ (by decide)
  · intro small
    apply BitVec.eq_of_toNat_eq
    rw [half, Nat.mod_eq_of_lt small]

/-- The bits of the word without its field. -/
theorem getLsbD_cleared (base : Word) (start : Nat) {width place : Nat} (short : width < 64)
    (below : place < 64) :
    (cleared base start width).getLsbD place =
      (base.getLsbD place && !decide (start <= place ∧ place < start + width)) := by
  have mask : Access.lowBits (width % 64) <<< start = fieldMask 64 start width := by
    rw [Nat.mod_eq_of_lt short]
    rfl
  unfold cleared
  rw [mask, BitVec.getLsbD_and, BitVec.getLsbD_not, getLsbD_fieldMask start width below,
    decide_eq_true below, Bool.true_and]

/-- The placed bits are in the field. -/
theorem getLsbD_placedBits (value : Word) (start : Nat) {width place : Nat} (short : width < 64)
    (below : place < 64) :
    (placedBits value start width).getLsbD place =
      (decide (start <= place ∧ place < start + width) && value.getLsbD (place - start)) := by
  have field := getLsbD_writeField 0#64 value start width below
  rw [← or_masked_shiftLeft_eq_writeField, BitVec.zero_and, BitVec.zero_or,
    BitVec.getLsbD_zero] at field
  unfold placedBits
  rw [Nat.mod_eq_of_lt short]
  refine Eq.trans field ?_
  by_cases within : start <= place ∧ place < start + width
  · rw [if_pos within, decide_eq_true within, Bool.true_and]
  · rw [if_neg within, decide_eq_false within, Bool.false_and]

/-! ## A variable that is assigned to its own field -/

/-- A word that is zero outside of the field leaves nothing. -/
theorem placedBits_cleared_eq_zero {base : Word} {start width : Nat} (short : width < 64)
    (outside : forall place, place < 64 -> ¬ (start <= place ∧ place < start + width) ->
      base.getLsbD place = false) :
    placedBits (cleared base start width) start width = 0#64 := by
  apply BitVec.eq_of_getLsbD_eq
  intro place below
  rw [getLsbD_placedBits _ start short below, getLsbD_cleared base start short (by omega),
    BitVec.getLsbD_zero]
  by_cases within : start <= place - start ∧ place - start < start + width
  · rw [decide_eq_true within, Bool.not_true, Bool.and_false, Bool.and_false]
  · rw [outside (place - start) (by omega) within, Bool.false_and, Bool.and_false]

/-- What is left of a variable that is assigned to its own field is right only if nothing is. -/
theorem sized_placedBits_cleared_iff (base : Word) {start width : Nat}
    (inside : start + width <= 64) :
    sized false (placedBits (cleared base start width) start width) =
        withField base base start width <->
      withField base base start width = 0#64 := by
  have zeroHalf : sized false 0#64 = 0#64 := by decide
  by_cases whole : width = 64
  · have mask : Access.lowBits (64 % 64) = 0#64 := by decide
    have bits : placedBits (cleared base start width) start width = 0#64 := by
      unfold placedBits
      rw [whole, mask, BitVec.and_zero, BitVec.zero_shiftLeft]
    rw [bits, zeroHalf]
    exact eq_comm
  · have short : width < 64 := by omega
    have expected (place : Nat) (below : place < 64)
        (outside : ¬ (start <= place ∧ place < start + width)) :
        (withField base base start width).getLsbD place = base.getLsbD place := by
      unfold withField
      rw [getLsbD_writeField _ _ _ _ below, if_neg outside]
    constructor
    · intro same
      have outside : forall place, place < 64 ->
          ¬ (start <= place ∧ place < start + width) -> base.getLsbD place = false := by
        intro place below notWithin
        rw [← expected place below notWithin, ← same]
        change (((placedBits _ start width).setWidth 32).setWidth 64).getLsbD place = false
        rw [BitVec.getLsbD_setWidth, BitVec.getLsbD_setWidth,
          getLsbD_placedBits _ start short below, decide_eq_false notWithin, Bool.false_and,
          Bool.and_false, Bool.and_false]
      rw [← same, placedBits_cleared_eq_zero short outside, zeroHalf]
    · intro zero
      have outside : forall place, place < 64 ->
          ¬ (start <= place ∧ place < start + width) -> base.getLsbD place = false := by
        intro place below notWithin
        rw [← expected place below notWithin, zero, BitVec.getLsbD_zero]
      rw [placedBits_cleared_eq_zero short outside, zeroHalf, zero]

/-! ## Shifts by a register that was changed -/

/-- The bits of the start are below the field. -/
theorem cleared_start : forall start, start < 64 -> forall width, width < 65 ->
    (cleared (BitVec.ofNat 64 start) start width).toNat % 64 = start := by
  decide +kernel

/-- A value that is its own start stays as it is under either shift, or under none. -/
theorem shifted_start : forall start, start < 64 -> forall width, width < 65 ->
    ((BitVec.ofNat 64 start &&& Access.lowBits (width % 64)) <<<
        ((BitVec.ofNat 64 start &&& Access.lowBits (width % 64)).toNat % 64) =
          BitVec.ofNat 64 start <->
      placedBits (BitVec.ofNat 64 start) start width = BitVec.ofNat 64 start) := by
  decide +kernel

/-- A variable that is its own start and value is right only if it is zero. -/
theorem own_start : forall start, start < 64 -> forall width, width < 65 -> 1 <= width ->
    start + width <= 64 ->
    (sized false ((cleared (BitVec.ofNat 64 start) start width &&&
        Access.lowBits (width % 64)) <<<
          ((cleared (BitVec.ofNat 64 start) start width &&&
            Access.lowBits (width % 64)).toNat % 64)) =
        withField (BitVec.ofNat 64 start) (BitVec.ofNat 64 start) start width <->
      withField (BitVec.ofNat 64 start) (BitVec.ofNat 64 start) start width = 0#64) := by
  decide +kernel

theorem toNat_start {start width : Nat} (nonempty : 1 <= width) (inside : start + width <= 64) :
    (BitVec.ofNat 64 start).toNat % 64 = start := by
  rw [BitVec.toNat_ofNat]
  omega

theorem toNat_width (width : Nat) :
    (BitVec.ofNat 64 width).toNat % 64 = width % 64 := by
  rw [BitVec.toNat_ofNat]
  omega

/-! ## The registers after an assignment -/

namespace AccessSite

variable (site : AccessSite)

/-- What the shift by the start register makes of the truncated value. -/
def shiftedValue (machine : Machine) (clearedWord truncated : Word) : Word :=
  truncated <<< ((if site.start = site.value then truncated
    else if site.start = site.word then clearedWord
    else machine.read (.x site.start)).toNat % 64)

/-- A value that is in a register of its own. -/
theorem read_inserted (machine : Machine) (apart : site.value ≠ site.word) (register : Fin 31) :
    (site.inserted machine).read (.x register) =
      (let clearedWord := machine.read (.x site.word) &&& ~~~machine.read (.x site.third)
      let shifted := site.shiftedValue machine clearedWord
        (machine.read (.x site.value) &&& machine.read (.x site.first))
      if register = site.word then sized false (clearedWord ||| shifted)
      else if register = site.value then shifted
      else machine.read (.x register)) := by
  obtain ⟨wordFirst, _, _⟩ := used_ne site.word_used
  unfold inserted shiftedValue
  simp only [read_write, if_true, if_neg apart, if_neg apart.symm, if_neg wordFirst.symm]
  split
  · rfl
  · split
    · rfl
    · rfl

/-- A value that is in the register of the word. -/
theorem read_inserted_own (machine : Machine) (own : site.value = site.word) (register : Fin 31) :
    (site.inserted machine).read (.x register) =
      (let truncated := (machine.read (.x site.word) &&& ~~~machine.read (.x site.third)) &&&
        machine.read (.x site.first)
      if register = site.word then
        sized false (truncated <<< ((if site.start = site.word then truncated
          else machine.read (.x site.start)).toNat % 64))
      else machine.read (.x register)) := by
  obtain ⟨wordFirst, _, _⟩ := used_ne site.word_used
  unfold inserted
  simp only [read_write, own, if_true, if_neg wordFirst.symm, BitVec.or_self]
  split
  · by_cases same : site.start = site.word
    · rw [if_pos same, if_pos same]
    · rw [if_neg same, if_neg same, if_neg same]
  · rfl

section

variable {site : AccessSite} {start width : Nat} {before : Machine}

variable (holds : before.read (.x site.start) = BitVec.ofNat 64 start ∧
  before.read (.x site.width) = BitVec.ofNat 64 width)
variable (nonempty : 1 <= width) (inside : start + width <= 64)

include holds nonempty inside

/-- What the registers hold before the bits are put in. -/
theorem masked_registers :
    (site.masked before).read (.x site.first) = Access.lowBits (width % 64) ∧
      (site.masked before).read (.x site.third) = Access.lowBits (width % 64) <<< start ∧
      (site.masked before).read (.x site.word) = before.read (.x site.word) ∧
      (site.masked before).read (.x site.value) = before.read (.x site.value) ∧
      (site.masked before).read (.x site.start) = BitVec.ofNat 64 start := by
  obtain ⟨mask, writeMask⟩ := site.read_masked_acquired before
  have startValue := toNat_start nonempty inside
  rw [holds.1, holds.2, startValue, toNat_width] at writeMask
  rw [holds.2, toNat_width] at mask
  exact ⟨mask, writeMask, site.read_masked before site.word_used,
    site.read_masked before site.value_used,
    (site.read_masked before site.start_used).trans holds.1⟩

/-- The bits that are put in, unless the value is its own start. -/
theorem shiftedValue_eq (apart : site.start ≠ site.value) :
    site.shiftedValue (site.masked before) (cleared (before.read (.x site.word)) start width)
        (before.read (.x site.value) &&& Access.lowBits (width % 64)) =
      placedBits (before.read (.x site.value)) start width := by
  obtain ⟨_, _, _, _, amount⟩ := masked_registers holds nonempty inside
  have startValue := toNat_start nonempty inside
  unfold shiftedValue placedBits
  rw [if_neg apart]
  by_cases same : site.start = site.word
  · rw [if_pos same, ← same, holds.1,
      cleared_start start (by omega) width (by omega)]
  · rw [if_neg same, amount, startValue]

/-- A value that stays as it is has been placed. -/
theorem shiftedValue_eq_value_iff :
    site.shiftedValue (site.masked before) (cleared (before.read (.x site.word)) start width)
        (before.read (.x site.value) &&& Access.lowBits (width % 64)) =
          before.read (.x site.value) <->
      placedBits (before.read (.x site.value)) start width = before.read (.x site.value) := by
  by_cases same : site.start = site.value
  · unfold shiftedValue
    rw [if_pos same, ← same, holds.1]
    exact shifted_start start (by omega) width (by omega)
  · rw [shiftedValue_eq holds nonempty inside same]

/-- The bits of the variable, with a value of its own register. -/
theorem word_inserted (apart : site.value ≠ site.word)
    (placed : site.value ∈ site.homes ->
      placedBits (before.read (.x site.value)) start width = before.read (.x site.value)) :
    (site.inserted (site.masked before)).read (.x site.word) =
      sized false (cleared (before.read (.x site.word)) start width |||
        placedBits (before.read (.x site.value)) start width) := by
  obtain ⟨mask, writeMask, word, value, _⟩ := masked_registers holds nonempty inside
  rw [site.read_inserted _ apart, if_pos rfl, mask, writeMask, word, value]
  change sized false (cleared (before.read (.x site.word)) start width ||| _) = _
  by_cases same : site.start = site.value
  · have home : site.value ∈ site.homes := by
      refine site.valueApart.resolve_right fun other => other ?_
      rw [← same]
      simp
    have kept := (shiftedValue_eq_value_iff holds nonempty inside).mpr (placed home)
    rw [placed home]
    exact congrArg (fun bits => sized false (_ ||| bits)) kept
  · rw [← shiftedValue_eq holds nonempty inside same]
    rfl

/-- The register of the value afterwards. -/
theorem value_inserted (apart : site.value ≠ site.word) :
    (site.inserted (site.masked before)).read (.x site.value) = before.read (.x site.value) <->
      placedBits (before.read (.x site.value)) start width = before.read (.x site.value) := by
  obtain ⟨mask, writeMask, word, value, _⟩ := masked_registers holds nonempty inside
  rw [site.read_inserted _ apart, if_neg apart, if_pos rfl, mask, writeMask, word, value]
  exact shiftedValue_eq_value_iff holds nonempty inside

/-- The bits of a variable that is assigned to its own field. -/
theorem word_inserted_own_iff (own : site.value = site.word) :
    (site.inserted (site.masked before)).read (.x site.word) =
        withField (before.read (.x site.word)) (before.read (.x site.value)) start width <->
      withField (before.read (.x site.word)) (before.read (.x site.value)) start width = 0#64 := by
  obtain ⟨mask, writeMask, word, _, amount⟩ := masked_registers holds nonempty inside
  have startValue := toNat_start nonempty inside
  rw [site.read_inserted_own _ own, if_pos rfl, mask, writeMask, word, own]
  by_cases same : site.start = site.word
  · rw [if_pos same, ← same, holds.1]
    exact own_start start (by omega) width (by omega) nonempty inside
  · rw [if_neg same, amount, startValue]
    exact sized_placedBits_cleared_iff _ inside

end

end AccessSite

/-! ## The four accesses -/

section

variable {site : AccessSite} {start width : Nat} {before : Machine}

/-- A run gives one state. -/
theorem meets_iff_of_run {access : Access} {after other : Machine}
    (ran : runFields (access.code site start width) before = some after)
    (constant : runFields (access.constant.code site start width) before = some other)
    (agree : access.Does site start width before after ->
      access.result site after = access.result site other) :
    access.Meets site start width before <-> access.Does site start width before after := by
  constructor
  · rintro ⟨found, foundRun, does, _⟩
    cases ran.symm.trans foundRun
    exact does
  · intro does
    exact ⟨after, ran, does, other, constant, agree does⟩

/-- A read with constant operands. -/
theorem reads_readConstant (nonempty : 1 <= width) (inside : start + width <= 64) :
    exists after, runFields (site.readConstant start width) before = some after ∧
      site.Reads start width before after := by
  refine ⟨_, site.run_readConstant nonempty inside before, ?_, ?_, rfl⟩
  · rw [read_write, if_pos rfl]
  · exact site.preserves_readConstant before _

/-- A read with variable operands loses the whole word, and only that. -/
theorem meets_readVariable_iff
    (holds : before.read (.x site.start) = BitVec.ofNat 64 start ∧
      before.read (.x site.width) = BitVec.ofNat 64 width)
    (nonempty : 1 <= width) (inside : start + width <= 64) :
    Access.readVariable.Meets site start width before <->
      Access.readVariable.IsRight site start width before := by
  obtain ⟨after, ran, value, preserves, memory⟩ := site.run_readVariable before
  obtain ⟨other, constant, otherReads⟩ :=
    @reads_readConstant site start width before nonempty inside
  have startValue := toNat_start nonempty inside
  rw [holds.1, holds.2, startValue, toNat_width,
    shifted_and_lowBits _ start (Nat.mod_lt width (by decide)).le] at value
  rw [@meets_iff_of_run site start width before .readVariable after other ran constant
    fun does => does.value.trans otherReads.value.symm]
  change site.Reads start width before after <-> (width = 64 -> _)
  by_cases whole : width = 64
  · have low : start = 0 := by omega
    subst whole low
    have none : fieldValue (before.read (.x site.word)) 0 (64 % 64) = 0#64 := by
      unfold fieldValue
      rw [Nat.mod_self, pow_zero, Nat.mod_one]
    constructor
    · intro reads _
      rw [← fieldValue_whole (before.read (.x site.word)), ← reads.value, value, none]
    · intro zero
      refine ⟨?_, preserves, memory⟩
      rw [value, none, fieldValue_whole, zero rfl]
  · refine iff_of_true ⟨?_, preserves, memory⟩ fun wrong => absurd wrong whole
    rw [value, Nat.mod_eq_of_lt (by omega)]

/-- An assignment with variable operands is right when the word is, and the register of the
value. -/
theorem meets_writeVariable_iff_registers (nonempty : 1 <= width) (inside : start + width <= 64) :
    Access.writeVariable.Meets site start width before <->
      (site.inserted (site.masked before)).read (.x site.word) =
          withField (before.read (.x site.word)) (before.read (.x site.value)) start width ∧
        (site.value ∈ site.homes -> site.value ≠ site.word ->
          (site.inserted (site.masked before)).read (.x site.value) =
            before.read (.x site.value)) := by
  obtain ⟨after, stored, facts⟩ := site.run_storeWord (site.inserted (site.masked before))
  have ran : runFields site.writeVariable before = some after :=
    (site.run_writeVariable before).trans stored
  obtain ⟨other, constant, otherAssigns⟩ := site.run_writeConstant nonempty inside before
  rw [@meets_iff_of_run site start width before .writeVariable after other ran constant
    fun does => does.value.trans otherAssigns.value.symm]
  change site.Assigns start width before after <-> _
  constructor
  · intro assigns
    refine ⟨facts.1.symm.trans assigns.value, fun home other => ?_⟩
    rw [← facts.2.1]
    exact assigns.preserves.homes _ (List.mem_filter.mpr ⟨home, decide_eq_true other⟩)
  · rintro ⟨word, value⟩
    have kept : forall register, register ∉ [site.word, site.value, site.first, site.second,
        site.third] ->
          (site.inserted (site.masked before)).read (.x register) = before.read (.x register) := by
      intro register apart
      simp only [List.mem_cons, List.not_mem_nil, or_false, not_or] at apart
      obtain ⟨notWord, notValue, notFirst, notSecond, notThird⟩ := apart
      have masks : (site.masked before).read (.x register) = before.read (.x register) := by
        unfold AccessSite.masked
        rw [read_write, if_neg notThird, read_withMask, if_neg notFirst, if_neg notSecond]
      by_cases own : site.value = site.word
      · rw [site.read_inserted_own _ own, if_neg notWord, masks]
      · rw [site.read_inserted _ own, if_neg notWord, if_neg notValue, masks]
    refine @AccessSite.assigns_of_word site start width before
      (site.inserted (site.masked before)) after word ?_ ?_ rfl rfl rfl facts
    · intro register home other
      by_cases same : register = site.value
      · rw [same] at home other ⊢
        exact value home other
      · obtain ⟨first, second, third⟩ := AccessSite.used_ne (AccessSite.home_used home)
        apply kept
        simp only [List.mem_cons, List.not_mem_nil, or_false, not_or]
        exact ⟨other, same, first, second, third⟩
    · intro base offset placed
      apply kept
      exact (site.slotPlaced base offset placed).1

/-- The upper half of what is meant, and the whole word. -/
theorem sized_eq_withField_iff (base value : Word) (inside : start + width <= 64) :
    sized false (cleared base start width ||| placedBits value start width) =
        withField base value start width <->
      if width = 64 then value = sized false base
      else (withField base value start width).toNat < 2 ^ 32 := by
  by_cases whole : width = 64
  · have low : start = 0 := by omega
    subst whole low
    have expected : withField base value 0 64 = value := writeField_whole base value
    rw [if_pos rfl, cleared_or_placedBits_whole, expected]
    exact eq_comm
  · rw [if_neg whole, cleared_or_placedBits base value start (by omega)]
    exact sized_eq_iff _

/-- An assignment with variable operands. -/
theorem meets_writeVariable_iff
    (holds : before.read (.x site.start) = BitVec.ofNat 64 start ∧
      before.read (.x site.width) = BitVec.ofNat 64 width)
    (nonempty : 1 <= width) (inside : start + width <= 64) :
    Access.writeVariable.Meets site start width before <->
      Access.writeVariable.IsRight site start width before := by
  rw [meets_writeVariable_iff_registers nonempty inside]
  unfold Access.IsRight
  by_cases own : site.value = site.word
  · rw [if_pos own, AccessSite.word_inserted_own_iff holds nonempty inside own,
      and_iff_left fun _ other => absurd own other]
  · rw [if_neg own]
    constructor
    · rintro ⟨word, value⟩
      have placed : site.value ∈ site.homes ->
          placedBits (before.read (.x site.value)) start width = before.read (.x site.value) :=
        fun home => (AccessSite.value_inserted holds nonempty inside own).mp (value home own)
      rw [AccessSite.word_inserted holds nonempty inside own placed] at word
      exact ⟨(sized_eq_withField_iff _ _ inside).mp word, placed⟩
    · rintro ⟨word, placed⟩
      refine ⟨?_, fun home _ => (AccessSite.value_inserted holds nonempty inside own).mpr
        (placed home)⟩
      rw [AccessSite.word_inserted holds nonempty inside own placed]
      exact (sized_eq_withField_iff _ _ inside).mpr word

/-- A variable in `x20`, its operands in the variables of `x21` and `x22`, and a value in `x10`. -/
def sampleSite : AccessSite where
  homes := [20, 21, 22]
  word := 20
  start := 21
  width := 22
  value := 10
  first := 11
  second := 12
  third := 13
  location := .register
  variableName := "x"
  distinct := by decide
  fresh := by decide
  valueApart := by decide
  wordPlaced := by decide
  slotPlaced := by
    intro base offset placed
    cases placed

/-- A state with a word and with operands; the other registers are zero. -/
def sampleMachine (word : Word) (start width : Nat) : Machine where
  registers := fun register =>
    if register = .x 20 then word
    else if register = .x 21 then BitVec.ofNat 64 start
    else if register = .x 22 then BitVec.ofNat 64 width
    else 0#64
  flags := ⟨false, false, false, false⟩
  memory := fun _ => 0#8
  calls := []

end

end Codegen
end NewBcpl
