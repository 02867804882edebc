import Mathlib.Tactic.IntervalCases
import NewBcpl.Peephole.MachineOperations

namespace NewBcpl
namespace Peephole

open Foundations

/-!
# Which windows may be replaced

A window and its replacement have one effect if every processor takes every
machine through both to the same outcome. For the windows that the patterns
replace this is decided by the widths, register numbers and offsets in the
encodings. One direction is an equation of machines; for the other, a machine
is named on which the two differ.
-/

/-- Two windows act alike on every machine of every processor. -/
def SameEffect (first second : List Operation) : Prop :=
  forall (Outside : Type) (processor : Processor Outside) (machine : Machine Outside),
    LabelledRuns.sequence (first.map (perform processor)) machine =
      LabelledRuns.sequence (second.map (perform processor)) machine

/-- An offset; an index that is the zero register is no offset. -/
def Operand.normal : Operand -> Operand
  | .indexed index scaled => if index = 31 then .bytes 0 else .indexed index scaled
  | .bytes offset => .bytes offset

/-- Whether an offset changes with a register. -/
def Operand.reads (operand : Operand) (register : Fin 32) : Bool :=
  match operand.normal with
  | .indexed index _ => index == register
  | .bytes _ => false

/-- Whether the bytes of a second store include those of the first. -/
def covers (wide : Bool) (offset : Nat) (wide' : Bool) (offset' : Nat) : Bool :=
  offset' <= offset && offset + accessBytes wide <= offset' + accessBytes wide'

/-- The windows that may be replaced. A 32-bit result is not the register it
came from, the stack pointer is not the zero register, an index register that
changes makes another address, and a narrow store is not a wide one. -/
def harmlessOperations : List Operation -> Bool
  | [.addImm wide rd rn _] => wide && decide (rd = 31 <-> rn = 31)
  | [.subImm wide rd rn _] => wide && decide (rd = 31 <-> rn = 31)
  | [.addShifted wide rd rn rm _ _] => rd == 31 || rm == 31 && (wide || rn == 31)
  | [.orr wide rd _] => wide || rd == 31
  | [.str wide _ _ offset, .ldr wide' rt' _ operand] =>
      rt' == 31 || wide && wide' && operand.normal == .bytes offset
  | [.ldr wide rt _ operand, .ldr wide' rt' _ operand'] =>
      rt' == 31 ||
        rt != 31 && wide == wide' && operand.normal == operand'.normal && !operand'.reads rt
  | [.str wide _ _ offset, .str wide' _ _ offset'] => covers wide offset wide' offset'
  | _ => false

section Effects

variable {Outside : Type} (machine : Machine Outside)

theorem Machine.offset_normal (operand : Operand) :
    machine.offset operand.normal = machine.offset operand := by
  cases operand with
  | bytes offset => rfl
  | indexed index scaled =>
      by_cases zero : index = 31
      · simp only [Operand.normal, Machine.offset, zero, Machine.read_thirtyOne,
          BitVec.zero_shiftLeft]
        rfl
      · simp only [Operand.normal, if_neg zero]

theorem Machine.offset_set {register : Fin 32} {value : BitVec 64} {operand : Operand}
    (apart : operand.reads register = false) :
    (machine.set register value).offset operand = machine.offset operand := by
  rw [<- Machine.offset_normal, <- Machine.offset_normal machine]
  unfold Operand.reads at apart
  cases shape : operand.normal with
  | bytes offset => rfl
  | indexed index scaled =>
      rw [shape] at apart
      have other : index ≠ register := by simpa using apart
      simp only [Machine.offset, Machine.read, Machine.registers_set, if_neg other]

theorem Machine.address_set {register base : Fin 32} {value : BitVec 64} {operand : Operand}
    (notBase : register ≠ base) (apart : operand.reads register = false) :
    (machine.set register value).address base operand = machine.address base operand := by
  simp only [Machine.address, Machine.offset_set machine apart, Machine.registers_set,
    if_neg (Ne.symm notBase)]

theorem Machine.address_normal {operand operand' : Operand}
    (same : operand.normal = operand'.normal) (base : Fin 32) :
    machine.address base operand = machine.address base operand' := by
  unfold Machine.address
  rw [<- Machine.offset_normal, same, Machine.offset_normal]

/-- What was stored is loaded back by an access of the same 64 bits. -/
theorem Machine.load_store (address value : BitVec 64) :
    (machine.store true address value).load true address = value := by
  have back := ByteMemory.read_write_same machine.memory address value.toNat
    (show 8 <= 2 ^ 64 by decide)
  apply BitVec.eq_of_toNat_eq
  unfold Machine.load Machine.store accessBytes
  rw [if_pos rfl, back, BitVec.toNat_ofNat]
  have bound := value.isLt
  omega

theorem Machine.store_store {base : Fin 32} {wide wide' : Bool} {offset offset' : Nat}
    (value value' : BitVec 64) (bounded : offset + 8 < 2 ^ 64)
    (within : covers wide offset wide' offset' = true) :
    (machine.store wide (machine.address base (.bytes offset)) value).store wide'
        (machine.address base (.bytes offset')) value' =
      machine.store wide' (machine.address base (.bytes offset')) value' := by
  simp only [covers, Bool.and_eq_true, decide_eq_true_eq] at within
  have narrow := accessBytes_le wide
  have small := accessBytes_le wide'
  simp only [Machine.store, Machine.address, Machine.offset]
  congr 1
  apply ByteMemory.write_covers
  intro address inside
  unfold ByteMemory.offset at inside ⊢
  bv_omega

end Effects

section Identities

/-! ## Arithmetic and moves -/

/-- A machine without anything outside. -/
def probe (registers : Fin 32 -> BitVec 64) (memory : ByteMemory.Memory 64) : Machine Unit :=
  { registers := registers
    flags := { negative := false, zero := false, carry := false, overflow := false }
    memory := memory
    outside := () }

/-- A processor that leaves at every word it is asked about. -/
def leaving : Processor Unit := fun _ machine => .leave machine

/-- Where two windows with one effect end on a probe. -/
theorem SameEffect.onProbe {first second : List Operation} (same : SameEffect first second)
    (registers : Fin 32 -> BitVec 64) (memory : ByteMemory.Memory 64) {final final' : Machine Unit}
    (ends : LabelledRuns.sequence (first.map (perform leaving)) (probe registers memory) =
      .next final)
    (ends' : LabelledRuns.sequence (second.map (perform leaving)) (probe registers memory) =
      .next final') : final = final' := by
  have equal := same Unit leaving (probe registers memory)
  rw [ends, ends'] at equal
  injection equal

/-- A value with bits in both halves. -/
def bothHalves : BitVec 64 := 0x100000001#64

theorem sized_bothHalves (wide : Bool) :
    sized wide bothHalves = if wide then bothHalves else 1#64 := by
  cases wide <;> decide

/-- An addition of zero sets a slot that a move may leave alone or clear. -/
theorem addImm_sameEffect_iff (wide : Bool) (rd rn : Fin 32) :
    SameEffect [.addImm wide rd rn 0] [.orr true rd rn] <->
      harmlessOperations [.addImm wide rd rn 0] = true := by
  unfold harmlessOperations
  rw [Bool.and_eq_true, decide_eq_true_eq]
  constructor
  · intro same
    have ends := same.onProbe (fun r => if r = rn then bothHalves else 0#64) (fun _ => 0#8) rfl rfl
    have slot := congrFun (congrArg Machine.registers ends) rd
    rw [Machine.registers_set, if_pos rfl, Machine.registers_write] at slot
    simp only [probe, if_true, BitVec.add_zero, sized_bothHalves, sized_wide,
      Machine.read] at slot
    cases wide with
    | false =>
        exfalso
        rw [if_neg Bool.false_ne_true] at slot
        revert slot
        split <;> split <;> decide
    | true =>
        refine ⟨rfl, fun target => ?_, fun source => ?_⟩
        · by_contra source
          rw [if_pos target, if_neg (Ne.symm source)] at slot
          exact absurd slot (by decide)
        · by_contra target
          rw [if_neg target, if_pos source] at slot
          exact absurd slot (by decide)
  · rintro ⟨rfl, both⟩ Outside processor machine
    simp only [List.map, LabelledRuns.sequence, perform, BitVec.add_zero, sized_wide]
    by_cases target : rd = 31
    · rw [target, both.mp target, Machine.write_thirtyOne, Machine.set_self]
    · have source : rn ≠ 31 := fun zero => target (both.mpr zero)
      rw [Machine.write_slot machine target, Machine.read_slot machine source]

theorem perform_subImm_zero {Outside : Type} (processor : Processor Outside) (wide : Bool)
    (rd rn : Fin 32) :
    perform processor (.subImm wide rd rn 0) = perform processor (.addImm wide rd rn 0) := by
  funext machine
  simp only [perform, BitVec.sub_zero, BitVec.add_zero]

theorem subImm_sameEffect_iff (wide : Bool) (rd rn : Fin 32) :
    SameEffect [.subImm wide rd rn 0] [.orr true rd rn] <->
      harmlessOperations [.subImm wide rd rn 0] = true := by
  have addition := addImm_sameEffect_iff wide rd rn
  unfold SameEffect at addition ⊢
  simp only [List.map, perform_subImm_zero]
  exact addition

/-- An addition of a register that is not shifted forgets the register. -/
theorem addShifted_sameEffect_iff (wide : Bool) (rd rn rm : Fin 32) (shift : Shift) :
    SameEffect [.addShifted wide rd rn rm shift 0] [.orr true rd rn] <->
      harmlessOperations [.addShifted wide rd rn rm shift 0] = true := by
  unfold harmlessOperations
  simp only [Bool.or_eq_true, Bool.and_eq_true, beq_iff_eq]
  constructor
  · intro same
    have ends := same.onProbe (fun _ => bothHalves) (fun _ => 0#8) rfl rfl
    have slot := congrFun (congrArg Machine.registers ends) rd
    rw [Machine.registers_write, Machine.registers_write] at slot
    simp only [shifted_zero, sized_wide, Machine.read, probe] at slot
    by_cases target : rd = 31
    · exact Or.inl target
    · rw [if_neg target, if_neg target] at slot
      refine Or.inr ⟨?_, ?_⟩
      · by_contra operand
        rw [if_neg operand] at slot
        revert slot
        cases wide <;> split <;> decide
      · by_contra narrow
        rw [not_or, Bool.not_eq_true] at narrow
        obtain ⟨rfl, source⟩ := narrow
        rw [if_neg source] at slot
        revert slot
        split <;> decide
  · rintro harmless Outside processor machine
    simp only [List.map, LabelledRuns.sequence, perform, shifted_zero, sized_wide]
    rcases harmless with rfl | ⟨rfl, rfl | rfl⟩
    · rfl
    · rw [Machine.read_thirtyOne, sized_zero, BitVec.add_zero, sized_wide]
    · rw [Machine.read_thirtyOne, sized_zero, BitVec.add_zero, sized_zero]

/-- A move of a register to itself clears the upper half if it is narrow. -/
theorem orr_sameEffect_iff (wide : Bool) (register : Fin 32) :
    SameEffect [.orr wide register register] [] <->
      harmlessOperations [.orr wide register register] = true := by
  unfold harmlessOperations
  rw [Bool.or_eq_true, beq_iff_eq]
  constructor
  · intro same
    have ends := same.onProbe (fun _ => bothHalves) (fun _ => 0#8) rfl rfl
    have slot := congrFun (congrArg Machine.registers ends) register
    rw [Machine.registers_write] at slot
    by_contra harmful
    rw [not_or, Bool.not_eq_true] at harmful
    obtain ⟨rfl, target⟩ := harmful
    rw [if_neg target, Machine.read_slot _ target] at slot
    exact absurd slot (show ¬ sized false bothHalves = bothHalves by decide)
  · rintro harmless Outside processor machine
    simp only [List.map, LabelledRuns.sequence, perform]
    rcases harmless with rfl | rfl
    · rw [sized_wide, Machine.write_read]
    · rfl

/-- A word with a meaning of its own is not a move. -/
theorem other_not_sameEffect (assembly : String) (rd rn : Fin 32) :
    ¬ SameEffect [.other assembly] [.orr true rd rn] := by
  intro same
  have outcome := same Unit leaving (probe (fun _ => 0) fun _ => 0)
  cases outcome

end Identities

section Accesses

/-! ## Loads and stores -/

/-- What a record with the given immediate says about the offset of its load. -/
def Operand.Recorded (wide : Bool) (immediate : Int) : Operand -> Prop
  | .bytes offset =>
      0 <= immediate ∧ immediate <= 32760 ∧
        (offset = immediate.toNat ∨ wide = false ∧ offset = immediate.toNat * 4)
  | .indexed _ _ => wide = true ∧ immediate = 0

/-- What a record with the given immediate says about the offset of its store. -/
def RecordedStore (wide : Bool) (immediate : Int) (offset : Nat) : Prop :=
  0 <= immediate ∧ immediate <= 32760 ∧ offset = immediate.toNat ∨
    wide = false ∧ offset = (immediate % 4096).toNat * 4

/-- A value of the upper half. -/
def upperHalf : BitVec 64 := 0x100000000#64

theorem load_zero (machine : Machine Unit) (cleared : machine.memory = fun _ => 0#8)
    (wide : Bool) (address : BitVec 64) : machine.load wide address = 0#64 := by
  unfold Machine.load
  rw [cleared, ByteMemory.read_zero]

theorem load_narrow (machine : Machine Unit) (address : BitVec 64) :
    (machine.load false address).toNat < 2 ^ 32 := by
  have bound := ByteMemory.read_lt machine.memory address 4
  unfold Machine.load accessBytes
  rw [if_neg Bool.false_ne_true, BitVec.toNat_ofNat]
  omega

/-- The low half of a value of the upper half is stored as zeros. -/
theorem store_upperHalf (registers : Fin 32 -> BitVec 64) (address : BitVec 64) :
    ((probe registers fun _ => 0#8).store false address upperHalf).memory = fun _ => 0#8 := by
  funext other
  simp only [Machine.store, ByteMemory.write, probe]
  split
  · rename_i inside
    unfold accessBytes at inside
    rw [if_neg Bool.false_ne_true] at inside
    generalize ByteMemory.offset address other = index at inside ⊢
    unfold ByteMemory.byteOf upperHalf
    interval_cases index <;> rfl
  · rfl

theorem load_store_apart (registers : Fin 32 -> BitVec 64) (address other value : BitVec 64)
    (apart : 8 <= (other - address).toNat) (apart' : 8 <= (address - other).toNat) :
    ((probe registers fun _ => 0#8).store true address value).load true other = 0#64 := by
  have untouched : ByteMemory.read (ByteMemory.write (fun _ => 0#8) address 8 value.toNat)
      other 8 = ByteMemory.read (fun _ => 0#8) other 8 := by
    apply ByteMemory.read_write_disjoint
    · decide
    · intro position inside
      unfold ByteMemory.offset at inside ⊢
      bv_omega
  simp only [Machine.load, Machine.store, probe, accessBytes, if_true]
  rw [untouched, ByteMemory.read_zero]

/-- A load into the register that was just stored is redundant if both access
the same 64 bits, or if the register is the zero register. -/
theorem storeLoad_sameEffect_iff {wide wide' : Bool} {rt rn : Fin 32} {offset : Nat}
    {operand : Operand} {immediate : Int} (stored : RecordedStore wide immediate offset)
    (loaded : operand.Recorded wide' immediate) :
    SameEffect [.str wide rt rn offset, .ldr wide' rt rn operand] [.str wide rt rn offset] <->
      harmlessOperations [.str wide rt rn offset, .ldr wide' rt rn operand] = true := by
  unfold harmlessOperations
  simp only [Bool.or_eq_true, Bool.and_eq_true, beq_iff_eq]
  constructor
  · intro same
    by_cases target : rt = 31
    · exact Or.inl target
    have slot : forall registers memory,
        (((probe registers memory).store wide ((probe registers memory).address rn (.bytes offset))
          (registers rt)).load wide' ((probe registers memory).address rn operand)) =
          registers rt := by
      intro registers memory
      have ends := same.onProbe registers memory rfl rfl
      have value := congrFun (congrArg Machine.registers ends) rt
      rw [Machine.registers_write, if_neg target, Machine.read_slot _ target] at value
      exact value
    have wideLoad : wide' = true := by
      by_contra narrow
      rw [Bool.not_eq_true] at narrow
      have loadedBack := slot (fun _ => upperHalf) fun _ => 0#8
      rw [narrow] at loadedBack
      have bound : upperHalf.toNat < 2 ^ 32 := by
        rw [<- loadedBack]
        exact load_narrow _ _
      exact absurd bound (by decide)
    have wideStore : wide = true := by
      by_contra narrow
      rw [Bool.not_eq_true] at narrow
      have loadedBack := slot (fun _ => upperHalf) fun _ => 0#8
      rw [narrow, load_zero _ (store_upperHalf _ _)] at loadedBack
      exact absurd loadedBack (by decide)
    refine Or.inr ⟨⟨wideStore, wideLoad⟩, ?_⟩
    subst wideLoad wideStore
    have exact : offset = immediate.toNat := by
      rcases stored with ⟨_, _, equal⟩ | ⟨narrow, _⟩
      · exact equal
      · cases narrow
    cases operand with
    | bytes position =>
        rcases loaded with ⟨_, _, equal | ⟨narrow, _⟩⟩
        · rw [Operand.normal, equal, exact]
        · cases narrow
    | indexed index scaled =>
        rw [loaded.2] at exact
        subst exact
        by_cases zero : index = 31
        · rw [Operand.normal, if_pos zero]
          rfl
        · -- an index of 64 moves the load out of the bytes that were stored
          have loadedBack := slot (fun _ => 64#64) fun _ => 0#8
          rw [load_store_apart] at loadedBack
          · exact absurd loadedBack (by decide)
          · simp only [Machine.address, Machine.offset, probe, Machine.read, if_neg zero]
            cases scaled <;> decide
          · simp only [Machine.address, Machine.offset, probe, Machine.read, if_neg zero]
            cases scaled <;> decide
  · rintro harmless Outside processor machine
    simp only [List.map, LabelledRuns.sequence, perform]
    rcases harmless with rfl | ⟨⟨rfl, rfl⟩, place⟩
    · rfl
    · congr 1
      have normal : operand.normal = (Operand.bytes offset).normal := place
      have same : (machine.store true (machine.address rn (.bytes offset))
          (machine.read rt)).address rn operand = machine.address rn (.bytes offset) :=
        machine.address_normal normal rn
      rw [same, Machine.load_store]
      exact Machine.write_read _ rt

theorem Operand.Recorded.normal {wide : Bool} {immediate : Int} {operand : Operand}
    (recorded : operand.Recorded wide immediate) : operand.normal.Recorded wide immediate := by
  cases operand with
  | bytes offset => exact recorded
  | indexed index scaled =>
      by_cases zero : index = 31
      · rw [Operand.normal, if_pos zero]
        obtain ⟨_, rfl⟩ := recorded
        exact ⟨by decide, by decide, Or.inl rfl⟩
      · rw [Operand.normal, if_neg zero]
        exact recorded

theorem Operand.normal_index {operand : Operand} {index : Fin 32} {scaled : Bool}
    (normal : operand.normal = .indexed index scaled) : index ≠ 31 := by
  cases operand with
  | bytes offset => cases normal
  | indexed register scaled =>
      by_cases zero : register = 31
      · rw [Operand.normal, if_pos zero] at normal
        cases normal
      · rw [Operand.normal, if_neg zero] at normal
        injection normal with equal _
        exact fun other => zero (equal.trans other)

/-- A recorded number of bytes is small, and it is zero next to an index. -/
theorem Operand.Recorded.small {wide : Bool} {immediate : Int} {offset : Nat}
    (recorded : (Operand.bytes offset).Recorded wide immediate) : offset < 2 ^ 64 := by
  rcases recorded with ⟨_, _, rfl | ⟨_, rfl⟩⟩ <;> omega

theorem Operand.Recorded.zero {wide : Bool} {offset : Nat}
    (recorded : (Operand.bytes offset).Recorded wide 0) : offset = 0 := by
  rcases recorded with ⟨_, _, rfl | ⟨_, rfl⟩⟩ <;> rfl

/-- An index register that is not the zero register moves an access. -/
theorem offset_indexed_ne (index : Fin 32) (general : index ≠ 31) (scaled : Bool)
    (memory : ByteMemory.Memory 64) :
    (probe (fun _ => 1#64) memory).offset (.indexed index scaled) ≠
      (probe (fun _ => 1#64) memory).offset (.bytes 0) := by
  simp only [Machine.offset, Machine.read, if_neg general, probe]
  cases scaled <;> decide

/-- Offsets that agree for all register contents are the same offset. -/
theorem Operand.normal_eq {wide wide' : Bool} {immediate : Int} {operand operand' : Operand}
    (recorded : operand.Recorded wide immediate) (recorded' : operand'.Recorded wide' immediate)
    (agree : forall registers, (probe registers fun _ => 0#8).offset operand =
      (probe registers fun _ => 0#8).offset operand') : operand.normal = operand'.normal := by
  have recorded := recorded.normal
  have recorded' := recorded'.normal
  have agree : forall registers, (probe registers fun _ => 0#8).offset operand.normal =
      (probe registers fun _ => 0#8).offset operand'.normal := by
    intro registers
    rw [Machine.offset_normal, Machine.offset_normal]
    exact agree registers
  cases shape : operand.normal with
  | bytes offset =>
      rw [shape] at recorded agree
      cases shape' : operand'.normal with
      | bytes offset' =>
          rw [shape'] at recorded' agree
          have equal := congrArg BitVec.toNat (agree fun _ => 0#64)
          simp only [Machine.offset, BitVec.toNat_ofNat, Nat.mod_eq_of_lt recorded.small,
            Nat.mod_eq_of_lt recorded'.small] at equal
          rw [equal]
      | indexed index' scaled' =>
          rw [shape'] at recorded' agree
          rw [recorded'.2] at recorded
          rw [recorded.zero] at agree
          exact absurd (agree fun _ => 1#64).symm
            (offset_indexed_ne index' (Operand.normal_index shape') scaled' _)
  | indexed index scaled =>
      rw [shape] at recorded agree
      have general := Operand.normal_index shape
      cases shape' : operand'.normal with
      | bytes offset' =>
          rw [shape'] at recorded' agree
          rw [recorded.2] at recorded'
          rw [recorded'.zero] at agree
          exact absurd (agree fun _ => 1#64) (offset_indexed_ne index general scaled _)
      | indexed index' scaled' =>
          rw [shape'] at agree
          have general' := Operand.normal_index shape'
          have index_eq : index = index' := by
            by_contra different
            have equal := agree fun register => if register = index then 1#64 else 0#64
            simp only [Machine.offset, Machine.read, if_neg general, if_neg general', probe,
              if_true, if_neg (Ne.symm different), BitVec.zero_shiftLeft] at equal
            revert equal
            cases scaled <;> decide
          have scaled_eq : scaled = scaled' := by
            have equal := agree fun _ => 1#64
            simp only [Machine.offset, Machine.read, if_neg general, if_neg general',
              probe] at equal
            revert equal
            cases scaled <;> cases scaled' <;> decide
          rw [index_eq, scaled_eq]

theorem offset_cleared {wide : Bool} {operand : Operand} (recorded : operand.Recorded wide 0) :
    (probe (fun _ => 0#64) fun _ => 0#8).offset operand = 0#64 := by
  cases operand with
  | bytes offset => rw [recorded.zero, Machine.offset]
  | indexed index scaled =>
      by_cases zero : index = 31
      · rw [Machine.offset, zero, Machine.read_thirtyOne, BitVec.zero_shiftLeft]
      · rw [Machine.offset, Machine.read_slot _ zero]
        exact BitVec.zero_shiftLeft _

/-- Memory with a single one. -/
def spot (place : BitVec 64) : ByteMemory.Memory 64 :=
  fun address => if address = place then 1#8 else 0#8

theorem load_spot_low (machine : Machine Unit) {place : BitVec 64}
    (single : machine.memory = spot place) (wide : Bool) (address : BitVec 64) :
    (machine.load wide address).toNat % 256 = (spot place address).toNat := by
  have byte := ByteMemory.read_mod (spot place) address
    (show 0 < accessBytes wide by cases wide <;> decide)
  unfold Machine.load
  rw [single, BitVec.toNat_ofNat, Nat.mod_mod_of_dvd _ (by decide)]
  exact byte

/-- Two loads of one width that agree on a memory with a single one at the
address of the first have the same address. -/
theorem load_spot (machine machine' : Machine Unit) {wide : Bool} {address address' : BitVec 64}
    (single : machine.memory = spot address) (single' : machine'.memory = spot address)
    (same : machine.load wide address = machine'.load wide address') : address = address' := by
  have low := load_spot_low machine single wide address
  have low' := load_spot_low machine' single' wide address'
  rw [<- same, low] at low'
  by_contra different
  rw [spot, if_pos rfl, spot, if_neg (Ne.symm different)] at low'
  exact absurd low' (by decide)

theorem load_ones (machine : Machine Unit) (ones : machine.memory = fun _ => 1#8)
    (wide : Bool) (address : BitVec 64) :
    machine.load wide address = if wide then 0x0101010101010101#64 else 0x01010101#64 := by
  unfold Machine.load
  rw [ones, ByteMemory.read_constant 1#8 address 0#64]
  cases wide <;> decide

/-- A second load is a move of the first one's register if both access the same
bytes and the first changes neither the address nor the zero register. -/
theorem loadLoad_sameEffect_iff {wide wide' : Bool} {rt rt' rn : Fin 32}
    {operand operand' : Operand} {immediate : Int} (recorded : operand.Recorded wide immediate)
    (recorded' : operand'.Recorded wide' immediate) (apart : rt ≠ rn) :
    SameEffect [.ldr wide rt rn operand, .ldr wide' rt' rn operand']
        [.ldr wide rt rn operand, .orr true rt' rt] <->
      harmlessOperations [.ldr wide rt rn operand, .ldr wide' rt' rn operand'] = true := by
  unfold harmlessOperations
  simp only [Bool.or_eq_true, Bool.and_eq_true, beq_iff_eq, bne_iff_ne, Bool.not_eq_true']
  constructor
  · intro same
    by_cases target : rt' = 31
    · exact Or.inl target
    have second : forall registers memory (first : Machine Unit),
        first = (probe registers memory).write rt
          ((probe registers memory).load wide ((probe registers memory).address rn operand)) ->
        first.load wide' (first.address rn operand') = first.read rt := by
      intro registers memory first made
      have ends := same.onProbe registers memory rfl rfl
      have value := congrFun (congrArg Machine.registers ends) rt'
      rw [Machine.registers_write, Machine.registers_write, if_neg target, if_neg target,
        <- made] at value
      exact value
    have general : rt ≠ 31 := by
      rintro rfl
      have value := second (fun _ => 0#64) (fun _ => 1#8) _ rfl
      rw [Machine.write_thirtyOne, load_ones _ rfl, Machine.read_thirtyOne] at value
      revert value
      cases wide' <;> decide
    have loaded : forall registers memory (machine : Machine Unit) (word : BitVec 64),
        machine = probe registers memory -> word = machine.load wide (machine.address rn operand) ->
        (machine.set rt word).load wide' ((machine.set rt word).address rn operand') = word := by
      rintro registers memory machine word rfl rfl
      have value := second registers memory _ rfl
      rw [Machine.write_slot _ general, Machine.read_slot _ general, Machine.registers_set,
        if_pos rfl] at value
      exact value
    have widths : wide = wide' := by
      have value := loaded (fun _ => 0#64) (fun _ => 1#8) _ _ rfl rfl
      rw [load_ones _ rfl, load_ones _ rfl] at value
      revert value
      cases wide <;> cases wide' <;> decide
    subst widths
    -- on a memory with a single one the second load must find the first one's byte
    have offsets : forall registers, exists word : BitVec 64, word.toNat % 256 = 1 ∧
        (probe registers fun _ => 0#8).offset operand =
          ((probe registers fun _ => 0#8).set rt word).offset operand' := by
      intro registers
      let place := (probe registers fun _ => 0#8).address rn operand
      have value := loaded registers (spot place) _ _ rfl rfl
      have addresses := load_spot (probe registers (spot place)) _ rfl rfl value.symm
      refine ⟨(probe registers (spot place)).load wide place, ?_, ?_⟩
      · rw [load_spot_low _ rfl, spot, if_pos rfl]
        rfl
      · unfold Machine.address at addresses
        rw [Machine.registers_set, if_neg (Ne.symm apart)] at addresses
        exact (BitVec.add_right_inj _).mp addresses
    have still : operand'.reads rt = false := by
      by_contra reads
      rw [Bool.not_eq_false] at reads
      obtain ⟨word, odd, equal⟩ := offsets fun _ => 0#64
      unfold Operand.reads at reads
      cases shape : operand'.normal with
      | bytes offset =>
          rw [shape] at reads
          cases reads
      | indexed index scaled =>
          rw [shape] at reads
          have index_eq : index = rt := by simpa using reads
          have clear := recorded'.normal
          rw [shape] at clear
          rw [clear.2] at recorded
          rw [offset_cleared recorded, <- Machine.offset_normal, shape, index_eq,
            Machine.offset, Machine.read_slot _ general, Machine.registers_set, if_pos rfl] at equal
          have shifted := congrArg BitVec.toNat equal
          rw [BitVec.toNat_shiftLeft, Nat.shiftLeft_eq] at shifted
          cases scaled with
          | false =>
              change 0 = word.toNat * 2 ^ 0 % 2 ^ 64 at shifted
              omega
          | true =>
              change 0 = word.toNat * 2 ^ 3 % 2 ^ 64 at shifted
              omega
    refine Or.inr ⟨⟨⟨general, rfl⟩, ?_⟩, still⟩
    apply Operand.normal_eq recorded recorded'
    intro registers
    obtain ⟨word, _, equal⟩ := offsets registers
    rw [Machine.offset_set _ still] at equal
    exact equal
  · rintro harmless Outside processor machine
    simp only [List.map, LabelledRuns.sequence, perform]
    rcases harmless with rfl | ⟨⟨⟨general, rfl⟩, normal⟩, still⟩
    · rfl
    · rw [Machine.write_slot _ general, Machine.address_set _ apart still,
        Machine.read_slot _ general, Machine.registers_set, if_pos rfl, sized_wide, Machine.address_normal machine normal]
      rfl

theorem RecordedStore.small {wide : Bool} {immediate : Int} {offset : Nat}
    (recorded : RecordedStore wide immediate offset) : offset + 8 < 2 ^ 32 := by
  rcases recorded with ⟨_, _, rfl⟩ | ⟨_, rfl⟩ <;> omega

/-- Whether a byte lies in the bytes of an access from address zero on. -/
theorem offset_ofNat_lt {offset place count : Nat} (small : offset < 2 ^ 32)
    (near : place < 2 ^ 32) (short : count <= 8) :
    ByteMemory.offset (BitVec.ofNat 64 offset) (BitVec.ofNat 64 place) < count <->
      offset <= place ∧ place < offset + count := by
  unfold ByteMemory.offset
  bv_omega

/-- A store is dead if the next one includes all of its bytes. -/
theorem storeStore_sameEffect_iff {wide wide' : Bool} {rt rt' rn : Fin 32}
    {offset offset' : Nat} {immediate : Int} (recorded : RecordedStore wide immediate offset)
    (recorded' : RecordedStore wide' immediate offset') :
    SameEffect [.str wide rt rn offset, .str wide' rt' rn offset'] [.str wide' rt' rn offset'] <->
      harmlessOperations [.str wide rt rn offset, .str wide' rt' rn offset'] = true := by
  unfold harmlessOperations
  have small := recorded.small
  have small' := recorded'.small
  have short := accessBytes_le wide
  have short' := accessBytes_le wide'
  constructor
  · intro same
    have ends := same.onProbe (fun _ => 0#64) (fun _ => 255#8) rfl rfl
    -- every byte of the first store is cleared, so the second must clear it
    have cleared : forall place, offset <= place -> place < offset + accessBytes wide ->
        offset' <= place ∧ place < offset' + accessBytes wide' := by
      intro place low high
      have near : place < 2 ^ 32 := by omega
      have byte := congrFun (congrArg Machine.memory ends) (BitVec.ofNat 64 place)
      by_contra outside
      simp only [Machine.store, Machine.address, Machine.offset, probe, ByteMemory.write,
        BitVec.zero_add, offset_ofNat_lt (show offset < 2 ^ 32 by omega) near short,
        offset_ofNat_lt (show offset' < 2 ^ 32 by omega) near short', if_neg outside,
        if_pos (And.intro low high)] at byte
      have zero : (probe (fun _ => 0#64) fun _ => 255#8).read rt = 0#64 := by
        unfold Machine.read
        split <;> rfl
      unfold probe at zero
      rw [zero, ByteMemory.byteOf, BitVec.toNat_zero, Nat.zero_div] at byte
      exact absurd byte (by decide)
    have first := cleared offset (Nat.le_refl offset)
    have last := cleared (offset + accessBytes wide - 1)
    have positive : 0 < accessBytes wide := by cases wide <;> decide
    unfold covers
    rw [Bool.and_eq_true, decide_eq_true_eq, decide_eq_true_eq]
    omega
  · intro harmless Outside processor machine
    simp only [List.map, LabelledRuns.sequence, perform]
    congr 1
    exact machine.store_store _ _ (by omega) harmless

end Accesses

end Peephole
end NewBcpl
