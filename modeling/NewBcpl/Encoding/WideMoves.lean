import NewBcpl.Encoding.MemoryOperands
import NewBcpl.Arm64.Machine

namespace NewBcpl
namespace Encoding

open Peephole (RegisterName parseRegister)
open Arm64 (Machine Register)

/-!
# Wide moves on the machine

What the words of `MOVZ` and `MOVK` do to a machine, and the invariant of a value that is
loaded slice by slice: the low slices are in place and the others are zero.
-/

/-! ## Execution -/

/-- The register of the machine. -/
def Reg.register : Reg -> Register
  | .general number => .x number
  | .stackPointer => .sp
  | .zero => .xzr

/-- What an instruction writes: one of 32 bits clears the upper half. -/
def sized (wide : Bool) (value : Word) : Word :=
  if wide then value else (value.setWidth 32).setWidth 64

/-- Where a slice of sixteen bits begins. -/
def sliceStart (slice : BitVec 2) : Nat := 16 * slice.toNat

/-- The wide moves. Other operations are not executed here. -/
def performWideMove (machine : Machine) : Operation -> Option Machine
  | .movz wide rd immediate slice =>
      some (machine.write rd.register (sized wide (immediate.setWidth 64 <<< sliceStart slice)))
  | .movk wide rd immediate slice =>
      some (machine.write rd.register (sized wide
        ((machine.read rd.register &&& ~~~(0xFFFF#64 <<< sliceStart slice)) |||
          immediate.setWidth 64 <<< sliceStart slice)))
  | _ => none

/-- The words one after the other. -/
def runWideMoves : List (BitVec 32) -> Machine -> Option Machine
  | [], machine => some machine
  | word :: rest, machine => do
      let operation <- decode word
      let next <- performWideMove machine operation
      runWideMoves rest next

/-- The register has the value afterwards, and nothing else has changed. -/
structure Leaves (before : Machine) (target : Register) (value : Word) (after : Machine) :
    Prop where
  value : after.read target = value
  registers : forall other, other ≠ target -> after.read other = before.read other
  memory : after.memory = before.memory
  flags : after.flags = before.flags
  calls : after.calls = before.calls

namespace Leaves

variable {before middle after : Machine} {target : Register} {first second value : Word}

/-- A later value replaces the earlier one. -/
theorem trans (left : Leaves before target first middle)
    (right : Leaves middle target second after) : Leaves before target second after where
  value := right.value
  registers := by
    intro other different
    rw [right.registers other different, left.registers other different]
  memory := right.memory.trans left.memory
  flags := right.flags.trans left.flags
  calls := right.calls.trans left.calls

/-- The zero register has the value zero. -/
theorem value_of_zero (leaves : Leaves before .xzr value after) : value = 0#64 := by
  rw [← leaves.value]
  rfl

end Leaves

/-- What a register has after a value is written to it. -/
def stored (reg : Reg) (value : Word) : Word := if reg = .zero then 0#64 else value

/-- A write. -/
theorem leaves_write (machine : Machine) (reg : Reg) (value : Word) :
    Leaves machine reg.register (stored reg value) (machine.write reg.register value) where
  value := by
    cases reg with
    | general number => exact Machine.read_write_same machine value Register.noConfusion
    | stackPointer => exact Machine.read_write_same machine value Register.noConfusion
    | zero => rfl
  registers := by
    intro other different
    exact Machine.read_write_other machine value different
  memory := rfl
  flags := rfl
  calls := rfl

/-! ## Slices -/

/-- A slice of a value. -/
def chunk (value : Word) (index : Nat) : BitVec 16 := (value >>> (16 * index)).setWidth 16

/-- The low slices of a value. -/
def lowSlices (value : Word) (count : Nat) : Word := (value.setWidth (16 * count)).setWidth 64

theorem getLsbD_lowSlices (value : Word) (count : Nat) {place : Nat} (inside : place < 64) :
    (lowSlices value count).getLsbD place =
      (decide (place < 16 * count) && value.getLsbD place) := by
  unfold lowSlices
  rw [BitVec.getLsbD_setWidth, BitVec.getLsbD_setWidth, decide_eq_true inside, Bool.true_and]

/-- Four slices are the value. -/
theorem lowSlices_four (value : Word) : lowSlices value 4 = value := by
  apply BitVec.eq_of_getLsbD_eq
  intro place inside
  rw [getLsbD_lowSlices value 4 inside, decide_eq_true (show place < 16 * 4 from inside),
    Bool.true_and]

/-- No slice is zero. -/
theorem lowSlices_zero (value : Word) : lowSlices value 0 = 0#64 := by
  apply BitVec.eq_of_getLsbD_eq
  intro place inside
  rw [getLsbD_lowSlices value 0 inside, BitVec.getLsbD_zero,
    decide_eq_false (show ¬ place < 16 * 0 by omega), Bool.false_and]

/-- The bits of a slice in its place. -/
theorem getLsbD_chunk_shiftLeft (value : Word) (index : Nat) {place : Nat} (inside : place < 64) :
    ((chunk value index).setWidth 64 <<< (16 * index)).getLsbD place =
      (decide (16 * index <= place ∧ place < 16 * (index + 1)) && value.getLsbD place) := by
  unfold chunk
  rw [BitVec.getLsbD_shiftLeft, BitVec.getLsbD_setWidth, BitVec.getLsbD_setWidth,
    BitVec.getLsbD_ushiftRight, decide_eq_true inside, Bool.true_and]
  by_cases before : place < 16 * index
  · rw [decide_eq_true before,
      decide_eq_false (show ¬ (16 * index <= place ∧ place < 16 * (index + 1)) by omega)]
    rfl
  · rw [decide_eq_false before, decide_eq_true (show place - 16 * index < 64 by omega),
      show 16 * index + (place - 16 * index) = place by omega]
    by_cases within : place < 16 * (index + 1)
    · rw [decide_eq_true (show place - 16 * index < 16 by omega),
        decide_eq_true (show 16 * index <= place ∧ place < 16 * (index + 1) by omega)]
      rfl
    · rw [decide_eq_false (show ¬ place - 16 * index < 16 by omega),
        decide_eq_false (show ¬ (16 * index <= place ∧ place < 16 * (index + 1)) by omega)]
      rfl

/-- The bits of the slice that `MOVK` clears. -/
theorem getLsbD_sliceMask (index : Nat) {place : Nat} (inside : place < 64) :
    (0xFFFF#64 <<< (16 * index)).getLsbD place =
      decide (16 * index <= place ∧ place < 16 * (index + 1)) := by
  have mask : 0xFFFF#64 = BitVec.ofNat 64 (2 ^ 16 - 1) := rfl
  rw [BitVec.getLsbD_shiftLeft, mask, BitVec.getLsbD_ofNat, Nat.testBit_two_pow_sub_one,
    decide_eq_true inside, Bool.true_and]
  by_cases before : place < 16 * index
  · rw [decide_eq_true before,
      decide_eq_false (show ¬ (16 * index <= place ∧ place < 16 * (index + 1)) by omega)]
    rfl
  · rw [decide_eq_false before, decide_eq_true (show place - 16 * index < 64 by omega),
      Bool.true_and, Bool.not_false, Bool.true_and, decide_eq_decide]
    omega

/-- `MOVK` puts the next slice in its place. -/
theorem lowSlices_succ (value : Word) (index : Nat) :
    (lowSlices value index &&& ~~~(0xFFFF#64 <<< (16 * index))) |||
        (chunk value index).setWidth 64 <<< (16 * index) = lowSlices value (index + 1) := by
  apply BitVec.eq_of_getLsbD_eq
  intro place inside
  rw [BitVec.getLsbD_or, BitVec.getLsbD_and, BitVec.getLsbD_not,
    getLsbD_sliceMask index inside, getLsbD_chunk_shiftLeft value index inside,
    getLsbD_lowSlices value index inside, getLsbD_lowSlices value (index + 1) inside,
    decide_eq_true inside]
  by_cases before : place < 16 * index
  · rw [decide_eq_true before, decide_eq_true (show place < 16 * (index + 1) by omega),
      decide_eq_false (show ¬ (16 * index <= place ∧ place < 16 * (index + 1)) by omega)]
    simp
  · have same : (16 * index <= place ∧ place < 16 * (index + 1)) = (place < 16 * (index + 1)) :=
      propext ⟨And.right, fun within => ⟨Nat.le_of_not_lt before, within⟩⟩
    simp [before, same]

/-- A slice that is zero adds nothing. -/
theorem lowSlices_succ_of_zero {value : Word} {index : Nat} (zero : chunk value index = 0#16) :
    lowSlices value (index + 1) = lowSlices value index := by
  apply BitVec.eq_of_getLsbD_eq
  intro place inside
  have bits := getLsbD_chunk_shiftLeft value index inside
  rw [zero, BitVec.setWidth_zero, BitVec.zero_shiftLeft, BitVec.getLsbD_zero] at bits
  rw [getLsbD_lowSlices value index inside, getLsbD_lowSlices value (index + 1) inside]
  by_cases before : place < 16 * index
  · rw [decide_eq_true before, decide_eq_true (show place < 16 * (index + 1) by omega)]
  · have same : (16 * index <= place ∧ place < 16 * (index + 1)) = (place < 16 * (index + 1)) :=
      propext ⟨And.right, fun within => ⟨Nat.le_of_not_lt before, within⟩⟩
    simp only [same] at bits
    rw [decide_eq_false before, ← bits]
    rfl

/-- Two slices fit a register of 32 bits. -/
theorem sized_lowSlices {wide : Bool} {count : Nat} (fits : wide = false -> count <= 2)
    (value : Word) : sized wide (lowSlices value count) = lowSlices value count := by
  cases wide with
  | true => rfl
  | false =>
      have short := fits rfl
      apply BitVec.eq_of_getLsbD_eq
      intro place inside
      change (((lowSlices value count).setWidth 32).setWidth 64).getLsbD place = _
      rw [BitVec.getLsbD_setWidth, BitVec.getLsbD_setWidth, decide_eq_true inside,
        getLsbD_lowSlices value count inside]
      by_cases lower : place < 32
      · rw [decide_eq_true lower]
        rfl
      · rw [decide_eq_false lower, decide_eq_false (show ¬ place < 16 * count by omega)]
        rfl

/-! ## One instruction -/

/-- A register that is moved has a number. -/
theorem parseMovedRegister_eq {xd : RegisterName} {reg : Reg} {wide : Bool}
    (data : dataRegister xd = some (reg, wide)) :
    exists number, parseMovedRegister xd = some (number, wide) ∧
      Reg.orZero (BitVec.ofNat 5 number.val) = reg := by
  obtain ⟨number, parsed⟩ := parse_of_data data
  obtain ⟨named, reads⟩ := readsAs_of_parse parsed
  have general : namesStackPointer xd = false := by
    cases xd with
    | sp => cases data
    | wsp => cases data
    | x _ => rfl
    | w _ => rfl
    | d _ => rfl
    | v _ => rfl
    | xzr => rfl
    | wzr => rfl
  have same := reads.data general
  rw [data] at same
  refine ⟨number, ?_, (congrArg Prod.fst (Option.some.inj same)).symm⟩
  cases xd with
  | sp => cases general
  | wsp => cases general
  | x _ => exact parsed
  | w _ => exact parsed
  | d _ => exact parsed
  | v _ => exact parsed
  | xzr => exact parsed
  | wzr => exact parsed

section

variable {xd : RegisterName} {reg : Reg} {wide : Bool} {index : Nat}

/-- The word of a slice, and its operation. -/
theorem createMoveWide_eq {base : BitVec 32} (fam : family.read base = 0b100101#6)
    (narrow : sf.read base = 0#1) (assembly : Assembly)
    (data : dataRegister xd = some (reg, wide)) (slice : index < 4)
    (fits : wide = false -> index < 2) (immediate : BitVec 16) :
    exists encoded, createMoveWide base assembly xd immediate (16 * index) = some encoded ∧
      decode encoded.encoding =
        match (opc.read base).toNat with
        | 2 => some (.movz wide reg immediate (BitVec.ofNat 2 index))
        | 3 => some (.movk wide reg immediate (BitVec.ofNat 2 index))
        | _ => none := by
  obtain ⟨number, parsed, read⟩ := parseMovedRegister_eq data
  have shifts : ¬ (16 * index ≠ 0 ∧ 16 * index ≠ 16 ∧ 16 * index ≠ 32 ∧ 16 * index ≠ 48) := by
    omega
  have sizes : ¬ (wide = false ∧ (16 * index = 32 ∨ 16 * index = 48)) := by
    rintro ⟨half, large⟩
    have below := fits half
    omega
  have decoded := decode_moveWideWord fam narrow wide (show 16 * index < 64 by omega)
    (fun half => Nat.mul_lt_mul_of_pos_left (fits half) (by decide)) immediate number
  rw [read, Nat.mul_div_cancel_left index (by decide)] at decoded
  refine ⟨{ encoding := moveWideWord base wide (16 * index) immediate number
            assembly := assembly }, ?_, decoded⟩
  unfold createMoveWide
  rw [if_neg shifts, parsed]
  exact if_neg sizes

/-- A 32-bit register has no third and no fourth slice. -/
theorem createMoveWide_eq_none {base : BitVec 32} (assembly : Assembly)
    (data : dataRegister xd = some (reg, false)) (immediate : BitVec 16) {shift : Nat}
    (high : shift = 32 ∨ shift = 48) :
    createMoveWide base assembly xd immediate shift = none := by
  obtain ⟨number, parsed, _⟩ := parseMovedRegister_eq data
  unfold createMoveWide
  rcases high with rfl | rfl
  · rw [if_neg (by decide), parsed]
    rfl
  · rw [if_neg (by decide), parsed]
    rfl

/-- `MOVZ` with a slice, when the lower slices are zero. -/
theorem movz_leaves (data : dataRegister xd = some (reg, wide)) (slice : index < 4)
    (fits : wide = false -> index < 2) {value : Word} (lower : lowSlices value index = 0#64) :
    exists encoded, createMovzImm xd (chunk value index) (16 * index) = some encoded ∧
      forall machine, exists after,
        (decode encoded.encoding).bind (performWideMove machine) = some after ∧
          Leaves machine reg.register (stored reg (lowSlices value (index + 1))) after := by
  obtain ⟨encoded, made, decoded⟩ := @createMoveWide_eq xd reg wide index 0x52800000#32
    (by decide) (by decide) (.movz xd (chunk value index) (16 * index)) data slice fits
    (chunk value index)
  have operation : decode encoded.encoding =
      some (.movz wide reg (chunk value index) (BitVec.ofNat 2 index)) := decoded
  have start : sliceStart (BitVec.ofNat 2 index) = 16 * index := by
    unfold sliceStart
    rw [BitVec.toNat_ofNat, Nat.mod_eq_of_lt slice]
  have moved : (chunk value index).setWidth 64 <<< (16 * index) = lowSlices value (index + 1) := by
    have joined := lowSlices_succ value index
    rw [lower, BitVec.zero_and, BitVec.zero_or] at joined
    exact joined
  refine ⟨encoded, made, fun machine => ?_⟩
  rw [operation, Option.bind_some]
  refine ⟨_, rfl, ?_⟩
  rw [start, moved, sized_lowSlices (fun half => show index + 1 <= 2 from fits half)]
  exact leaves_write machine reg _

/-- `MOVK` with a slice, when the lower slices are in the register. -/
theorem movk_leaves (data : dataRegister xd = some (reg, wide)) (slice : index < 4)
    (fits : wide = false -> index < 2) (value : Word) :
    exists encoded, createMovkImm xd (chunk value index) (16 * index) = some encoded ∧
      forall machine, machine.read reg.register = stored reg (lowSlices value index) ->
        exists after,
          (decode encoded.encoding).bind (performWideMove machine) = some after ∧
            Leaves machine reg.register (stored reg (lowSlices value (index + 1))) after := by
  obtain ⟨encoded, made, decoded⟩ := @createMoveWide_eq xd reg wide index 0x72800000#32
    (by decide) (by decide) (.movk xd (chunk value index) (16 * index)) data slice fits
    (chunk value index)
  have operation : decode encoded.encoding =
      some (.movk wide reg (chunk value index) (BitVec.ofNat 2 index)) := decoded
  have start : sliceStart (BitVec.ofNat 2 index) = 16 * index := by
    unfold sliceStart
    rw [BitVec.toNat_ofNat, Nat.mod_eq_of_lt slice]
  refine ⟨encoded, made, fun machine holds => ?_⟩
  rw [operation, Option.bind_some]
  refine ⟨_, rfl, ?_⟩
  by_cases zero : reg = .zero
  · have written := leaves_write machine reg (sized wide
      ((machine.read reg.register &&& ~~~(0xFFFF#64 <<< sliceStart (BitVec.ofNat 2 index))) |||
        (chunk value index).setWidth 64 <<< sliceStart (BitVec.ofNat 2 index)))
    unfold stored at written ⊢
    rw [if_pos zero] at written ⊢
    exact written
  · have low : machine.read reg.register = lowSlices value index := by
      rw [holds]
      exact if_neg zero
    rw [start, low, lowSlices_succ,
      sized_lowSlices (fun half => show index + 1 <= 2 from fits half)]
    exact leaves_write machine reg _

end

end Encoding
end NewBcpl
