import NewBcpl.Encoding.WideMoves
import NewBcpl.Linking.Relocations

namespace NewBcpl
namespace Encoding

open Peephole (RegisterName)
open Arm64 (Machine)
open Linking (RelocatedInstruction RuntimeManager performRelocations)

/-!
# Constants in registers

The sequences of wide moves that load a value: the short one for any value, the long one for an
address, a single `MOVZ`, and the truth value of a short-circuit `OR`. Their records carry no
relocation, so the linker leaves their words alone. They load the value, except that the truth
value is given shifts in slices where the encoder takes them in bits.
-/

/-! ## The sequences -/

/-- The loop of `create_movz_movk_abs64` over the chunks. -/
def movzMovkChunks (xd : RegisterName) (address : Word) :
    Bool -> List Nat -> Option (List Encoded)
  | _, [] => some []
  | isFirstInstruction, i :: rest =>
      if chunk address i ≠ 0#16 then do
        let shift := i * 16
        let instruction <-
          if isFirstInstruction then createMovzImm xd (chunk address i) shift
          else createMovkImm xd (chunk address i) shift
        let others <- movzMovkChunks xd address false rest
        some (instruction :: others)
      else movzMovkChunks xd address isFirstInstruction rest

/-- `Encoder::create_movz_movk_abs64`. -/
def createMovzMovkAbs64 (xd : RegisterName) (address : Word) : Option (List Encoded) :=
  if address = 0#64 then do
    let instruction <- createMovzImm xd 0#16 0
    some [instruction]
  else movzMovkChunks xd address true [0, 1, 2, 3]

/-- `Encoder::create_movz_movk_jit_addr`. -/
def createMovzMovkJitAddr (xd : RegisterName) (address : Word) : Option (List Encoded) := do
  let first <- createMovzImm xd (chunk address 0) 0
  let second <- createMovkImm xd (chunk address 1) 16
  let third <- createMovkImm xd (chunk address 2) 32
  let fourth <- createMovkImm xd (chunk address 3) 48
  some [first, second, third, fourth]

/-- The true case of `generate_short_circuit_or`, which loads -1. -/
def loadTrue (expressionResultReg : RegisterName) : Option (List Encoded) := do
  let first <- createMovzImm expressionResultReg 0xFFFF#16 0
  let second <- createMovkImm expressionResultReg 0xFFFF#16 1
  let third <- createMovkImm expressionResultReg 0xFFFF#16 2
  let fourth <- createMovkImm expressionResultReg 0xFFFF#16 3
  some [first, second, third, fourth]

/-- The loads of a constant. A literal is a `MOVZ` without a shift, as for small numbers,
characters, booleans and the constants of the optimizer. -/
inductive ConstantLoad where
  | abs64 (xd : RegisterName) (address : Word)
  | jitAddr (xd : RegisterName) (address : Word)
  | literal (xd : RegisterName) (immediate : BitVec 16)
  | shortCircuitTrue (expressionResultReg : RegisterName)
  deriving DecidableEq, Repr

namespace ConstantLoad

/-- The register that is named. -/
def destination : ConstantLoad -> RegisterName
  | abs64 xd _ | jitAddr xd _ | literal xd _ | shortCircuitTrue xd => xd

/-- The value that is meant. -/
def value : ConstantLoad -> Word
  | abs64 _ address | jitAddr _ address => address
  | literal _ immediate => immediate.setWidth 64
  | shortCircuitTrue _ => -1#64

/-- The instructions. -/
def instructions : ConstantLoad -> Option (List Encoded)
  | abs64 xd address => createMovzMovkAbs64 xd address
  | jitAddr xd address => createMovzMovkJitAddr xd address
  | literal xd immediate => do
      let instruction <- createMovzImm xd immediate 0
      some [instruction]
  | shortCircuitTrue xd => loadTrue xd

end ConstantLoad

/-- The records of instructions from an address on. -/
def placed : Word -> List Encoded -> List RelocatedInstruction
  | _, [] => []
  | address, instruction :: rest =>
      { encoding := instruction.encoding
        address := address
        relocation := .none
        targetLabel := "" } :: placed (address + 4#64) rest

/-- The words leave the value in the register and change nothing else. -/
def WordsLoad (words : List (BitVec 32)) (reg : Reg) (value : Word) : Prop :=
  forall machine, exists after, runWideMoves words machine = some after ∧
    Leaves machine reg.register value after

/-- The load is not rejected, and its instructions load the value before the relocation and
after it, whatever the labels are. -/
def ConstantLoad.LoadsExactly (load : ConstantLoad) : Prop :=
  exists instructions reg wide, load.instructions = some instructions ∧
    dataRegister load.destination = some (reg, wide) ∧
    WordsLoad (instructions.map Encoded.encoding) reg load.value ∧
    forall manager runtimeManager address, exists results,
      performRelocations manager runtimeManager (placed address instructions) = .ok results ∧
        WordsLoad (results.map RelocatedInstruction.encoding) reg load.value

/-- Where a constant is loaded: the destination is a register of a size that the sequence fits,
or the zero register for a zero. -/
def ConstantLoad.IsLoadable : ConstantLoad -> Prop
  | .abs64 xd address =>
      exists reg wide, dataRegister xd = some (reg, wide) ∧ (reg = .zero -> address = 0#64) ∧
        (wide = false -> address.toNat < 2 ^ 32)
  | .jitAddr xd address =>
      exists reg, dataRegister xd = some (reg, true) ∧ (reg = .zero -> address = 0#64)
  | .literal xd immediate =>
      exists reg wide, dataRegister xd = some (reg, wide) ∧ (reg = .zero -> immediate = 0#16)
  | .shortCircuitTrue _ => False

/-! ## The linker -/

/-- Records without a relocation are left alone. -/
theorem performRelocations_placed (manager : Linking.LabelManager) (runtimeManager : RuntimeManager)
    (instructions : List Encoded) (address : Word) :
    performRelocations manager runtimeManager (placed address instructions) =
      .ok (placed address instructions) := by
  induction instructions generalizing address with
  | nil => rfl
  | cons instruction rest hypothesis =>
      unfold placed performRelocations
      rw [hypothesis (address + 4#64)]
      rfl

/-- The words of the records. -/
theorem map_placed (instructions : List Encoded) (address : Word) :
    (placed address instructions).map RelocatedInstruction.encoding =
      instructions.map Encoded.encoding := by
  induction instructions generalizing address with
  | nil => rfl
  | cons instruction rest hypothesis =>
      unfold placed
      rw [List.map_cons, List.map_cons, hypothesis (address + 4#64)]

/-- A load is exact when its words are. -/
theorem ConstantLoad.loadsExactly_of_words {load : ConstantLoad} {instructions : List Encoded}
    {reg : Reg} {wide : Bool} (made : load.instructions = some instructions)
    (data : dataRegister load.destination = some (reg, wide))
    (words : WordsLoad (instructions.map Encoded.encoding) reg load.value) :
    load.LoadsExactly := by
  refine ⟨instructions, reg, wide, made, data, words, ?_⟩
  intro manager runtimeManager address
  refine ⟨_, performRelocations_placed manager runtimeManager instructions address, ?_⟩
  rw [map_placed]
  exact words

/-! ## Sequences of words -/

/-- A word before others. -/
theorem runWideMoves_cons {word : BitVec 32} {rest : List (BitVec 32)}
    {before middle : Machine}
    (first : (decode word).bind (performWideMove before) = some middle) :
    runWideMoves (word :: rest) before = runWideMoves rest middle := by
  rw [runWideMoves]
  cases decoded : decode word with
  | none =>
      rw [decoded] at first
      cases first
  | some operation =>
      rw [decoded, Option.bind_some] at first
      change (performWideMove before operation).bind (runWideMoves rest) = runWideMoves rest middle
      rw [first]
      rfl

/-- The zero register never has another value than zero. -/
theorem WordsLoad.value_of_zero {words : List (BitVec 32)} {value : Word}
    (loads : WordsLoad words .zero value) : value = 0#64 := by
  obtain ⟨_, _, leaves⟩ := loads
    { registers := fun _ => 0#64
      flags := ⟨false, false, false, false⟩
      memory := fun _ => 0#8
      calls := [] }
  exact leaves.value_of_zero

section

variable {xd : RegisterName} {reg : Reg} {wide : Bool}

/-- A register that is named and holds the value. -/
theorem stored_eq {value : Word} (zero : reg = .zero -> value = 0#64) :
    stored reg value = value := by
  unfold stored
  split
  · exact (zero ‹_›).symm
  · rfl

/-- A slice of a number of 32 bits. -/
theorem slice_of_nonzero {address : Word} (small : address.toNat < 2 ^ 32) {index : Nat}
    (nonzero : chunk address index ≠ 0#16) : index < 2 := by
  apply Nat.lt_of_not_le
  intro high
  apply nonzero
  have cleared : address >>> (16 * index) = 0#64 := by
    apply BitVec.eq_of_toNat_eq
    rw [BitVec.toNat_ushiftRight, Nat.shiftRight_eq_div_pow]
    apply Nat.div_eq_of_lt
    exact small.trans_le (Nat.pow_le_pow_right (by decide) (by omega))
  unfold chunk
  rw [cleared]
  rfl

/-- The loop over the remaining slices, by induction on their number: as long as no slice was
written they are all zero, and afterwards the register has the ones before. -/
theorem movzMovkChunks_loads {address : Word} (data : dataRegister xd = some (reg, wide))
    (fits : wide = false -> address.toNat < 2 ^ 32) (nonzero : address ≠ 0#64)
    (remaining : Nat) : forall (index : Nat) (isFirstInstruction : Bool), index + remaining = 4 ->
      (isFirstInstruction = true -> lowSlices address index = 0#64) ->
      exists instructions,
        movzMovkChunks xd address isFirstInstruction (List.range' index remaining) =
          some instructions ∧
        forall machine, (isFirstInstruction = false ->
            machine.read reg.register = stored reg (lowSlices address index)) ->
          exists after, runWideMoves (instructions.map Encoded.encoding) machine = some after ∧
            Leaves machine reg.register (stored reg address) after := by
  induction remaining with
  | zero =>
      intro index isFirstInstruction last first
      have four : index = 4 := last
      subst four
      rw [lowSlices_four] at first
      refine ⟨[], rfl, fun machine holds => ⟨machine, rfl, ?_⟩⟩
      cases isFirstInstruction with
      | true => exact absurd (first rfl) nonzero
      | false =>
          rw [lowSlices_four] at holds
          exact ⟨holds rfl, fun _ _ => rfl, rfl, rfl, rfl⟩
  | succ remaining hypothesis =>
      intro index isFirstInstruction last first
      rw [List.range'_succ]
      unfold movzMovkChunks
      by_cases zero : chunk address index = 0#16
      · rw [if_neg (not_not.mpr zero)]
        have same := lowSlices_succ_of_zero zero
        obtain ⟨instructions, made, loads⟩ := hypothesis (index + 1) isFirstInstruction (by omega)
          (fun isFirst => same.trans (first isFirst))
        refine ⟨instructions, made, fun machine holds => loads machine ?_⟩
        rw [same]
        exact holds
      · have slices : wide = false -> index < 2 := fun half => slice_of_nonzero (fits half) zero
        obtain ⟨others, madeOthers, loads⟩ := hypothesis (index + 1) false (by omega)
          Bool.noConfusion
        rw [if_pos zero, Nat.mul_comm index 16]
        cases isFirstInstruction with
        | true =>
            obtain ⟨encoded, made, runs⟩ := movz_leaves data (show index < 4 by omega) slices
              (first rfl)
            refine ⟨encoded :: others, ?_, fun machine _ => ?_⟩
            · simp only [if_true, made, madeOthers]
              rfl
            · obtain ⟨middle, ran, left⟩ := runs machine
              obtain ⟨after, ranOthers, right⟩ := loads middle fun _ => left.value
              exact ⟨after, (runWideMoves_cons ran).trans ranOthers, left.trans right⟩
        | false =>
            obtain ⟨encoded, made, runs⟩ := movk_leaves data (show index < 4 by omega) slices
              address
            refine ⟨encoded :: others, ?_, fun machine holds => ?_⟩
            · simp only [Bool.false_eq_true, if_false, made, madeOthers]
              rfl
            · obtain ⟨middle, ran, left⟩ := runs machine (holds rfl)
              obtain ⟨after, ranOthers, right⟩ := loads middle fun _ => left.value
              exact ⟨after, (runWideMoves_cons ran).trans ranOthers, left.trans right⟩

/-- An immediate is got back from its extension. -/
theorem setWidth_setWidth_immediate (immediate : BitVec 16) :
    (immediate.setWidth 64).setWidth 16 = immediate := by
  rw [BitVec.setWidth_setWidth_of_le _ (by decide), BitVec.setWidth_eq]

/-- A single `MOVZ`. -/
theorem movz_loads (data : dataRegister xd = some (reg, wide)) (immediate : BitVec 16) :
    exists encoded, createMovzImm xd immediate 0 = some encoded ∧
      WordsLoad [encoded.encoding] reg (stored reg (immediate.setWidth 64)) := by
  have cut := setWidth_setWidth_immediate immediate
  have whole : chunk (immediate.setWidth 64) 0 = immediate := by
    unfold chunk
    rw [Nat.mul_zero, BitVec.ushiftRight_zero, cut]
  have low : lowSlices (immediate.setWidth 64) 1 = immediate.setWidth 64 := by
    change ((immediate.setWidth 64).setWidth 16).setWidth 64 = immediate.setWidth 64
    rw [cut]
  obtain ⟨encoded, made, runs⟩ := movz_leaves data (show 0 < 4 by decide) (fun _ => by decide)
    (lowSlices_zero (immediate.setWidth 64))
  rw [whole] at made
  rw [low] at runs
  refine ⟨encoded, made, fun machine => ?_⟩
  obtain ⟨after, ran, leaves⟩ := runs machine
  exact ⟨after, runWideMoves_cons ran, leaves⟩

/-- The short sequence. -/
theorem createMovzMovkAbs64_loads {address : Word} (data : dataRegister xd = some (reg, wide))
    (fits : wide = false -> address.toNat < 2 ^ 32) :
    exists instructions, createMovzMovkAbs64 xd address = some instructions ∧
      WordsLoad (instructions.map Encoded.encoding) reg (stored reg address) := by
  unfold createMovzMovkAbs64
  by_cases zero : address = 0#64
  · obtain ⟨encoded, made, loads⟩ := movz_loads data 0#16
    rw [if_pos zero, made, zero]
    exact ⟨[encoded], rfl, loads⟩
  · rw [if_neg zero]
    obtain ⟨instructions, made, loads⟩ := movzMovkChunks_loads data fits zero 4 0 true rfl
      (fun _ => lowSlices_zero address)
    exact ⟨instructions, made, fun machine => loads machine Bool.noConfusion⟩

/-- The long sequence. -/
theorem createMovzMovkJitAddr_loads (data : dataRegister xd = some (reg, true)) (address : Word) :
    exists instructions, createMovzMovkJitAddr xd address = some instructions ∧
      WordsLoad (instructions.map Encoded.encoding) reg (stored reg address) := by
  obtain ⟨first, madeFirst, runFirst⟩ := movz_leaves data (show 0 < 4 by decide)
    Bool.noConfusion (lowSlices_zero address)
  obtain ⟨second, madeSecond, runSecond⟩ := movk_leaves data (show 1 < 4 by decide)
    Bool.noConfusion address
  obtain ⟨third, madeThird, runThird⟩ := movk_leaves data (show 2 < 4 by decide)
    Bool.noConfusion address
  obtain ⟨fourth, madeFourth, runFourth⟩ := movk_leaves data (show 3 < 4 by decide)
    Bool.noConfusion address
  refine ⟨[first, second, third, fourth], ?_, fun machine => ?_⟩
  · unfold createMovzMovkJitAddr
    rw [madeFirst, madeSecond, madeThird, madeFourth]
    rfl
  · obtain ⟨one, ranFirst, leftFirst⟩ := runFirst machine
    obtain ⟨two, ranSecond, leftSecond⟩ := runSecond one leftFirst.value
    obtain ⟨three, ranThird, leftThird⟩ := runThird two leftSecond.value
    obtain ⟨four, ranFourth, leftFourth⟩ := runFourth three leftThird.value
    rw [lowSlices_four] at leftFourth
    refine ⟨four, ?_, ((leftFirst.trans leftSecond).trans leftThird).trans leftFourth⟩
    calc runWideMoves [first.encoding, second.encoding, third.encoding, fourth.encoding] machine
        = runWideMoves [second.encoding, third.encoding, fourth.encoding] one :=
          runWideMoves_cons ranFirst
      _ = runWideMoves [third.encoding, fourth.encoding] two := runWideMoves_cons ranSecond
      _ = runWideMoves [fourth.encoding] three := runWideMoves_cons ranThird
      _ = some four := runWideMoves_cons ranFourth

end

/-! ## Where a constant is loaded -/

/-- A shift of one bit is rejected. -/
theorem loadTrue_eq_none (xd : RegisterName) : loadTrue xd = none := by
  unfold loadTrue
  have rejected : createMovkImm xd 0xFFFF#16 1 = none := rfl
  rw [rejected]
  cases createMovzImm xd 0xFFFF#16 0 with
  | none => rfl
  | some _ => rfl

/-- A sequence that a 32-bit register takes has no high slices. -/
theorem movzMovkChunks_narrow {xd : RegisterName} {reg : Reg}
    (data : dataRegister xd = some (reg, false)) {address : Word} :
    forall (indices : List Nat) (isFirstInstruction : Bool) (instructions : List Encoded),
      movzMovkChunks xd address isFirstInstruction indices = some instructions ->
        forall index, index ∈ indices -> index = 2 ∨ index = 3 -> chunk address index = 0#16 := by
  have rejected : forall (base : BitVec 32) (assembly : Assembly) (immediate : BitVec 16)
      (index : Nat), index = 2 ∨ index = 3 ->
        createMoveWide base assembly xd immediate (index * 16) = none := by
    intro base assembly immediate index high
    rcases high with rfl | rfl
    · exact createMoveWide_eq_none assembly data immediate (Or.inl rfl)
    · exact createMoveWide_eq_none assembly data immediate (Or.inr rfl)
  intro indices
  induction indices with
  | nil =>
      intro _ _ _ index inside
      cases inside
  | cons first rest hypothesis =>
      intro isFirstInstruction instructions made index inside high
      unfold movzMovkChunks at made
      split at made
      · have parts : exists base assembly instruction others,
            createMoveWide base assembly xd (chunk address first) (first * 16) =
              some instruction ∧ movzMovkChunks xd address false rest = some others := by
          cases isFirstInstruction with
          | true =>
              obtain ⟨instruction, encoded, made⟩ := Option.bind_eq_some_iff.mp made
              obtain ⟨others, madeOthers, _⟩ := Option.bind_eq_some_iff.mp made
              exact ⟨_, _, instruction, others, encoded, madeOthers⟩
          | false =>
              obtain ⟨instruction, encoded, made⟩ := Option.bind_eq_some_iff.mp made
              obtain ⟨others, madeOthers, _⟩ := Option.bind_eq_some_iff.mp made
              exact ⟨_, _, instruction, others, encoded, madeOthers⟩
        obtain ⟨base, assembly, instruction, others, encoded, madeOthers⟩ := parts
        rcases List.mem_cons.mp inside with rfl | later
        · cases (rejected base assembly _ _ high).symm.trans encoded
        · exact hypothesis false others madeOthers index later high
      · rename_i zero
        rcases List.mem_cons.mp inside with rfl | later
        · exact not_not.mp zero
        · exact hypothesis isFirstInstruction instructions made index later high

/-- A value without high slices has 32 bits. -/
theorem toNat_lt_of_chunks {address : Word} (third : chunk address 2 = 0#16)
    (fourth : chunk address 3 = 0#16) : address.toNat < 2 ^ 32 := by
  have low : lowSlices address 4 = lowSlices address 2 :=
    (lowSlices_succ_of_zero fourth).trans (lowSlices_succ_of_zero third)
  rw [lowSlices_four] at low
  rw [low]
  unfold lowSlices
  rw [BitVec.toNat_setWidth]
  exact (Nat.mod_le _ _).trans_lt (BitVec.isLt _)

/-- What is exact in a 32-bit register fits it. -/
theorem toNat_lt_of_abs64 {xd : RegisterName} {reg : Reg}
    (data : dataRegister xd = some (reg, false)) {address : Word} {instructions : List Encoded}
    (made : createMovzMovkAbs64 xd address = some instructions) : address.toNat < 2 ^ 32 := by
  unfold createMovzMovkAbs64 at made
  split at made
  · rename_i zero
    rw [zero]
    decide
  · have zeros := movzMovkChunks_narrow data [0, 1, 2, 3] true instructions made
    exact toNat_lt_of_chunks (zeros 2 (by decide) (Or.inl rfl)) (zeros 3 (by decide) (Or.inr rfl))

/-- The long sequence needs a 64-bit register. -/
theorem createMovzMovkJitAddr_narrow {xd : RegisterName} {reg : Reg}
    (data : dataRegister xd = some (reg, false)) (address : Word) :
    createMovzMovkJitAddr xd address = none := by
  have rejected : createMovkImm xd (chunk address 2) 32 = none :=
    createMoveWide_eq_none _ data _ (Or.inl rfl)
  unfold createMovzMovkJitAddr
  rw [rejected]
  cases createMovzImm xd (chunk address 0) 0 with
  | none => rfl
  | some _ =>
      cases createMovkImm xd (chunk address 1) 16 with
      | none => rfl
      | some _ => rfl

/-- A constant is loaded exactly when its destination takes it and it is not the truth value of
a short-circuit `OR`. -/
theorem loadsExactly_iff_isLoadable (load : ConstantLoad) :
    load.LoadsExactly <-> load.IsLoadable := by
  constructor
  · rintro ⟨instructions, reg, wide, made, data, words, _⟩
    have zero : reg = .zero -> load.value = 0#64 := by
      rintro rfl
      exact words.value_of_zero
    cases load with
    | abs64 xd address =>
        refine ⟨reg, wide, data, zero, ?_⟩
        rintro rfl
        exact toNat_lt_of_abs64 data made
    | jitAddr xd address =>
        cases wide with
        | true => exact ⟨reg, data, zero⟩
        | false =>
            cases (createMovzMovkJitAddr_narrow data address).symm.trans made
    | literal xd immediate =>
        refine ⟨reg, wide, data, fun isZero => ?_⟩
        have extended : immediate.setWidth 64 = 0#64 := zero isZero
        rw [← setWidth_setWidth_immediate immediate, extended]
        rfl
    | shortCircuitTrue xd => cases (loadTrue_eq_none xd).symm.trans made
  · intro loadable
    cases load with
    | abs64 xd address =>
        obtain ⟨reg, wide, data, zero, fits⟩ := loadable
        obtain ⟨instructions, made, loads⟩ := createMovzMovkAbs64_loads data fits
        rw [stored_eq zero] at loads
        exact ConstantLoad.loadsExactly_of_words made data loads
    | jitAddr xd address =>
        obtain ⟨reg, data, zero⟩ := loadable
        obtain ⟨instructions, made, loads⟩ := createMovzMovkJitAddr_loads data address
        rw [stored_eq zero] at loads
        exact ConstantLoad.loadsExactly_of_words made data loads
    | literal xd immediate =>
        obtain ⟨reg, wide, data, zero⟩ := loadable
        obtain ⟨encoded, made, loads⟩ := movz_loads data immediate
        rw [stored_eq (fun isZero => by rw [zero isZero]; rfl)] at loads
        have whole : (ConstantLoad.literal xd immediate).instructions = some [encoded] := by
          change (createMovzImm xd immediate 0).bind (fun instruction => some [instruction]) = _
          rw [made]
          rfl
        exact ConstantLoad.loadsExactly_of_words whole data loads
    | shortCircuitTrue xd => exact loadable.elim

/-- The truth value of a short-circuit `OR` is not loaded into `x9`. -/
theorem shortCircuitTrue_rejected :
    ¬ forall (load : ConstantLoad) (number : Fin 31),
      dataRegister load.destination = some (.general number, true) -> load.LoadsExactly := by
  intro every
  obtain ⟨_, _, _, made, _⟩ := every (.shortCircuitTrue (.x 9)) 9 rfl
  cases (loadTrue_eq_none (.x 9)).symm.trans made

end Encoding
end NewBcpl
