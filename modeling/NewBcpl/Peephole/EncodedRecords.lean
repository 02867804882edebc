import NewBcpl.Peephole.PeepholeOptimizer
import NewBcpl.Peephole.WindowEffects

namespace NewBcpl
namespace Peephole

/-!
# What the records of encoded instructions say

The fields that the patterns decide from, next to the word of the same record.
-/

section Constructors

/-! ## Constructors -/

theorem createMovReg_some {xd xn : RegisterName} {i : Instruction}
    (made : createMovReg xd xn = some i) :
    exists wide rd rn text, i =
      { operation := .orr wide rd rn, assemblyText := text, opcode := .mov,
        destReg := recorded rd, srcReg1 := recorded rn } := by
  simp only [createMovReg, Option.bind_eq_bind, Option.bind_eq_some_iff] at made
  obtain ⟨⟨rd, wide⟩, _, ⟨rn, _⟩, _, made⟩ := made
  split at made
  · cases made
  · injection made with equal
    exact ⟨_, _, _, _, equal.symm⟩

theorem createImmediateArithmetic_some {mnemonic : String} {opcode : OpType}
    {operation : Bool -> Fin 32 -> Fin 32 -> Nat -> Operation} {xd xn : RegisterName}
    {immediate : Int} {i : Instruction}
    (made : createImmediateArithmetic mnemonic opcode operation xd xn immediate = some i) :
    exists wide rd rn text, i =
      { operation := operation wide rd rn immediate.toNat, assemblyText := text,
        opcode := opcode, destReg := recorded rd, srcReg1 := recorded rn,
        immediate := immediate, usesImmediate := true } := by
  unfold createImmediateArithmetic at made
  split at made
  · cases made
  · simp only [Option.bind_eq_bind, Option.bind_eq_some_iff] at made
    obtain ⟨⟨rd, wide⟩, _, ⟨rn, _⟩, _, made⟩ := made
    split at made
    · cases made
    · injection made with equal
      exact ⟨_, _, _, _, equal.symm⟩

theorem createAddLiteral_some {xd xn : RegisterName} {name : String} {i : Instruction}
    (made : createAddLiteral xd xn name = some i) :
    exists rd rn text, i =
      { operation := .other text, assemblyText := text, opcode := .add, destReg := recorded rd,
        srcReg1 := recorded rn, usesImmediate := true, targetLabel := name } := by
  simp only [createAddLiteral, Option.bind_eq_bind, Option.bind_eq_some_iff] at made
  obtain ⟨⟨rd, _⟩, _, ⟨rn, _⟩, _, made⟩ := made
  split at made
  · injection made with equal
    exact ⟨_, _, _, equal.symm⟩
  · cases made

theorem createRegisterArithmetic_some {mnemonic : String} {opcode : OpType}
    {parse : RegisterName -> Option (Fin 32 × Bool)}
    {operation : String -> Bool -> Fin 32 -> Fin 32 -> Fin 32 -> Operation}
    {xd xn xm : RegisterName} {i : Instruction}
    (made : createRegisterArithmetic mnemonic opcode parse operation xd xn xm = some i) :
    exists meaning rd rn rm text, i =
      { operation := meaning, assemblyText := text, opcode := opcode, destReg := recorded rd,
        srcReg1 := recorded rn, srcReg2 := recorded rm } := by
  simp only [createRegisterArithmetic, Option.bind_eq_bind, Option.bind_eq_some_iff] at made
  obtain ⟨⟨rd, _⟩, _, ⟨rn, _⟩, _, ⟨rm, _⟩, _, made⟩ := made
  split at made
  · injection made with equal
    exact ⟨_, _, _, _, _, equal.symm⟩
  · cases made

theorem optCreateAddShiftedReg_some {rd rn rm : RegisterName} {shift : Shift} {amount : Int}
    {i : Instruction} (made : optCreateAddShiftedReg rd rn rm shift amount = some i) :
    exists wide rdNum rnNum rmNum text, i =
      { operation := .addShifted wide rdNum rnNum rmNum shift amount.toNat,
        assemblyText := text, opcode := .add, destReg := recorded rdNum,
        srcReg1 := recorded rnNum, srcReg2 := recorded rmNum, immediate := amount,
        usesImmediate := true } := by
  simp only [optCreateAddShiftedReg, Option.bind_eq_bind, Option.bind_eq_some_iff] at made
  obtain ⟨rdNum, _, rnNum, _, rmNum, _, made⟩ := made
  split at made
  · cases made
  · split at made
    · cases made
    · injection made with equal
      exact ⟨_, _, _, _, _, equal.symm⟩

theorem createCmpImm_some {xn : RegisterName} {immediate : Int} {i : Instruction}
    (made : createCmpImm xn immediate = some i) :
    exists rn text, i =
      { operation := .other text, assemblyText := text, opcode := .cmp, srcReg1 := recorded rn,
        immediate := immediate, usesImmediate := true } := by
  unfold createCmpImm at made
  split at made
  · cases made
  · simp only [Option.bind_eq_bind, Option.bind_eq_some_iff] at made
    obtain ⟨⟨rn, _⟩, _, made⟩ := made
    injection made with equal
    exact ⟨_, _, equal.symm⟩

theorem createCmpReg_some {xn xm : RegisterName} {i : Instruction}
    (made : createCmpReg xn xm = some i) :
    exists rn rm text, i =
      { operation := .other text, assemblyText := text, opcode := .cmp, srcReg1 := recorded rn,
        srcReg2 := recorded rm } := by
  simp only [createCmpReg, Option.bind_eq_bind, Option.bind_eq_some_iff] at made
  obtain ⟨⟨rn, _⟩, _, ⟨rm, _⟩, _, made⟩ := made
  split at made
  · cases made
  · injection made with equal
    exact ⟨_, _, _, equal.symm⟩

theorem scaledOffset_some {wide : Bool} {immediate : Int} {offset : Nat}
    (fits : scaledOffset wide immediate = some offset) :
    0 <= immediate ∧ immediate <= 32760 ∧ offset = immediate.toNat := by
  unfold scaledOffset at fits
  cases wide with
  | false =>
      simp only [accessBytes, Bool.false_eq_true, if_false] at fits
      split at fits
      · cases fits
      · injection fits with equal
        omega
  | true =>
      simp only [accessBytes, if_true] at fits
      split at fits
      · cases fits
      · injection fits with equal
        omega

theorem createLdrImm_some {xt xn : RegisterName} {immediate : Int} {name : String}
    {i : Instruction} (made : createLdrImm xt xn immediate name = some i) :
    exists wide rt rn offset text, scaledOffset wide immediate = some offset ∧ i =
      { operation := .ldr wide rt rn (.bytes offset), assemblyText := text, opcode := .ldr,
        destReg := recorded rt, baseReg := recorded rn, immediate := immediate,
        usesImmediate := true } := by
  simp only [createLdrImm, Option.bind_eq_bind, Option.bind_eq_some_iff] at made
  obtain ⟨⟨rt, wide⟩, _, ⟨rn, _⟩, _, made⟩ := made
  split at made
  · cases made
  · rw [Option.bind_eq_some_iff] at made
    obtain ⟨offset, fits, made⟩ := made
    injection made with equal
    exact ⟨_, _, _, _, _, fits, equal.symm⟩

theorem createLdrWordImm_some {wt xn : RegisterName} {immediate : Int} {i : Instruction}
    (made : createLdrWordImm wt xn immediate = some i) :
    exists rt rn text, (0 <= immediate ∧ immediate <= 4095) ∧ i =
      { operation := .ldr false rt rn (.bytes (immediate.toNat * accessBytes false)),
        assemblyText := text, opcode := .ldr, destReg := recorded rt, baseReg := recorded rn,
        immediate := immediate, usesImmediate := true } := by
  unfold createLdrWordImm at made
  split at made
  · cases made
  · rename_i inside
    simp only [Option.bind_eq_bind, Option.bind_eq_some_iff] at made
    obtain ⟨⟨rt, _⟩, _, ⟨rn, _⟩, _, made⟩ := made
    split at made
    · cases made
    · injection made with equal
      exact ⟨_, _, _, by omega, equal.symm⟩

theorem createLdrScaledReg64bit_some {xt xn xm : RegisterName} {shift : Int} {i : Instruction}
    (made : createLdrScaledReg64bit xt xn xm shift = some i) :
    exists rt rn rm scaled text, i =
      { operation := .ldr true rt rn (.indexed rm scaled), assemblyText := text,
        opcode := .ldr, destReg := recorded rt, baseReg := recorded rn,
        srcReg1 := recorded rm } := by
  unfold createLdrScaledReg64bit at made
  split at made
  · cases made
  · simp only [Option.bind_eq_bind, Option.bind_eq_some_iff] at made
    obtain ⟨⟨rt, _⟩, _, ⟨rn, _⟩, _, ⟨rm, _⟩, _, made⟩ := made
    split at made
    · injection made with equal
      exact ⟨_, _, _, _, _, equal.symm⟩
    · cases made

theorem createStrImm_some {xt xn : RegisterName} {immediate : Int} {name : String}
    {i : Instruction} (made : createStrImm xt xn immediate name = some i) :
    exists wide rt rn offset text, scaledOffset wide immediate = some offset ∧ i =
      { operation := .str wide rt rn offset, assemblyText := text, opcode := .str,
        srcReg1 := recorded rt, baseReg := recorded rn, immediate := immediate,
        usesImmediate := true } := by
  simp only [createStrImm, Option.bind_eq_bind, Option.bind_eq_some_iff] at made
  obtain ⟨⟨rt, wide⟩, _, ⟨rn, _⟩, _, made⟩ := made
  split at made
  · cases made
  · rw [Option.bind_eq_some_iff] at made
    obtain ⟨offset, fits, made⟩ := made
    injection made with equal
    exact ⟨_, _, _, _, _, fits, equal.symm⟩

theorem createStrWordImm_some {wt xn : RegisterName} {immediate : Int} {i : Instruction}
    (made : createStrWordImm wt xn immediate = some i) :
    exists rt rn text, i =
      { operation := .str false rt rn ((immediate % 4096).toNat * accessBytes false),
        assemblyText := text, opcode := .str, srcReg1 := recorded rt, baseReg := recorded rn,
        immediate := immediate, usesImmediate := true } := by
  simp only [createStrWordImm, Option.bind_eq_bind, Option.bind_eq_some_iff] at made
  obtain ⟨rt, _, rn, _, made⟩ := made
  injection made with equal
  exact ⟨_, _, _, equal.symm⟩

theorem createAdrp_some {xd : RegisterName} {name : String} {i : Instruction}
    (made : createAdrp xd name = some i) :
    exists rd text, i =
      { operation := .other text, assemblyText := text, opcode := .adrp,
        destReg := recorded rd, targetLabel := name } := by
  unfold createAdrp at made
  split at made
  · split at made
    · cases made
    · simp only [Option.bind_eq_bind, Option.bind_eq_some_iff] at made
      obtain ⟨rd, _, made⟩ := made
      injection made with equal
      exact ⟨_, _, equal.symm⟩
  · cases made

end Constructors

section Numbers

/-! ## Recorded numbers -/

theorem recorded_injective {first second : Fin 32} (same : recorded first = recorded second) :
    first = second := by
  unfold recorded at same
  apply Fin.ext
  omega

theorem areSameRegister_recorded (first second : Fin 32) :
    areSameRegister (recorded first) (recorded second) = (first == second) := by
  have bound := first.isLt
  have bound' := second.isLt
  unfold areSameRegister recorded
  rw [if_neg (by omega), Bool.eq_iff_iff, beq_iff_eq, beq_iff_eq, Fin.ext_iff]
  omega

theorem getRegisterName_recorded (number : Fin 32) :
    getRegisterName (recorded number) = some (.x number.val) := by
  have bound := number.isLt
  unfold getRegisterName recorded
  rw [if_pos (by omega), Int.toNat_natCast]

/-- The 64-bit move that the patterns create. -/
def wideMove (rd rn : Fin 32) : Instruction :=
  { operation := .orr true rd rn
    assemblyText := "MOV " ++ (RegisterName.x rd.val).spelling ++ ", " ++
      (RegisterName.x rn.val).spelling
    opcode := .mov
    destReg := recorded rd
    srcReg1 := recorded rn }

theorem registerNumber_val (number : Fin 32) : registerNumber number.val = some number := by
  unfold registerNumber
  rw [dif_pos number.isLt]

theorem createMovReg_wide (rd rn : Fin 32) :
    createMovReg (.x rd.val) (.x rn.val) = some (wideMove rd rn) := by
  simp only [createMovReg, parseRegister, registerNumber_val, Option.map_some,
    Option.bind_eq_bind, Option.bind_some, ne_eq, not_true_eq_false, if_false]
  rfl

end Numbers

/-- The words that are recorded as an addition or subtraction of zero. -/
inductive ZeroAddition (rd rn : Fin 32) : Operation -> Prop
  | addImm (wide : Bool) : ZeroAddition rd rn (.addImm wide rd rn 0)
  | subImm (wide : Bool) : ZeroAddition rd rn (.subImm wide rd rn 0)
  | addShifted (wide : Bool) (rm : Fin 32) (shift : Shift) :
      ZeroAddition rd rn (.addShifted wide rd rn rm shift 0)
  | literal (assembly : String) : ZeroAddition rd rn (.other assembly)

/-- What the patterns can learn from a record, and the word behind it. -/
inductive Shape (i : Instruction) : Prop
  | move (wide : Bool) (rd rn : Fin 32) (opcode : i.opcode = .mov)
      (operation : i.operation = .orr wide rd rn) (dest : i.destReg = recorded rd)
      (source : i.srcReg1 = recorded rn)
  | framePointer (opcode : i.opcode = .mov) (apart : i.destReg ≠ i.srcReg1)
  | arithmetic (rd rn : Fin 32) (opcode : i.opcode = .add ∨ i.opcode = .sub)
      (dest : i.destReg = recorded rd) (source : i.srcReg1 = recorded rn)
      (operation : i.immediate = 0 -> ZeroAddition rd rn i.operation)
  | registers (rd : Fin 32) (opcode : i.opcode = .add ∨ i.opcode = .sub)
      (dest : i.destReg = recorded rd) (noImmediate : i.usesImmediate = false)
  | load (wide : Bool) (rt rn : Fin 32) (operand : Operand) (opcode : i.opcode = .ldr)
      (operation : i.operation = .ldr wide rt rn operand) (dest : i.destReg = recorded rt)
      (base : i.baseReg = recorded rn) (index : i.srcReg2 = -1)
      (offset : operand.Recorded wide i.immediate)
  | store (wide : Bool) (rt rn : Fin 32) (position : Nat) (opcode : i.opcode = .str)
      (operation : i.operation = .str wide rt rn position) (source : i.srcReg1 = recorded rt)
      (base : i.baseReg = recorded rn) (offset : RecordedStore wide i.immediate position)
  | comparison (assembly : String) (opcode : i.opcode = .cmp)
      (operation : i.operation = .other assembly)
  | quiet (opcode : i.opcode ∉ [OpType.mov, .add, .sub, .ldr, .str, .cmp])

namespace FromEncoder

variable {i : Instruction}

theorem shape (encoded : FromEncoder i) : Shape i := by
  cases encoded with
  | movReg made =>
      obtain ⟨wide, rd, rn, _, rfl⟩ := createMovReg_some made
      exact .move wide rd rn rfl rfl rfl rfl
  | movFpSp => exact .framePointer rfl (by decide)
  | movSpFp => exact .framePointer rfl (by decide)
  | addImm made =>
      obtain ⟨wide, rd, rn, _, rfl⟩ := createImmediateArithmetic_some made
      refine .arithmetic rd rn (Or.inl rfl) rfl rfl ?_
      rintro rfl
      exact .addImm wide
  | subImm made =>
      obtain ⟨wide, rd, rn, _, rfl⟩ := createImmediateArithmetic_some made
      refine .arithmetic rd rn (Or.inr rfl) rfl rfl ?_
      rintro rfl
      exact .subImm wide
  | addLiteral made =>
      obtain ⟨rd, rn, text, rfl⟩ := createAddLiteral_some made
      exact .arithmetic rd rn (Or.inl rfl) rfl rfl fun _ => .literal text
  | addReg made =>
      obtain ⟨_, rd, _, _, _, rfl⟩ := createRegisterArithmetic_some made
      exact .registers rd (Or.inl rfl) rfl rfl
  | subReg made =>
      obtain ⟨_, rd, _, _, _, rfl⟩ := createRegisterArithmetic_some made
      exact .registers rd (Or.inr rfl) rfl rfl
  | addShiftedReg made =>
      obtain ⟨wide, rd, rn, rm, _, rfl⟩ := optCreateAddShiftedReg_some made
      refine .arithmetic rd rn (Or.inl rfl) rfl rfl ?_
      rintro rfl
      exact .addShifted wide rm _
  | cmpImm made =>
      obtain ⟨_, text, rfl⟩ := createCmpImm_some made
      exact .comparison text rfl rfl
  | cmpReg made =>
      obtain ⟨_, _, text, rfl⟩ := createCmpReg_some made
      exact .comparison text rfl rfl
  | ldrImm made =>
      obtain ⟨wide, rt, rn, position, _, fits, rfl⟩ := createLdrImm_some made
      obtain ⟨low, high, equal⟩ := scaledOffset_some fits
      exact .load wide rt rn (.bytes position) rfl rfl rfl rfl rfl ⟨low, high, Or.inl equal⟩
  | ldrWordImm made =>
      obtain ⟨rt, rn, _, bounds, rfl⟩ := createLdrWordImm_some made
      refine .load false rt rn _ rfl rfl rfl rfl rfl ⟨bounds.1, ?_, Or.inr ⟨rfl, rfl⟩⟩
      exact Int.le_trans bounds.2 (by decide)
  | ldrScaledReg64bit made =>
      obtain ⟨rt, rn, rm, scaled, _, rfl⟩ := createLdrScaledReg64bit_some made
      exact .load true rt rn (.indexed rm scaled) rfl rfl rfl rfl rfl ⟨rfl, rfl⟩
  | strImm made =>
      obtain ⟨wide, rt, rn, position, _, fits, rfl⟩ := createStrImm_some made
      exact .store wide rt rn position rfl rfl rfl rfl (Or.inl (scaledOffset_some fits))
  | strWordImm made =>
      obtain ⟨rt, rn, _, rfl⟩ := createStrWordImm_some made
      exact .store false rt rn _ rfl rfl rfl rfl (Or.inr ⟨rfl, rfl⟩)
  | adrp made =>
      obtain ⟨_, _, rfl⟩ := createAdrp_some made
      exact .quiet (by simp)
  | branchUnconditional name => exact .quiet (by simp [createBranchUnconditional])
  | branchConditional condition name => exact .quiet (by simp [createBranchConditional])
  | label name segment => exact .quiet (by simp [Instruction.asLabel])
  | relocatableData name segment => exact .quiet (by simp [Instruction.asRelocatableData])
  | unasked opcode _ =>
      refine .quiet fun member => ?_
      simp only [List.mem_cons, List.not_mem_nil, or_false] at member
      rcases member with equal | equal | equal | equal | equal | equal <;>
        rw [equal] at opcode <;> cases opcode

/-- An addition or subtraction that is recorded with an immediate. -/
theorem arithmetic (encoded : FromEncoder i) (opcode : i.opcode = .add ∨ i.opcode = .sub)
    (uses : i.usesImmediate = true) :
    exists rd rn, i.destReg = recorded rd ∧ i.srcReg1 = recorded rn ∧
      (i.immediate = 0 -> ZeroAddition rd rn i.operation) := by
  have other : forall opcode', i.opcode = opcode' -> opcode' = .add ∨ opcode' = .sub :=
    fun opcode' equal => equal ▸ opcode
  cases encoded.shape with
  | arithmetic rd rn _ dest source operation => exact ⟨rd, rn, dest, source, operation⟩
  | registers _ _ _ noImmediate =>
      rw [noImmediate] at uses
      cases uses
  | move _ _ _ equal => exact absurd (other _ equal) (by decide)
  | framePointer equal _ => exact absurd (other _ equal) (by decide)
  | load _ _ _ _ equal => exact absurd (other _ equal) (by decide)
  | store _ _ _ _ equal => exact absurd (other _ equal) (by decide)
  | comparison _ equal _ => exact absurd (other _ equal) (by decide)
  | quiet absent => rcases opcode with equal | equal <;> simp [equal] at absent

/-- The destination of an addition. -/
theorem sum (encoded : FromEncoder i) (opcode : i.opcode = .add) :
    exists rd, i.destReg = recorded rd := by
  cases encoded.shape with
  | arithmetic rd _ _ dest _ _ => exact ⟨rd, dest⟩
  | registers rd _ dest _ => exact ⟨rd, dest⟩
  | move _ _ _ equal => rw [opcode] at equal; cases equal
  | framePointer equal _ => rw [opcode] at equal; cases equal
  | load _ _ _ _ equal => rw [opcode] at equal; cases equal
  | store _ _ _ _ equal => rw [opcode] at equal; cases equal
  | comparison _ equal _ => rw [opcode] at equal; cases equal
  | quiet absent => rw [opcode] at absent; simp at absent

/-- A move that is recorded with one register as both operands. -/
theorem selfMove (encoded : FromEncoder i) (opcode : i.opcode = .mov)
    (same : i.destReg = i.srcReg1) : exists wide register,
      i.operation = .orr wide register register := by
  cases encoded.shape with
  | move wide rd rn _ operation dest source =>
      rw [dest, source] at same
      rw [recorded_injective same] at operation
      exact ⟨wide, rn, operation⟩
  | framePointer _ apart => exact absurd same apart
  | arithmetic _ _ equal => rw [opcode] at equal; simp at equal
  | registers _ equal _ _ => rw [opcode] at equal; simp at equal
  | load _ _ _ _ equal => rw [opcode] at equal; cases equal
  | store _ _ _ _ equal => rw [opcode] at equal; cases equal
  | comparison _ equal _ => rw [opcode] at equal; cases equal
  | quiet absent => rw [opcode] at absent; simp at absent

/-- A load. -/
theorem load (encoded : FromEncoder i) (opcode : i.opcode = .ldr) :
    exists wide rt rn operand, i.operation = .ldr wide rt rn operand ∧
      i.destReg = recorded rt ∧ i.baseReg = recorded rn ∧ i.srcReg2 = -1 ∧
      operand.Recorded wide i.immediate := by
  cases encoded.shape with
  | load wide rt rn operand _ operation dest base index offset =>
      exact ⟨wide, rt, rn, operand, operation, dest, base, index, offset⟩
  | move _ _ _ equal => rw [opcode] at equal; cases equal
  | framePointer equal _ => rw [opcode] at equal; cases equal
  | arithmetic _ _ equal => rw [opcode] at equal; simp at equal
  | registers _ equal _ _ => rw [opcode] at equal; simp at equal
  | store _ _ _ _ equal => rw [opcode] at equal; cases equal
  | comparison _ equal _ => rw [opcode] at equal; cases equal
  | quiet absent => rw [opcode] at absent; simp at absent

/-- A store. -/
theorem store (encoded : FromEncoder i) (opcode : i.opcode = .str) :
    exists wide rt rn position, i.operation = .str wide rt rn position ∧
      i.srcReg1 = recorded rt ∧ i.baseReg = recorded rn ∧
      RecordedStore wide i.immediate position := by
  cases encoded.shape with
  | store wide rt rn position _ operation source base offset =>
      exact ⟨wide, rt, rn, position, operation, source, base, offset⟩
  | move _ _ _ equal => rw [opcode] at equal; cases equal
  | framePointer equal _ => rw [opcode] at equal; cases equal
  | arithmetic _ _ equal => rw [opcode] at equal; simp at equal
  | registers _ equal _ _ => rw [opcode] at equal; simp at equal
  | load _ _ _ _ equal => rw [opcode] at equal; cases equal
  | comparison _ equal _ => rw [opcode] at equal; cases equal
  | quiet absent => rw [opcode] at absent; simp at absent

/-- A comparison. -/
theorem comparison (encoded : FromEncoder i) (opcode : i.opcode = .cmp) :
    exists assembly, i.operation = .other assembly := by
  cases encoded.shape with
  | comparison assembly _ operation => exact ⟨assembly, operation⟩
  | move _ _ _ equal => rw [opcode] at equal; cases equal
  | framePointer equal _ => rw [opcode] at equal; cases equal
  | arithmetic _ _ equal => rw [opcode] at equal; simp at equal
  | registers _ equal _ _ => rw [opcode] at equal; simp at equal
  | load _ _ _ _ equal => rw [opcode] at equal; cases equal
  | store _ _ _ _ equal => rw [opcode] at equal; cases equal
  | quiet absent => rw [opcode] at absent; simp at absent

/-- No constructor sets the target that branch chaining follows, and the
records that patterns ask for are not labels. -/
theorem plain (encoded : FromEncoder i) :
    i.branchTarget = "" ∧ (i.opcode.asked = true -> i.isLabelDefinition = false) := by
  cases encoded with
  | movReg made =>
      obtain ⟨_, _, _, _, rfl⟩ := createMovReg_some made
      exact ⟨rfl, fun _ => rfl⟩
  | movFpSp => exact ⟨rfl, fun _ => rfl⟩
  | movSpFp => exact ⟨rfl, fun _ => rfl⟩
  | addImm made =>
      obtain ⟨_, _, _, _, rfl⟩ := createImmediateArithmetic_some made
      exact ⟨rfl, fun _ => rfl⟩
  | subImm made =>
      obtain ⟨_, _, _, _, rfl⟩ := createImmediateArithmetic_some made
      exact ⟨rfl, fun _ => rfl⟩
  | addLiteral made =>
      obtain ⟨_, _, _, rfl⟩ := createAddLiteral_some made
      exact ⟨rfl, fun _ => rfl⟩
  | addReg made =>
      obtain ⟨_, _, _, _, _, rfl⟩ := createRegisterArithmetic_some made
      exact ⟨rfl, fun _ => rfl⟩
  | subReg made =>
      obtain ⟨_, _, _, _, _, rfl⟩ := createRegisterArithmetic_some made
      exact ⟨rfl, fun _ => rfl⟩
  | addShiftedReg made =>
      obtain ⟨_, _, _, _, _, rfl⟩ := optCreateAddShiftedReg_some made
      exact ⟨rfl, fun _ => rfl⟩
  | cmpImm made =>
      obtain ⟨_, _, rfl⟩ := createCmpImm_some made
      exact ⟨rfl, fun _ => rfl⟩
  | cmpReg made =>
      obtain ⟨_, _, _, rfl⟩ := createCmpReg_some made
      exact ⟨rfl, fun _ => rfl⟩
  | ldrImm made =>
      obtain ⟨_, _, _, _, _, _, rfl⟩ := createLdrImm_some made
      exact ⟨rfl, fun _ => rfl⟩
  | ldrWordImm made =>
      obtain ⟨_, _, _, _, rfl⟩ := createLdrWordImm_some made
      exact ⟨rfl, fun _ => rfl⟩
  | ldrScaledReg64bit made =>
      obtain ⟨_, _, _, _, _, rfl⟩ := createLdrScaledReg64bit_some made
      exact ⟨rfl, fun _ => rfl⟩
  | strImm made =>
      obtain ⟨_, _, _, _, _, _, rfl⟩ := createStrImm_some made
      exact ⟨rfl, fun _ => rfl⟩
  | strWordImm made =>
      obtain ⟨_, _, _, rfl⟩ := createStrWordImm_some made
      exact ⟨rfl, fun _ => rfl⟩
  | adrp made =>
      obtain ⟨_, _, rfl⟩ := createAdrp_some made
      exact ⟨rfl, fun _ => rfl⟩
  | branchUnconditional name => exact ⟨rfl, fun _ => rfl⟩
  | branchConditional condition name => exact ⟨rfl, fun _ => rfl⟩
  | label name segment => exact ⟨rfl, nofun⟩
  | relocatableData name segment => exact ⟨rfl, fun _ => rfl⟩
  | unasked quiet target =>
      refine ⟨target, fun asked => ?_⟩
      rw [quiet] at asked
      cases asked

end FromEncoder

end Peephole
end NewBcpl
