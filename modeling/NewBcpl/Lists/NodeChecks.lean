import NewBcpl.Lists.ListDataTypes

namespace NewBcpl
namespace Lists

open Foundations Arm64

/-!
# The inline code of the type checks

What `visit(FunctionCall&)` emits for AS_INT, AS_FLOAT, AS_STRING and AS_LIST and what
`visit(UnaryOp&)` emits for TYPEOF, once the pointer to the node is in a register. The
check loads eight bytes where the type of a node has four, so it sees the pad as well.
-/

/-- The instructions of the checks: those of integer code, a load into a floating-point
register, and the breakpoint. -/
inductive NodeInstruction where
  | integer (instruction : Instruction)
  | ldrFloat (dest : Fin 32) (base : Register) (offset : Int)
  | brk (code : Nat)
  deriving DecidableEq, Repr

/-- The machine with its floating-point registers, or a breakpoint that was reached. -/
inductive Outcome where
  | running (machine : Machine) (floats : Fin 32 -> Word)
  | trapped (code : Nat)

namespace Outcome

/-- One instruction; nothing runs behind a breakpoint. -/
def perform (callees : Callees) : NodeInstruction -> Outcome -> Outcome
  | _, trapped code => trapped code
  | .integer instruction, running machine floats =>
      running (Arm64.perform callees instruction machine) floats
  | .ldrFloat dest base offset, running machine floats =>
      running machine
        (Function.update floats dest (machine.load (machine.read base + BitVec.ofInt 64 offset)))
  | .brk code, running _ _ => trapped code

def holds (condition : Condition) : Outcome -> Bool
  | running machine _ => condition.holds machine.flags
  | trapped _ => false

end Outcome

abbrev NodeCode : Type := List (LabelledCode.Item NodeInstruction Condition String)

/-- The code from a state on. -/
def runNodeCode (callees : Callees) (code : NodeCode) (machine : Machine)
    (floats : Fin 32 -> Word) : LabelledCode.Control Outcome String :=
  LabelledCode.run { perform := Outcome.perform callees, holds := Outcome.holds } code
    (.running (.running machine floats))

/-- The intrinsics that read an element. -/
inductive Cast where
  | asInt | asFloat | asString | asList
  deriving DecidableEq, Repr

namespace Cast

/-- The type that a node must have. -/
def expectedTag : Cast -> Nat
  | asInt => atomInt
  | asFloat => atomFloat
  | asString => atomString
  | asList => atomListPointer

end Cast

/-- The registers of a check. The one of the result is taken after the one of the tag was
released. -/
structure CheckRegisters where
  pointer : Fin 31
  tag : Fin 31
  result : Fin 31
  floatResult : Fin 32
  apart : tag ≠ pointer

section Emission

variable (registers : CheckRegisters)

/-- The load of the value behind the check. -/
def loadValue : Cast -> NodeCode
  | .asList => [.operation (.integer (.ldr (.x registers.result) (.x registers.pointer) 8))]
  | .asString =>
      [.operation (.integer (.ldr (.x registers.result) (.x registers.pointer) 8)),
        .operation (.integer (.addImm (.x registers.result) (.x registers.result) 8))]
  | .asFloat => [.operation (.ldrFloat registers.floatResult (.x registers.pointer) 8)]
  | .asInt => [.operation (.integer (.ldr (.x registers.result) (.x registers.pointer) 8))]

/-- AS_INT, AS_FLOAT, AS_STRING and AS_LIST. -/
def checkedCast (goodType : String) (cast : Cast) : NodeCode :=
  [.operation (.integer (.ldr (.x registers.tag) (.x registers.pointer) 0)),
    .operation (.integer (.cmpImm (.x registers.tag) cast.expectedTag)),
    .branchIf .eq goodType, .operation (.brk 1), .label goodType] ++
    loadValue registers cast

/-- TYPEOF; the result is in the scratch register. -/
def typeOf : NodeCode :=
  [.operation (.integer (.ldrWord (.x registers.result) (.x registers.pointer) 0))]

end Emission

section Runs

variable (callees : Callees) (registers : CheckRegisters) (machine : Machine)
  (floats : Fin 32 -> Word)

/-- The load of the value reaches no breakpoint. -/
theorem loadValue_running (cast : Cast) :
    exists machine' floats', runNodeCode callees (loadValue registers cast) machine floats =
      .running (.running machine' floats') := by
  cases cast <;> exact ⟨_, _, rfl⟩

/-- A check traps exactly if the eight bytes at the pointer are not the expected tag. -/
theorem checkedCast_traps_iff (goodType : String) (cast : Cast) :
    runNodeCode callees (checkedCast registers goodType cast) machine floats =
        .running (.trapped 1) <->
      machine.load (machine.read (.x registers.pointer)) ≠ BitVec.ofNat 64 cast.expectedTag := by
  have address : machine.read (.x registers.pointer) + BitVec.ofInt 64 0 =
      machine.read (.x registers.pointer) := BitVec.add_zero _
  let loaded := perform callees (.ldr (.x registers.tag) (.x registers.pointer) 0) machine
  let compared := loaded.setFlags
    (compareFlags (loaded.read (.x registers.tag)) (BitVec.ofNat 64 cast.expectedTag))
  have isTag : loaded.read (.x registers.tag) =
      machine.load (machine.read (.x registers.pointer)) := by
    rw [<- address]
    exact Machine.read_write_same machine _ (by exact Register.noConfusion)
  have zero : Condition.eq.holds compared.flags =
      (machine.load (machine.read (.x registers.pointer)) ==
        BitVec.ofNat 64 cast.expectedTag) := by
    rw [Machine.flags_setFlags, eq_holds, isTag]
  have begins : runNodeCode callees (checkedCast registers goodType cast) machine floats =
      LabelledCode.run { perform := Outcome.perform callees, holds := Outcome.holds }
        (.branchIf .eq goodType :: .operation (.brk 1) :: .label goodType ::
          loadValue registers cast) (.running (.running compared floats)) := rfl
  rw [begins, LabelledCode.run_cons]
  by_cases equal : machine.load (machine.read (.x registers.pointer)) =
      BitVec.ofNat 64 cast.expectedTag
  · have taken : Outcome.holds .eq (.running compared floats) = true := by
      rw [Outcome.holds, zero, equal]
      exact beq_self_eq_true _
    rw [LabelledCode.step_branchIf_taken _ taken, LabelledCode.run_cons,
      LabelledCode.step_seeking_operation, LabelledCode.run_cons, LabelledCode.step_label_found]
    refine iff_of_false ?_ (fun different => different equal)
    rcases loadValue_running callees registers compared floats cast with
      ⟨machine', floats', runs⟩
    intro traps
    rw [runNodeCode] at runs
    rw [runs] at traps
    cases LabelledCode.Control.running_inj traps
  · have passed : Outcome.holds .eq (.running compared floats) = false := by
      rw [Outcome.holds, zero]
      exact beq_false_of_ne equal
    rw [LabelledCode.step_branchIf_passed _ passed]
    refine iff_of_true ?_ equal
    cases cast <;> rfl

/-- The result of TYPEOF is the zero-extended type. -/
theorem typeOf_result :
    exists after, runNodeCode callees (typeOf registers) machine floats =
        .running (.running after floats) ∧
      after.read (.x registers.result) =
        machine.loadWord (machine.read (.x registers.pointer)) := by
  have address : machine.read (.x registers.pointer) + BitVec.ofInt 64 0 =
      machine.read (.x registers.pointer) := BitVec.add_zero _
  refine ⟨_, rfl, ?_⟩
  rw [<- address]
  exact Machine.read_write_same machine _ (by exact Register.noConfusion)

end Runs

/-- The type and the pad of a node in memory. -/
structure TypeAt (memory : ByteMemory.Memory 64) (address : Word) (type pad : BitVec 32) :
    Prop where
  type : ByteMemory.read memory address 4 = type.toNat
  pad : ByteMemory.read memory (address + 4#64) 4 = pad.toNat

/-- The eight bytes that a check loads. -/
theorem TypeAt.load {machine : Machine} {address : Word} {type pad : BitVec 32}
    (typeAt : TypeAt machine.memory address type pad) :
    (machine.load address).toNat = type.toNat + 2 ^ 32 * pad.toNat := by
  have parts := ByteMemory.read_add machine.memory address 4 4
  have typeBound := type.isLt
  have padBound := pad.isLt
  rw [typeAt.type, show BitVec.ofNat 64 4 = 4#64 from rfl, typeAt.pad] at parts
  rw [Machine.load, BitVec.toNat_ofNat, show (8 : Nat) = 4 + 4 from rfl, parts]
  rw [Nat.mod_eq_of_lt (by omega)]
  rfl

theorem expectedTag_lt (cast : Cast) : cast.expectedTag < 2 ^ 32 := by
  cases cast <;> decide

/-- The loaded word is the expected tag exactly if the pad is zero and the type is right. -/
theorem TypeAt.load_eq_iff {machine : Machine} {address : Word} {type pad : BitVec 32}
    (typeAt : TypeAt machine.memory address type pad) (cast : Cast) :
    machine.load address = BitVec.ofNat 64 cast.expectedTag <->
      pad = 0#32 ∧ type = BitVec.ofNat 32 cast.expectedTag := by
  have small := expectedTag_lt cast
  have typeBound := type.isLt
  rw [<- BitVec.toNat_inj, <- BitVec.toNat_inj, <- BitVec.toNat_inj, typeAt.load,
    BitVec.toNat_ofNat, BitVec.toNat_ofNat, BitVec.toNat_ofNat, Nat.mod_eq_of_lt (by omega),
    Nat.mod_eq_of_lt small]
  omega

/-- Eight bytes that spell a type and a pad. -/
theorem typeAt_of_read {memory : ByteMemory.Memory 64} {address : Word} {type pad : BitVec 32}
    (spelled : ByteMemory.read memory address 8 = type.toNat + 2 ^ 32 * pad.toNat) :
    TypeAt memory address type pad := by
  have parts := ByteMemory.read_add memory address 4 4
  have low := ByteMemory.read_lt memory address 4
  have typeBound := type.isLt
  rw [show (4 + 4 : Nat) = 8 from rfl, spelled, show BitVec.ofNat 64 4 = 4#64 from rfl] at parts
  constructor <;> omega

/-- What the checks and TYPEOF must do on a node with the given type and pad, wherever it
is and whatever the rest of the machine is. -/
structure ChecksType (type pad : BitVec 32) : Prop where
  casts : forall (callees : Callees) (registers : CheckRegisters) (goodType : String)
    (cast : Cast) (machine : Machine) (floats : Fin 32 -> Word),
    TypeAt machine.memory (machine.read (.x registers.pointer)) type pad ->
      (runNodeCode callees (checkedCast registers goodType cast) machine floats =
          .running (.trapped 1) <-> type ≠ BitVec.ofNat 32 cast.expectedTag)
  typeOf : forall (callees : Callees) (registers : CheckRegisters) (machine : Machine)
    (floats : Fin 32 -> Word),
    TypeAt machine.memory (machine.read (.x registers.pointer)) type pad ->
      exists after, runNodeCode callees (typeOf registers) machine floats =
          .running (.running after floats) ∧
        after.read (.x registers.result) = type.setWidth 64

/-- A pad of zero is enough. -/
theorem checksType_of_clear (type : BitVec 32) : ChecksType type 0#32 where
  casts callees registers goodType cast machine floats typeAt := by
    rw [checkedCast_traps_iff, ne_eq, typeAt.load_eq_iff cast]
    exact not_congr (and_iff_right rfl)
  typeOf callees registers machine floats typeAt := by
    rcases typeOf_result callees registers machine floats with ⟨after, runs, result⟩
    refine ⟨after, runs, result.trans ?_⟩
    rw [Machine.loadWord, typeAt.type]
    exact BitVec.ofNat_toNat 64 type

/-- A machine with a node at address zero. -/
def machineAt (type pad : BitVec 32) : Machine where
  registers _ := 0#64
  flags := ⟨false, false, false, false⟩
  memory := ByteMemory.write (fun _ => 0#8) 0#64 8 (type.toNat + 2 ^ 32 * pad.toNat)
  calls := []

theorem machineAt_typeAt (type pad : BitVec 32) : TypeAt (machineAt type pad).memory 0#64 type pad := by
  have typeBound := type.isLt
  have padBound := pad.isLt
  apply typeAt_of_read
  rw [machineAt, ByteMemory.read_write_same _ _ _ (by decide), Nat.mod_eq_of_lt (by omega)]

/-- On a node with one of the types, nothing else is. -/
theorem checksType_iff (cast : Cast) (pad : BitVec 32) :
    ChecksType (BitVec.ofNat 32 cast.expectedTag) pad <-> pad = 0#32 := by
  constructor
  · intro checks
    by_contra padded
    let registers : CheckRegisters := ⟨0, 1, 2, 0, by decide⟩
    have typeAt := machineAt_typeAt (BitVec.ofNat 32 cast.expectedTag) pad
    have traps := checks.casts (fun _ machine => machine) registers "good" cast
      (machineAt (BitVec.ofNat 32 cast.expectedTag) pad) (fun _ => 0#64) typeAt
    rw [checkedCast_traps_iff] at traps
    refine traps.mp ?_ rfl
    intro equal
    exact padded ((typeAt.load_eq_iff cast).mp equal).1
  · rintro rfl
    exact checksType_of_clear _

end Lists
end NewBcpl
