import NewBcpl.Arm64.Machine
import NewBcpl.Foundations.LabelledRuns

namespace NewBcpl
namespace Peephole

open Foundations

/-!
# What the encoded words do

The words that a pattern may remove or create, with the register numbers,
widths and offsets that stand in their encodings. Register 31 is the stack
pointer in the operands of an immediate addition and in base registers, and the
zero register everywhere else. A 32-bit result is extended with zeros. All
other words are kept by their assembly text and given a meaning by a processor.
-/

/-- The shifts of a register operand. -/
inductive Shift where
  | lsl | lsr | asr
  deriving DecidableEq, Repr

/-- The offset of a load: a number of bytes, or an index register that is
scaled by eight or not at all. -/
inductive Operand where
  | bytes (offset : Nat)
  | indexed (index : Fin 32) (scaled : Bool)
  deriving DecidableEq, Repr

/-- The meaning of an encoded word. -/
inductive Operation where
  | addImm (wide : Bool) (rd rn : Fin 32) (immediate : Nat)
  | subImm (wide : Bool) (rd rn : Fin 32) (immediate : Nat)
  | addShifted (wide : Bool) (rd rn rm : Fin 32) (shift : Shift) (amount : Nat)
  | orr (wide : Bool) (rd rm : Fin 32)
  | ldr (wide : Bool) (rt rn : Fin 32) (operand : Operand)
  | str (wide : Bool) (rt rn : Fin 32) (offset : Nat)
  | other (assembly : String)
  deriving DecidableEq, Repr

/-- The general registers, with the stack pointer in slot 31, the flags, the
memory, and whatever lies outside what the patterns' words touch. -/
structure Machine (Outside : Type) where
  registers : Fin 32 -> BitVec 64
  flags : Arm64.Flags
  memory : ByteMemory.Memory 64
  outside : Outside

/-- How a processor executes the other words. -/
abbrev Processor (Outside : Type) : Type :=
  String -> LabelledRuns.Action String (Machine Outside)

/-- The bytes of an access. -/
def accessBytes (wide : Bool) : Nat := if wide then 8 else 4

/-- A result of the given width. -/
def sized (wide : Bool) (value : BitVec 64) : BitVec 64 :=
  if wide then value else (value.setWidth 32).setWidth 64

/-- A shift of a word. -/
def Shift.apply {width : Nat} : Shift -> BitVec width -> Nat -> BitVec width
  | lsl, value, amount => value <<< amount
  | lsr, value, amount => value >>> amount
  | asr, value, amount => value.sshiftRight amount

/-- A shifted register operand. -/
def shifted (wide : Bool) (shift : Shift) (value : BitVec 64) (amount : Nat) : BitVec 64 :=
  if wide then shift.apply value amount
  else (shift.apply (value.setWidth 32) amount).setWidth 64

namespace Machine

variable {Outside : Type}

/-- A register operand in which 31 is the zero register. -/
def read (machine : Machine Outside) (register : Fin 32) : BitVec 64 :=
  if register = 31 then 0#64 else machine.registers register

/-- Setting a slot of the register file. -/
def set (machine : Machine Outside) (register : Fin 32) (value : BitVec 64) :
    Machine Outside :=
  { machine with registers := Function.update machine.registers register value }

/-- A result register in which 31 is the zero register. -/
def write (machine : Machine Outside) (register : Fin 32) (value : BitVec 64) :
    Machine Outside :=
  if register = 31 then machine else machine.set register value

/-- The value of an offset. -/
def offset (machine : Machine Outside) : Operand -> BitVec 64
  | .bytes offset => BitVec.ofNat 64 offset
  | .indexed index scaled => machine.read index <<< (if scaled then 3 else 0)

/-- The address of an access; the base register 31 is the stack pointer. -/
def address (machine : Machine Outside) (base : Fin 32) (operand : Operand) : BitVec 64 :=
  machine.registers base + machine.offset operand

/-- What a load yields. -/
def load (machine : Machine Outside) (wide : Bool) (address : BitVec 64) : BitVec 64 :=
  BitVec.ofNat 64 (ByteMemory.read machine.memory address (accessBytes wide))

/-- Memory after a store. -/
def store (machine : Machine Outside) (wide : Bool) (address value : BitVec 64) :
    Machine Outside :=
  { machine with memory := ByteMemory.write machine.memory address (accessBytes wide) value.toNat }

end Machine

/-- The effect of one word. -/
def perform {Outside : Type} (processor : Processor Outside) :
    Operation -> LabelledRuns.Action String (Machine Outside)
  | .addImm wide rd rn immediate, m =>
      .next (m.set rd (sized wide (m.registers rn + BitVec.ofNat 64 immediate)))
  | .subImm wide rd rn immediate, m =>
      .next (m.set rd (sized wide (m.registers rn - BitVec.ofNat 64 immediate)))
  | .addShifted wide rd rn rm shift amount, m =>
      .next (m.write rd (sized wide (m.read rn + shifted wide shift (m.read rm) amount)))
  | .orr wide rd rm, m => .next (m.write rd (sized wide (m.read rm)))
  | .ldr wide rt rn operand, m => .next (m.write rt (m.load wide (m.address rn operand)))
  | .str wide rt rn offset, m =>
      .next (m.store wide (m.address rn (.bytes offset)) (m.read rt))
  | .other assembly, m => processor assembly m

section Registers

variable {Outside : Type} (machine : Machine Outside)

@[simp] theorem Machine.read_thirtyOne : machine.read 31 = 0#64 := rfl

@[simp] theorem Machine.read_slot {register : Fin 32} (general : register ≠ 31) :
    machine.read register = machine.registers register := if_neg general

@[simp] theorem Machine.write_thirtyOne (value : BitVec 64) :
    machine.write 31 value = machine := rfl

@[simp] theorem Machine.write_slot {register : Fin 32} (general : register ≠ 31)
    (value : BitVec 64) : machine.write register value = machine.set register value :=
  if_neg general

@[simp] theorem Machine.registers_set (register other : Fin 32) (value : BitVec 64) :
    (machine.set register value).registers other =
      if other = register then value else machine.registers other := by
  simp only [Machine.set, Function.update_apply]

theorem Machine.registers_write (register : Fin 32) (value : BitVec 64) :
    (machine.write register value).registers register =
      if register = 31 then machine.registers 31 else value := by
  by_cases zero : register = 31
  · rw [if_pos zero, zero, Machine.write_thirtyOne]
  · rw [if_neg zero, Machine.write_slot machine zero, Machine.registers_set, if_pos rfl]

/-- Setting a slot to the value it holds changes nothing. -/
theorem Machine.set_self (register : Fin 32) :
    machine.set register (machine.registers register) = machine := by
  simp only [Machine.set, Function.update_eq_self]

theorem Machine.write_read (register : Fin 32) :
    machine.write register (machine.read register) = machine := by
  by_cases zero : register = 31
  · rw [zero, Machine.write_thirtyOne]
  · rw [Machine.write_slot machine zero, Machine.read_slot machine zero, Machine.set_self]

@[simp] theorem sized_wide (value : BitVec 64) : sized true value = value := rfl

@[simp] theorem sized_zero (wide : Bool) : sized wide 0#64 = 0#64 := by
  cases wide <;> rfl

/-- A shift by nothing is the operand of the given width. -/
theorem shifted_zero (wide : Bool) (shift : Shift) (value : BitVec 64) :
    shifted wide shift value 0 = sized wide value := by
  cases wide <;> cases shift <;> simp [shifted, sized, Shift.apply]

theorem accessBytes_le (wide : Bool) : accessBytes wide <= 8 := by
  cases wide <;> decide

end Registers

end Peephole
end NewBcpl
