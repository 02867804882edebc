import NewBcpl.Ast
import NewBcpl.Arm64.RegisterNumbers
import NewBcpl.Foundations.LabelledCode
import NewBcpl.Foundations.ByteMemory

namespace NewBcpl
namespace Arm64

open Foundations

/-!
# The part of the ARM64 machine that generated code uses

General registers, the four condition flags, byte-addressed memory, and the
instructions that the encoder's constructors produce for integer code. An
instruction carries the meaning of the word its constructor encodes, which for
`create_mvn_reg` is not the one its mnemonic names.
-/

/-- The 64-bit register names of the generator. -/
inductive Register where
  | x (number : Fin 31)
  | xzr
  | sp
  deriving DecidableEq, Repr

/-- The condition flags. -/
structure Flags where
  negative : Bool
  zero : Bool
  carry : Bool
  overflow : Bool
  deriving DecidableEq, Repr

/-- The condition codes of the generated branches and selections. -/
inductive Condition where
  | eq | ne | lt | le | gt | ge
  deriving DecidableEq, Repr

namespace Condition

/-- A condition on the flags. -/
def holds : Condition -> Flags -> Bool
  | eq, flags => flags.zero
  | ne, flags => !flags.zero
  | lt, flags => flags.negative != flags.overflow
  | ge, flags => flags.negative == flags.overflow
  | le, flags => flags.zero || flags.negative != flags.overflow
  | gt, flags => !flags.zero && flags.negative == flags.overflow

end Condition

/-- The flags that a comparison of two words leaves. -/
def compareFlags (left right : Word) : Flags :=
  { negative := (left - right).msb
    zero := left - right == 0#64
    carry := right.ule left
    overflow := left.ssubOverflow right }

/-- Where a call goes: a name bound by the linker or an address in a register. -/
inductive CallTarget where
  | name (name : String)
  | address (address : Word)
  deriving DecidableEq, Repr

/-- The instructions. Shift amounts and offsets are those of the encoded word. -/
inductive Instruction where
  | add (dest left right : Register)
  | addImm (dest source : Register) (immediate : Nat)
  | sub (dest left right : Register)
  | subImm (dest source : Register) (immediate : Nat)
  | mul (dest left right : Register)
  | sdiv (dest left right : Register)
  | and (dest left right : Register)
  | orr (dest left right : Register)
  | lsl (dest source amount : Register)
  | lsr (dest source amount : Register)
  | lslImm (dest source : Register) (amount : Nat)
  | ornShifted (dest source : Register) (amount : Nat)
  | mov (dest source : Register)
  | movz (dest : Register) (immediate : BitVec 16) (shift : Nat)
  | movk (dest : Register) (immediate : BitVec 16) (shift : Nat)
  | cmp (left right : Register)
  | cmpImm (left : Register) (immediate : Nat)
  | cset (dest : Register) (condition : Condition)
  | csetm (dest : Register) (condition : Condition)
  | ldr (dest base : Register) (offset : Int)
  | str (source base : Register) (offset : Int)
  | ldrWord (dest base : Register) (offset : Int)
  | strWord (source base : Register) (offset : Int)
  | call (target : String)
  | callRegister (target : Register)
  deriving DecidableEq, Repr

/-- One call made by a run: its target and the argument registers X0 to X7. -/
structure CallEvent where
  target : CallTarget
  arguments : List Word
  deriving DecidableEq, Repr

/-- A machine state, with the calls made so far. -/
structure Machine where
  registers : Register -> Word
  flags : Flags
  memory : ByteMemory.Memory 64
  calls : List CallEvent

namespace Machine

/-- The value of a register; the zero register reads as zero. -/
def read (machine : Machine) (register : Register) : Word :=
  if register = .xzr then 0#64 else machine.registers register

/-- Setting a register; a write to the zero register is discarded by `read`. -/
def write (machine : Machine) (register : Register) (value : Word) : Machine :=
  { machine with
    registers := fun other =>
      if other = register then value else machine.registers other }

/-- Setting the flags. -/
def setFlags (machine : Machine) (flags : Flags) : Machine :=
  { machine with flags := flags }

/-- The word of memory at an address. -/
def load (machine : Machine) (address : Word) : Word :=
  BitVec.ofNat 64 (ByteMemory.read machine.memory address 8)

/-- Storing a word. -/
def store (machine : Machine) (address value : Word) : Machine :=
  { machine with memory := ByteMemory.write machine.memory address 8 value.toNat }

/-- The 32-bit word of memory at an address, extended with zeros. -/
def loadWord (machine : Machine) (address : Word) : Word :=
  BitVec.ofNat 64 (ByteMemory.read machine.memory address 4)

/-- Storing the low 32 bits of a register. -/
def storeWord (machine : Machine) (address value : Word) : Machine :=
  { machine with memory := ByteMemory.write machine.memory address 4 value.toNat }

@[simp] theorem read_write_same (machine : Machine) {register : Register}
    (value : Word) (nonzero : register ≠ .xzr) :
    (machine.write register value).read register = value := by
  simp [read, write, nonzero]

@[simp] theorem read_write_other (machine : Machine) {register other : Register}
    (value : Word) (different : other ≠ register) :
    (machine.write register value).read other = machine.read other := by
  simp [read, write, different]

@[simp] theorem read_setFlags (machine : Machine) (flags : Flags)
    (register : Register) :
    (machine.setFlags flags).read register = machine.read register := rfl

@[simp] theorem read_store (machine : Machine) (address value : Word)
    (register : Register) :
    (machine.store address value).read register = machine.read register := rfl

@[simp] theorem memory_write (machine : Machine) (register : Register) (value : Word) :
    (machine.write register value).memory = machine.memory := rfl

@[simp] theorem memory_setFlags (machine : Machine) (flags : Flags) :
    (machine.setFlags flags).memory = machine.memory := rfl

@[simp] theorem flags_setFlags (machine : Machine) (flags : Flags) :
    (machine.setFlags flags).flags = flags := rfl

end Machine

/-- What the callees of a program do to the machine. -/
abbrev Callees : Type := CallTarget -> Machine -> Machine

/-- The value of a condition selection. -/
def selected (condition : Condition) (flags : Flags) (value : Word) : Word :=
  if condition.holds flags then value else 0#64

/-- One instruction. Register shifts use the low six bits of the amount; a
division by zero yields zero. -/
def perform (callees : Callees) : Instruction -> Machine -> Machine
  | .add dest left right, m => m.write dest (m.read left + m.read right)
  | .addImm dest source immediate, m =>
      m.write dest (m.read source + BitVec.ofNat 64 immediate)
  | .sub dest left right, m => m.write dest (m.read left - m.read right)
  | .subImm dest source immediate, m =>
      m.write dest (m.read source - BitVec.ofNat 64 immediate)
  | .mul dest left right, m => m.write dest (m.read left * m.read right)
  | .sdiv dest left right, m => m.write dest ((m.read left).sdiv (m.read right))
  | .and dest left right, m => m.write dest (m.read left &&& m.read right)
  | .orr dest left right, m => m.write dest (m.read left ||| m.read right)
  | .lsl dest source amount, m =>
      m.write dest (m.read source <<< ((m.read amount).toNat % 64))
  | .lsr dest source amount, m =>
      m.write dest (m.read source >>> ((m.read amount).toNat % 64))
  | .lslImm dest source amount, m => m.write dest (m.read source <<< amount)
  | .ornShifted dest source amount, m =>
      m.write dest (~~~(m.read source <<< amount))
  | .mov dest source, m => m.write dest (m.read source)
  | .movz dest immediate shift, m =>
      m.write dest (immediate.setWidth 64 <<< shift)
  | .movk dest immediate shift, m =>
      m.write dest ((m.read dest &&& ~~~(0xFFFF#64 <<< shift)) |||
        (immediate.setWidth 64 <<< shift))
  | .cmp left right, m => m.setFlags (compareFlags (m.read left) (m.read right))
  | .cmpImm left immediate, m =>
      m.setFlags (compareFlags (m.read left) (BitVec.ofNat 64 immediate))
  | .cset dest condition, m => m.write dest (selected condition m.flags 1#64)
  | .csetm dest condition, m => m.write dest (selected condition m.flags (-1#64))
  | .ldr dest base offset, m =>
      m.write dest (m.load (m.read base + BitVec.ofInt 64 offset))
  | .str source base offset, m =>
      m.store (m.read base + BitVec.ofInt 64 offset) (m.read source)
  | .ldrWord dest base offset, m =>
      m.write dest (m.loadWord (m.read base + BitVec.ofInt 64 offset))
  | .strWord source base offset, m =>
      m.storeWord (m.read base + BitVec.ofInt 64 offset) (m.read source)
  | .call target, m => callees (.name target) m
  | .callRegister target, m => callees (.address (m.read target)) m

/-- Machine code as labelled code. -/
abbrev Code : Type := List (LabelledCode.Item Instruction Condition String)

/-- A machine together with the label that control is looking for. -/
abbrev Control : Type := LabelledCode.Control Machine String

/-- The interpretation of instructions and conditions on machines. -/
def interpretation (callees : Callees) :
    LabelledCode.Interpretation Instruction Condition Machine :=
  { perform := perform callees
    holds := fun condition machine => condition.holds machine.flags }

/-- Executing a list of instructions. -/
def execute (callees : Callees) (instructions : List Instruction)
    (machine : Machine) : Machine :=
  instructions.foldl (fun m instruction => perform callees instruction m) machine

/-- Executing machine code. -/
def runCode (callees : Callees) (code : Code) (control : Control) : Control :=
  LabelledCode.run (interpretation callees) code control

section Comparisons

/-! ## What the flags of a comparison say -/

theorem compare_zero (left right : Word) :
    (compareFlags left right).zero = (left == right) := by
  have difference : left - right = 0#64 <-> left = right := by
    constructor
    · intro equal
      have sum := congrArg (fun word => word + right) equal
      simpa [BitVec.sub_add_cancel] using sum
    · intro equal
      rw [equal, BitVec.sub_self]
  rw [Bool.eq_iff_iff]
  simp [compareFlags, difference]

theorem compare_less (left right : Word) :
    ((compareFlags left right).negative != (compareFlags left right).overflow) =
      left.slt right := by
  have leftLow := BitVec.le_toInt left
  have leftHigh := BitVec.toInt_lt (x := left)
  have rightLow := BitVec.le_toInt right
  have rightHigh := BitVec.toInt_lt (x := right)
  have difference := BitVec.toInt_sub (x := left) (y := right)
  rw [Int.bmod_def] at difference
  simp only [compareFlags, BitVec.slt, BitVec.ssubOverflow, BitVec.msb_eq_toInt]
  rw [Bool.eq_iff_iff, bne_iff_ne, ne_eq, Bool.eq_iff_iff]
  simp only [Bool.or_eq_true, decide_eq_true_eq]
  split at difference <;> omega

theorem eq_holds (left right : Word) :
    Condition.eq.holds (compareFlags left right) = (left == right) :=
  compare_zero left right

theorem ne_holds (left right : Word) :
    Condition.ne.holds (compareFlags left right) = (left != right) := by
  simp only [Condition.holds, compare_zero]
  rfl

theorem lt_holds (left right : Word) :
    Condition.lt.holds (compareFlags left right) = left.slt right :=
  compare_less left right

theorem ge_holds (left right : Word) :
    Condition.ge.holds (compareFlags left right) = right.sle left := by
  have less := compare_less left right
  simp only [Condition.holds, BitVec.sle_eq_not_slt, <- less]
  simp [bne]

theorem le_holds (left right : Word) :
    Condition.le.holds (compareFlags left right) = left.sle right := by
  simp only [Condition.holds, compare_zero, compare_less]
  rw [Bool.eq_iff_iff]
  simp only [Bool.or_eq_true, beq_iff_eq, BitVec.slt_iff_toInt_lt,
    BitVec.sle_iff_toInt_le, <- BitVec.toInt_inj]
  omega

theorem gt_holds (left right : Word) :
    Condition.gt.holds (compareFlags left right) = right.slt left := by
  have negated : Condition.gt.holds (compareFlags left right) =
      !Condition.le.holds (compareFlags left right) := by
    simp [Condition.holds, bne]
  rw [negated, le_holds, BitVec.sle_eq_not_slt, Bool.not_not]

end Comparisons

end Arm64
end NewBcpl
