import NewBcpl.Encoding.FieldInstructions
import NewBcpl.Codegen.RegisterManager

namespace NewBcpl
namespace Codegen

open Encoding
open Arm64 (Machine Register)
open Foundations Foundations.BitFields

/-!
# Bit fields

The code of `base %% (start, width)` as an expression and as the target of an assignment, with
constant operands and with variable ones. The operands have been evaluated: they are in
registers, some of which hold variables.
-/

/-! ## The registers -/

/-- Where the variable that is assigned to is: in the register of the word, or in memory. -/
inductive Location where
  | register
  | slot (base : Fin 31) (offset : Int)
  deriving DecidableEq, Repr

/-- A place of the program where a bit field is accessed. The word, the value and the operands
are in general registers. The registers `first`, `second` and `third` are acquired afterwards:
they hold neither a variable nor an operand. A value that is no variable is in a register of its
own, and a word that was loaded from memory is in a register that holds no variable. -/
structure AccessSite where
  homes : List (Fin 31)
  word : Fin 31
  start : Fin 31
  width : Fin 31
  value : Fin 31
  first : Fin 31
  second : Fin 31
  third : Fin 31
  location : Location
  variableName : String
  distinct : [first, second, third].Nodup
  fresh : forall register, register ∈ [first, second, third] ->
    register ∉ [word, start, width, value] ++ homes
  valueApart : value ∈ homes ∨ value ∉ [word, start, width]
  wordPlaced : word ∈ homes <-> location = .register
  slotPlaced : forall base offset, location = .slot base offset ->
    base ∉ [word, value, first, second, third] ∧ MemoryCall.AccessOffset true offset

namespace AccessSite

variable (site : AccessSite)

/-! ## The code -/

/-- `visit(BitfieldAccessExpression)` with constant operands. -/
def readConstant (startLit widthLit : Int) : List (Option (BitVec 32)) :=
  [optCreateUbfx (general site.first) (general site.word) startLit widthLit]

/-- `visit(BitfieldAccessExpression)` with variable operands. -/
def readVariable : List (Option (BitVec 32)) :=
  let shiftedReg := general site.first
  let maskReg := general site.second
  let oneReg := general site.third
  [createLsrReg shiftedReg (general site.word) (general site.start),
    (createMovzImm oneReg 1#16 0).map Encoded.encoding,
    createLslReg maskReg oneReg (general site.width),
    (createSubImm maskReg maskReg 1).map Encoded.encoding,
    createAndReg shiftedReg shiftedReg maskReg]

/-- `store_variable_register` for the word. -/
def storeWord : List (Option (BitVec 32)) :=
  match site.location with
  | .register => []
  | .slot base offset =>
      [(createStrImm (general site.word) (general base) offset site.variableName).map
        Encoded.encoding]

/-- The assignment to a bit field with constant operands. -/
def writeConstant (startLit widthLit : Int) : List (Option (BitVec 32)) :=
  optCreateBfi (general site.word) (general site.value) startLit widthLit :: site.storeWord

/-- The assignment to a bit field with variable operands. -/
def writeVariable : List (Option (BitVec 32)) :=
  let maskReg := general site.first
  let oneReg := general site.second
  let writeMaskReg := general site.third
  let wordReg := general site.word
  let valueToStoreReg := general site.value
  (createMovzImm oneReg 1#16 0).map Encoded.encoding ::
    createLslReg maskReg oneReg (general site.width) ::
    (createSubImm maskReg maskReg 1).map Encoded.encoding ::
    createLslReg writeMaskReg maskReg (general site.start) ::
    createBicReg wordReg wordReg writeMaskReg ::
    createAndReg valueToStoreReg valueToStoreReg maskReg ::
    createLslReg valueToStoreReg valueToStoreReg (general site.start) ::
    createOrrReg wordReg wordReg valueToStoreReg ::
    site.storeWord

end AccessSite

/-! ## What is meant -/

/-- The field of a word. -/
def fieldValue (base : Word) (start width : Nat) : Word :=
  BitVec.ofNat 64 (base.toNat / 2 ^ start % 2 ^ width)

/-- A word with the low bits of a value in a field. -/
def withField (base value : Word) (start width : Nat) : Word := writeField base value start width

/-- The variables in registers, the flags and the calls are as before. -/
structure Preserves (homes : List (Fin 31)) (before after : Machine) : Prop where
  homes : forall register, register ∈ homes ->
    after.read (.x register) = before.read (.x register)
  flags : after.flags = before.flags
  calls : after.calls = before.calls

namespace AccessSite

variable (site : AccessSite)

/-- The value of the variable that is assigned to. -/
def target (machine : Machine) : Word :=
  match site.location with
  | .register => machine.read (.x site.word)
  | .slot base offset => machine.load (machine.read (.x base) + BitVec.ofInt 64 offset)

/-- Memory is as before, except for the variable that is assigned to. -/
def KeepsMemory (before after : Machine) : Prop :=
  match site.location with
  | .register => after.memory = before.memory
  | .slot base offset =>
      forall address,
        8 <= ByteMemory.offset (before.read (.x base) + BitVec.ofInt 64 offset) address ->
          after.memory address = before.memory address

/-- The field is in the first register, and no variable has changed. -/
structure Reads (start width : Nat) (before after : Machine) : Prop where
  value : after.read (.x site.first) = fieldValue (before.read (.x site.word)) start width
  preserves : Preserves site.homes before after
  memory : after.memory = before.memory

/-- The variable has the value in its field, and no other variable has changed. -/
structure Assigns (start width : Nat) (before after : Machine) : Prop where
  value : site.target after =
    withField (before.read (.x site.word)) (before.read (.x site.value)) start width
  preserves : Preserves (site.homes.filter (· ≠ site.word)) before after
  memory : site.KeepsMemory before after

end AccessSite

/-- The four ways in which a bit field is accessed. -/
inductive Access where
  | readConstant | readVariable | writeConstant | writeVariable
  deriving DecidableEq, Repr

namespace Access

/-- The code of an access. -/
def code (site : AccessSite) (start width : Nat) : Access -> List (Option (BitVec 32))
  | readConstant => site.readConstant start width
  | readVariable => site.readVariable
  | writeConstant => site.writeConstant start width
  | writeVariable => site.writeVariable

/-- The same access with constant operands. -/
def constant : Access -> Access
  | readConstant | readVariable => readConstant
  | writeConstant | writeVariable => writeConstant

/-- What an access is for. -/
def Does (site : AccessSite) (start width : Nat) (before after : Machine) : Access -> Prop
  | readConstant | readVariable => site.Reads start width before after
  | writeConstant | writeVariable => site.Assigns start width before after

/-- What an access yields. -/
def result (site : AccessSite) (after : Machine) : Access -> Word
  | readConstant | readVariable => after.read (.x site.first)
  | writeConstant | writeVariable => site.target after

/-- The registers of variable operands hold them. -/
def Holds (site : AccessSite) (start width : Nat) (before : Machine) : Access -> Prop
  | readConstant | writeConstant => True
  | readVariable | writeVariable =>
      before.read (.x site.start) = BitVec.ofNat 64 start ∧
        before.read (.x site.width) = BitVec.ofNat 64 width

/-- The access does what it is for, and yields the same as with constant operands. -/
def Meets (site : AccessSite) (start width : Nat) (before : Machine) (access : Access) : Prop :=
  exists after, runFields (access.code site start width) before = some after ∧
    access.Does site start width before after ∧
    exists other, runFields (access.constant.code site start width) before = some other ∧
      access.result site after = access.result site other

/-- The low bits of a word. -/
def lowBits (length : Nat) : Word := BitVec.ofNat 64 (2 ^ length - 1)

/-- Where an access is right. With constant operands it always is. A width of 64 gives the mask
zero. An assignment leaves 32 bits of the variable; it shifts the value in its register, which
may be the one of another variable, and which is the one of the word when a variable is assigned
to its own field. -/
def IsRight (site : AccessSite) (start width : Nat) (before : Machine) : Access -> Prop
  | readConstant | writeConstant => True
  | readVariable => width = 64 -> before.read (.x site.word) = 0#64
  | writeVariable =>
      let base := before.read (.x site.word)
      let value := before.read (.x site.value)
      if site.value = site.word then withField base value start width = 0#64
      else
        (if width = 64 then value = sized false base
          else (withField base value start width).toNat < 2 ^ 32) ∧
        (site.value ∈ site.homes -> (value &&& lowBits (width % 64)) <<< start = value)

end Access

/-! ## Masks -/

/-- A read after a write. -/
theorem read_write (machine : Machine) (register other : Fin 31) (value : Word) :
    (machine.write (.x register) value).read (.x other) =
      if other = register then value else machine.read (.x other) := by
  by_cases same : other = register
  · rw [if_pos same, same]
    exact Machine.read_write_same machine value Register.noConfusion
  · rw [if_neg same]
    exact Machine.read_write_other machine value fun equal => same (Register.x.inj equal)

/-- The registers after a mask is computed. -/
def withMask (machine : Machine) (mask one : Fin 31) (length : Nat) : Machine :=
  ((machine.write (.x one) 1#64).write (.x mask) (1#64 <<< length)).write (.x mask)
    (Access.lowBits length)

/-- One less than a power of two. -/
theorem lowBits_eq {length : Nat} (short : length < 64) :
    1#64 <<< length - BitVec.ofInt 64 1 = Access.lowBits length :=
  (by decide : forall length, length < 64 ->
    1#64 <<< length - BitVec.ofInt 64 1 = Access.lowBits length) length short

/-- The instructions that compute a mask. -/
theorem runFields_mask {mask one width : Fin 31} (kept : width ≠ one)
    (rest : List (Option (BitVec 32))) (machine : Machine) :
    runFields ((createMovzImm (general one) 1#16 0).map Encoded.encoding ::
      createLslReg (general mask) (general one) (general width) ::
      (createSubImm (general mask) (general mask) 1).map Encoded.encoding :: rest) machine =
      runFields rest (withMask machine mask one ((machine.read (.x width)).toNat % 64)) := by
  obtain ⟨moved, madeMoved, decodedMoved⟩ := decodeField_movz one 1#16
  obtain ⟨shifted, madeShifted, decodedShifted⟩ := decodeField_lslReg mask one width
  obtain ⟨lowered, madeLowered, decodedLowered⟩ := decodeField_subOne mask mask
  have short : (machine.read (.x width)).toNat % 64 < 64 := Nat.mod_lt _ (by decide)
  have movz : performField machine (.basic (.movz true (.general one) 1#16 0#2)) =
      some (machine.write (.x one) 1#64) := rfl
  have lsl : performField (machine.write (.x one) 1#64)
      (.lslv true (.general mask) (.general one) (.general width)) =
        some ((machine.write (.x one) 1#64).write (.x mask)
          (1#64 <<< ((machine.read (.x width)).toNat % 64))) := by
    change some ((machine.write (.x one) 1#64).write (.x mask)
      ((machine.write (.x one) 1#64).read (.x one) <<<
        (((machine.write (.x one) 1#64).read (.x width)).toNat % 64))) = _
    rw [read_write, read_write, if_pos rfl, if_neg kept]
  have sub : performField ((machine.write (.x one) 1#64).write (.x mask)
      (1#64 <<< ((machine.read (.x width)).toNat % 64)))
      (.basic (.sub false true (.general mask) (.general mask) 1)) =
        some (withMask machine mask one ((machine.read (.x width)).toNat % 64)) := by
    unfold withMask
    rw [← lowBits_eq short]
    change some (Machine.write _ (.x mask) (Machine.read _ (.x mask) - BitVec.ofInt 64 1)) = _
    rw [read_write, if_pos rfl]
  rw [madeMoved, madeLowered, Option.map_some, Option.map_some,
    runFields_cons rfl decodedMoved movz, runFields_cons madeShifted decodedShifted lsl,
    runFields_cons rfl decodedLowered sub]

/-- The other registers are as before. -/
theorem read_withMask (machine : Machine) {mask one : Fin 31} (length : Nat) (register : Fin 31) :
    (withMask machine mask one length).read (.x register) =
      if register = mask then Access.lowBits length
      else if register = one then 1#64 else machine.read (.x register) := by
  unfold withMask
  rw [read_write, read_write, read_write]
  split
  · rfl
  · rfl

/-! ## Fields -/

/-- A field is what is left after the shift and the mask. -/
theorem shifted_and_lowBits (base : Word) (start : Nat) {width : Nat} (short : width <= 64) :
    (base >>> start) &&& Access.lowBits width = fieldValue base start width := by
  apply BitVec.eq_of_toNat_eq
  have mask : (Access.lowBits width).toNat = 2 ^ width - 1 := by
    unfold Access.lowBits
    rw [BitVec.toNat_ofNat]
    apply Nat.mod_eq_of_lt
    have positive : 0 < 2 ^ width := Nat.two_pow_pos width
    have bound : 2 ^ width <= 2 ^ 64 := Nat.pow_le_pow_right (by decide) short
    omega
  have fits : base.toNat / 2 ^ start % 2 ^ width < 2 ^ 64 :=
    ((Nat.mod_le _ _).trans (Nat.div_le_self _ _)).trans_lt base.isLt
  unfold fieldValue
  rw [BitVec.toNat_and, mask, BitVec.toNat_ushiftRight, Nat.shiftRight_eq_div_pow,
    Nat.and_two_pow_sub_one_eq_mod, BitVec.toNat_ofNat, Nat.mod_eq_of_lt fits]

/-- A field of width 64 is the word. -/
theorem fieldValue_whole (base : Word) : fieldValue base 0 64 = base := by
  apply BitVec.eq_of_toNat_eq
  unfold fieldValue
  rw [pow_zero, Nat.div_one, BitVec.toNat_ofNat, Nat.mod_mod, Nat.mod_eq_of_lt base.isLt]

/-- `UBFX` yields the field. -/
theorem bitfieldMove_ubfx (base : Word) {start width : Nat} (nonempty : 1 <= width)
    (inside : start + width <= 64) :
    bitfieldMove true 0#64 base (BitVec.ofNat 6 start) (BitVec.ofNat 6 (start + width - 1)) =
      fieldValue base start width := by
  have low : (BitVec.ofNat 6 start).toNat = start := by
    rw [BitVec.toNat_ofNat]
    exact Nat.mod_eq_of_lt (by omega)
  have high : (BitVec.ofNat 6 (start + width - 1)).toNat = start + width - 1 := by
    rw [BitVec.toNat_ofNat]
    exact Nat.mod_eq_of_lt (by omega)
  have length : start + width - 1 - start + 1 = width := by omega
  unfold bitfieldMove
  rw [low, high, if_pos (by omega), length, ← shifted_and_lowBits base start (by omega)]
  change writeField 0#64 (base >>> start) 0 width = _
  rw [← or_masked_shiftLeft_eq_writeField, BitVec.zero_and, BitVec.zero_or, BitVec.shiftLeft_zero]
  rfl

/-- `BFI` writes the field. -/
theorem bitfieldMove_bfi (base value : Word) {start width : Nat} (nonempty : 1 <= width)
    (inside : start + width <= 64) :
    bitfieldMove true base value (BitVec.ofNat 6 ((64 - start) % 64)) (BitVec.ofNat 6 (width - 1)) =
      withField base value start width := by
  have low : (BitVec.ofNat 6 ((64 - start) % 64)).toNat = (64 - start) % 64 := by
    rw [BitVec.toNat_ofNat]
    exact Nat.mod_eq_of_lt (Nat.mod_lt _ (by decide))
  have high : (BitVec.ofNat 6 (width - 1)).toNat = width - 1 := by
    rw [BitVec.toNat_ofNat]
    exact Nat.mod_eq_of_lt (by omega)
  unfold bitfieldMove withField
  rw [low, high]
  by_cases zero : start = 0
  · subst zero
    have whole : width - 1 - (64 - 0) % 64 + 1 = width := by omega
    rw [if_pos (by omega), whole]
    change writeField base (value >>> 0) 0 width = _
    rw [BitVec.ushiftRight_zero]
  · have length : width - 1 + 1 = width := by omega
    have place : 64 - (64 - start) % 64 = start := by omega
    rw [if_neg (by omega), length]
    change writeField base value (64 - (64 - start) % 64) width = _
    rw [place]

end Codegen
end NewBcpl
