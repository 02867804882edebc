import NewBcpl.Encoding.WideMoves

namespace NewBcpl
namespace Encoding

open Peephole (RegisterName parseRegister)
open Arm64 (Machine Register)
open Foundations.BitFields

/-!
# The instructions of bit fields

The encoders that reading and writing a bit field use, and what their words do to a machine.
`create_orr_reg` leaves the size flag clear, so its word works on 32 bits whatever the registers
are.
-/

/-! ## The encoders -/

/-- The checks and the word of an encoder with three registers. `setsSize` is whether it sets
the size flag for 64-bit registers. -/
def createThreeRegisters (base : BitVec 32) (setsSize : Bool) (xd xn xm : RegisterName) :
    Option (BitVec 32) := do
  let (rdNum, rdIs64) <- parseRegister xd
  let (rnNum, rnIs64) <- parseRegister xn
  let (rmNum, rmIs64) <- parseRegister xm
  if ¬ (rdIs64 = rnIs64 ∧ rnIs64 = rmIs64) then none
  let patcher := if setsSize then withSize base rdIs64 else base
  let patcher := patch patcher (fieldOf rdNum) rd
  let patcher := patch patcher (fieldOf rnNum) rn
  some (patch patcher (fieldOf rmNum) rm)

/-- `Encoder::create_lsl_reg`. -/
def createLslReg : RegisterName -> RegisterName -> RegisterName -> Option (BitVec 32) :=
  createThreeRegisters 0x1AC02000#32 true

/-- `Encoder::create_lsr_reg`. -/
def createLsrReg : RegisterName -> RegisterName -> RegisterName -> Option (BitVec 32) :=
  createThreeRegisters 0x1AC02400#32 true

/-- `Encoder::create_and_reg`. -/
def createAndReg : RegisterName -> RegisterName -> RegisterName -> Option (BitVec 32) :=
  createThreeRegisters 0x0A000000#32 true

/-- `Encoder::create_bic_reg`. -/
def createBicReg : RegisterName -> RegisterName -> RegisterName -> Option (BitVec 32) :=
  createThreeRegisters 0x0A200000#32 true

/-- `Encoder::create_orr_reg`, which sets no size flag. -/
def createOrrReg : RegisterName -> RegisterName -> RegisterName -> Option (BitVec 32) :=
  createThreeRegisters 0x2A000000#32 false

/-- Whether a name begins with an x. -/
def beginsWithX : RegisterName -> Bool
  | .x _ | .xzr => true
  | _ => false

/-- The size of a register. -/
def dataSize (is64bit : Bool) : Int := if is64bit then 64 else 32

/-- The checks and the word of a bitfield move. -/
def createBitfieldMove (base : BitVec 32) (rotation last : Int -> Int)
    (xd xn : RegisterName) (lsb width : Int) : Option (BitVec 32) := do
  let rdNum <- Peephole.getRegEncoding xd
  let rnNum <- Peephole.getRegEncoding xn
  let is64bit := beginsWithX xd
  if is64bit ≠ beginsWithX xn then none
  if lsb < 0 ∨ lsb >= dataSize is64bit then none
  if width < 1 ∨ lsb + width > dataSize is64bit then none
  let patcher := withSize base is64bit
  let patcher := patch patcher (if is64bit then 1#32 else 0#32) bit22
  let patcher := patch patcher (BitVec.ofInt 32 (rotation (dataSize is64bit))) immr
  let patcher := patch patcher (BitVec.ofInt 32 (last (dataSize is64bit))) imms
  let patcher := patch patcher (fieldOf rnNum) rn
  some (patch patcher (fieldOf rdNum) rd)

/-- `Encoder::opt_create_ubfx`. -/
def optCreateUbfx (xd xn : RegisterName) (lsb width : Int) : Option (BitVec 32) :=
  createBitfieldMove 0x53000000#32 (fun _ => lsb) (fun _ => lsb + width - 1) xd xn lsb width

/-- `Encoder::opt_create_bfi`. -/
def optCreateBfi (xd xn : RegisterName) (lsb width : Int) : Option (BitVec 32) :=
  createBitfieldMove 0x33000000#32 (fun datasize => (datasize - lsb) % datasize)
    (fun _ => width - 1) xd xn lsb width

/-! ## What the words do -/

/-- The operations of the earlier classes, and those of registers that are used here. -/
inductive FieldOperation where
  | basic (operation : Operation)
  | and (wide : Bool) (rd rn rm : Reg)
  | bic (wide : Bool) (rd rn rm : Reg)
  | lslv (wide : Bool) (rd rn rm : Reg)
  | lsrv (wide : Bool) (rd rn rm : Reg)
  deriving DecidableEq, Repr

/-- Bits 21 to 30. -/
def twoSources : PatchField 10 := ⟨21, by decide, by decide⟩

/-- `AND` and `BIC` of registers that are not shifted, and the shifts by a register. -/
def decodeRegisters (word : BitVec 32) : Option FieldOperation :=
  let target := Reg.orZero (rd.read word)
  let first := Reg.orZero (rn.read word)
  let second := Reg.orZero (rm.read word)
  if registerFamily.read word = 0b01010#5 ∧ opc.read word = 0b00#2 ∧ access.read word = 0b00#2 ∧
      imms.read word = 0#6 then
    some (if bit21.read word = 0#1 then .and (isWide word) target first second
      else .bic (isWide word) target first second)
  else if twoSources.read word = 0b0011010110#10 then
    match (imms.read word).toNat with
    | 8 => some (.lslv (isWide word) target first second)
    | 9 => some (.lsrv (isWide word) target first second)
    | _ => none
  else none

/-- The operation of a word. -/
def decodeField (word : BitVec 32) : Option FieldOperation :=
  match decode word with
  | some operation => some (.basic operation)
  | none => decodeRegisters word

/-- What a bitfield move makes of its destination: the bits from `immr` to `imms` of the source
go to the low bits, or the low bits of the source go to a higher place. -/
def bitfieldMove (wide : Bool) (dest source : Word) (immr imms : BitVec 6) : Word :=
  if immr.toNat <= imms.toNat then
    writeField dest (sized wide source >>> immr.toNat) 0 (imms.toNat - immr.toNat + 1)
  else writeField dest source ((if wide then 64 else 32) - immr.toNat) (imms.toNat + 1)

/-- The amount of a shift by a register. -/
def shiftAmount (wide : Bool) (amount : Word) : Nat := amount.toNat % (if wide then 64 else 32)

/-- A write of a result. -/
def writeSized (machine : Machine) (wide : Bool) (target : Reg) (value : Word) : Machine :=
  machine.write target.register (sized wide value)

/-- The operations on a machine; those that are not used here are not executed. -/
def performField (machine : Machine) : FieldOperation -> Option Machine
  | .basic (.movz wide rd immediate slice) =>
      performWideMove machine (.movz wide rd immediate slice)
  | .basic (.sub false wide rd rn immediate) =>
      some (writeSized machine wide rd (machine.read rn.register - BitVec.ofInt 64 immediate))
  | .basic (.orr wide rd rn rm) =>
      some (writeSized machine wide rd (machine.read rn.register ||| machine.read rm.register))
  | .basic (.bfm wide rd rn immr imms) =>
      some (writeSized machine wide rd (bitfieldMove wide (machine.read rd.register)
        (machine.read rn.register) immr imms))
  | .basic (.ubfm wide rd rn immr imms) =>
      some (writeSized machine wide rd (bitfieldMove wide 0#64 (machine.read rn.register)
        immr imms))
  | .basic (.str true rt rn offset) =>
      some (machine.store (machine.read rn.register + BitVec.ofInt 64 offset)
        (machine.read rt.register))
  | .basic _ => none
  | .and wide rd rn rm =>
      some (writeSized machine wide rd (machine.read rn.register &&& machine.read rm.register))
  | .bic wide rd rn rm =>
      some (writeSized machine wide rd (machine.read rn.register &&& ~~~machine.read rm.register))
  | .lslv wide rd rn rm =>
      some (writeSized machine wide rd
        (machine.read rn.register <<< shiftAmount wide (machine.read rm.register)))
  | .lsrv wide rd rn rm =>
      some (writeSized machine wide rd
        (sized wide (machine.read rn.register) >>> shiftAmount wide (machine.read rm.register)))

/-- Emitted words one after the other. There is no run if an encoder throws. -/
def runFields : List (Option (BitVec 32)) -> Machine -> Option Machine
  | [], machine => some machine
  | emitted :: rest, machine => do
      let word <- emitted
      let operation <- decodeField word
      let next <- performField machine operation
      runFields rest next

/-- A word before others. -/
theorem runFields_cons {emitted : Option (BitVec 32)} {word : BitVec 32}
    {operation : FieldOperation} {rest : List (Option (BitVec 32))} {before middle : Machine}
    (made : emitted = some word) (decoded : decodeField word = some operation)
    (performed : performField before operation = some middle) :
    runFields (emitted :: rest) before = runFields rest middle := by
  rw [runFields, made]
  change (decodeField word).bind (fun operation =>
    (performField before operation).bind (runFields rest)) = _
  rw [decoded, Option.bind_some, performed, Option.bind_some]

/-! ## General registers -/

/-- A general register by its number. -/
def general (number : Fin 31) : RegisterName := .x number.val

theorem parseRegister_general (number : Fin 31) :
    parseRegister (general number) = some (number.castSucc, true) := by
  have inRange : Peephole.registerNumber number.val = some number.castSucc :=
    dif_pos (number.isLt.trans (by decide))
  change (Peephole.registerNumber number.val).map (fun n => (n, true)) = _
  rw [inRange]
  rfl

theorem getRegEncoding_general (number : Fin 31) :
    Peephole.getRegEncoding (general number) = some number.castSucc :=
  dif_pos (number.isLt.trans (by decide))

/-- The field of a general register is read as the register. -/
theorem orZero_general (number : Fin 31) :
    Reg.orZero ((fieldOf number.castSucc).setWidth 5) = .general number := by
  rw [setWidth_fieldOf]
  exact (reg_of_lt number.isLt).1

/-! ## What the words are -/

section

variable (target first second : Fin 31)

/-- The word for three general registers. -/
def threeRegisters (base : BitVec 32) : BitVec 32 :=
  patch (patch (patch base (fieldOf target.castSucc) rd) (fieldOf first.castSucc) rn)
    (fieldOf second.castSucc) rm

theorem createThreeRegisters_general (base : BitVec 32) (setsSize : Bool) :
    createThreeRegisters base setsSize (general target) (general first) (general second) =
      some (threeRegisters target first second
        (if setsSize then withSize base true else base)) := by
  unfold createThreeRegisters
  simp only [parseRegister_general, Option.bind_eq_bind, Option.bind_some, and_self,
    not_true_eq_false, if_false]
  rfl

/-- The registers of such a word. -/
theorem read_threeRegisters (base : BitVec 32) :
    Reg.orZero (rd.read (threeRegisters target first second base)) = .general target ∧
      Reg.orZero (rn.read (threeRegisters target first second base)) = .general first ∧
      Reg.orZero (rm.read (threeRegisters target first second base)) = .general second := by
  unfold threeRegisters
  simp (disch := decide) only [PatchField.read_patch_of_disjoint, PatchField.read_patch,
    orZero_general]
  exact ⟨trivial, trivial, trivial⟩

/-- A field apart from the registers. -/
theorem read_threeRegisters_of_disjoint {numBits : Nat} {field : PatchField numBits}
    (fromRd : field.Disjoint rd) (fromRn : field.Disjoint rn) (fromRm : field.Disjoint rm)
    (base : BitVec 32) :
    field.read (threeRegisters target first second base) = field.read base := by
  unfold threeRegisters
  rw [PatchField.read_patch_of_disjoint fromRm, PatchField.read_patch_of_disjoint fromRn,
    PatchField.read_patch_of_disjoint fromRd]

/-- A word that no earlier class has. -/
theorem decode_threeRegisters_eq_none {base : BitVec 32}
    (other : NoImmediate base ∧ accessFamily.read base ≠ 0b111001#6 ∧
      pairFamily.read base ≠ 0b10100#5 ∧
      (registerFamily.read base = 0b01010#5 -> opc.read base ≠ 0b01#2)) :
    decode (threeRegisters target first second base) = none := by
  obtain ⟨⟨notArithmetic, notWide, notBitfield⟩, notAccess, notPair, logical⟩ := other
  unfold decode decodeLogical
  simp (disch := decide) only [read_threeRegisters_of_disjoint]
  rw [if_neg notArithmetic, if_neg notWide, if_neg notBitfield, if_neg notAccess, if_neg notPair]
  split
  · rw [if_neg fun fields => logical ‹_› fields.1]
  · rfl

theorem decodeField_lslReg :
    exists word, createLslReg (general target) (general first) (general second) = some word ∧
      decodeField word = some (.lslv true (.general target) (.general first)
        (.general second)) := by
  refine ⟨_, createThreeRegisters_general target first second 0x1AC02000#32 true, ?_⟩
  have registers := read_threeRegisters target first second (withSize 0x1AC02000#32 true)
  unfold decodeField decodeRegisters isWide
  rw [if_pos rfl, decode_threeRegisters_eq_none target first second (by decide)]
  simp (disch := decide) only [registers, read_threeRegisters_of_disjoint]
  rfl

theorem decodeField_lsrReg :
    exists word, createLsrReg (general target) (general first) (general second) = some word ∧
      decodeField word = some (.lsrv true (.general target) (.general first)
        (.general second)) := by
  refine ⟨_, createThreeRegisters_general target first second 0x1AC02400#32 true, ?_⟩
  have registers := read_threeRegisters target first second (withSize 0x1AC02400#32 true)
  unfold decodeField decodeRegisters isWide
  rw [if_pos rfl, decode_threeRegisters_eq_none target first second (by decide)]
  simp (disch := decide) only [registers, read_threeRegisters_of_disjoint]
  rfl

theorem decodeField_andReg :
    exists word, createAndReg (general target) (general first) (general second) = some word ∧
      decodeField word = some (.and true (.general target) (.general first)
        (.general second)) := by
  refine ⟨_, createThreeRegisters_general target first second 0x0A000000#32 true, ?_⟩
  have registers := read_threeRegisters target first second (withSize 0x0A000000#32 true)
  unfold decodeField decodeRegisters isWide
  rw [if_pos rfl, decode_threeRegisters_eq_none target first second (by decide)]
  simp (disch := decide) only [registers, read_threeRegisters_of_disjoint]
  rfl

theorem decodeField_bicReg :
    exists word, createBicReg (general target) (general first) (general second) = some word ∧
      decodeField word = some (.bic true (.general target) (.general first)
        (.general second)) := by
  refine ⟨_, createThreeRegisters_general target first second 0x0A200000#32 true, ?_⟩
  have registers := read_threeRegisters target first second (withSize 0x0A200000#32 true)
  unfold decodeField decodeRegisters isWide
  rw [if_pos rfl, decode_threeRegisters_eq_none target first second (by decide)]
  simp (disch := decide) only [registers, read_threeRegisters_of_disjoint]
  rfl

/-- The word of `create_orr_reg` works on 32 bits, although its registers have 64. -/
theorem decodeField_orrReg :
    exists word, createOrrReg (general target) (general first) (general second) = some word ∧
      decodeField word = some (.basic (.orr false (.general target) (.general first)
        (.general second))) := by
  refine ⟨_, createThreeRegisters_general target first second 0x2A000000#32 false, ?_⟩
  have registers := read_threeRegisters target first second 0x2A000000#32
  rw [if_neg Bool.false_ne_true]
  unfold decodeField
  rw [decode_eq_logical]
  · unfold decodeLogical isWide
    simp (disch := decide) only [registers, read_threeRegisters_of_disjoint]
    rfl
  · unfold NoImmediate
    simp (disch := decide) only [read_threeRegisters_of_disjoint]
    decide
  · rw [read_threeRegisters_of_disjoint target first second (by decide) (by decide) (by decide)]
    decide

/-- A bitfield move of general registers. -/
theorem createBitfieldMove_general (base : BitVec 32) (rotation last : Int -> Int)
    {lsb width : Int} (lower : 0 <= lsb) (nonempty : 1 <= width) (inside : lsb + width <= 64) :
    createBitfieldMove base rotation last (general target) (general first) lsb width =
      some (patch (patch (patch (patch (patch (withSize base true) 1#32 bit22)
        (BitVec.ofInt 32 (rotation 64)) immr) (BitVec.ofInt 32 (last 64)) imms)
          (fieldOf first.castSucc) rn) (fieldOf target.castSucc) rd) := by
  have wide (number : Fin 31) : beginsWithX (general number) = true := rfl
  have size : dataSize true = 64 := rfl
  have place : ¬ (lsb < 0 ∨ lsb >= 64) := by omega
  have bits : ¬ (width < 1 ∨ lsb + width > 64) := by omega
  unfold createBitfieldMove
  simp only [getRegEncoding_general, Option.bind_eq_bind, Option.bind_some, wide, size, place, bits,
    ne_eq, not_true_eq_false, if_false, if_true]

/-- The word of a bitfield move. -/
theorem decode_bitfieldMove {base : BitVec 32} (fam : family.read base = 0b100110#6)
    (rotation last : BitVec 32) :
    decode (patch (patch (patch (patch (patch (withSize base true) 1#32 bit22) rotation immr)
        last imms) (fieldOf first.castSucc) rn) (fieldOf target.castSucc) rd) =
      match (opc.read base).toNat with
      | 0 => some (.sbfm true (.general target) (.general first) (rotation.setWidth 6)
          (last.setWidth 6))
      | 1 => some (.bfm true (.general target) (.general first) (rotation.setWidth 6)
          (last.setWidth 6))
      | 2 => some (.ubfm true (.general target) (.general first) (rotation.setWidth 6)
          (last.setWidth 6))
      | _ => none := by
  have size : sf.read (withSize base true) = 1#1 := PatchField.read_patch sf base 1#32
  have same : (1#32 : BitVec 32).setWidth 1 = 1#1 := by decide
  have isWideTrue : (1#1 == 1#1) = true := by decide
  unfold decode
  simp (disch := decide) only [PatchField.read_patch_of_disjoint, read_withSize, fam, if_true,
    decodeBitfield, isWide, PatchField.read_patch, orZero_general, size, same, ne_eq,
    not_true_eq_false, if_false, isWideTrue]
  all_goals rfl

variable {lsb width : Nat}

/-- `UBFX` moves the bits from the lowest one to the highest one. -/
theorem decodeField_ubfx (nonempty : 1 <= width) (inside : lsb + width <= 64) :
    exists word, optCreateUbfx (general target) (general first) lsb width = some word ∧
      decodeField word = some (.basic (.ubfm true (.general target) (.general first)
        (BitVec.ofNat 6 lsb) (BitVec.ofNat 6 (lsb + width - 1)))) := by
  have made := @createBitfieldMove_general target first 0x53000000#32 (fun _ => (lsb : Int))
    (fun _ => (lsb : Int) + width - 1) lsb width (by omega) (by omega) (by omega)
  have decoded := @decode_bitfieldMove target first 0x53000000#32 (by decide)
    (BitVec.ofInt 32 lsb) (BitVec.ofInt 32 ((lsb : Int) + width - 1))
  have low : (BitVec.ofInt 32 (lsb : Int)).setWidth 6 = BitVec.ofNat 6 lsb := by
    rw [BitVec.ofInt_natCast, BitVec.setWidth_ofNat_of_le (by decide)]
  have high : (BitVec.ofInt 32 ((lsb : Int) + width - 1)).setWidth 6 =
      BitVec.ofNat 6 (lsb + width - 1) := by
    rw [show (lsb : Int) + width - 1 = ((lsb + width - 1 : Nat) : Int) by omega,
      BitVec.ofInt_natCast, BitVec.setWidth_ofNat_of_le (by decide)]
  rw [low, high] at decoded
  refine ⟨_, made, ?_⟩
  unfold decodeField
  rw [decoded]
  rfl

/-- `BFI` rotates the low bits to their place. -/
theorem decodeField_bfi (nonempty : 1 <= width) (inside : lsb + width <= 64) :
    exists word, optCreateBfi (general target) (general first) lsb width = some word ∧
      decodeField word = some (.basic (.bfm true (.general target) (.general first)
        (BitVec.ofNat 6 ((64 - lsb) % 64)) (BitVec.ofNat 6 (width - 1)))) := by
  have made := @createBitfieldMove_general target first 0x33000000#32
    (fun datasize => (datasize - (lsb : Int)) % datasize) (fun _ => (width : Int) - 1) lsb width
    (by omega) (by omega) (by omega)
  have decoded := @decode_bitfieldMove target first 0x33000000#32 (by decide)
    (BitVec.ofInt 32 ((64 - (lsb : Int)) % 64)) (BitVec.ofInt 32 ((width : Int) - 1))
  have low : (BitVec.ofInt 32 ((64 - (lsb : Int)) % 64)).setWidth 6 =
      BitVec.ofNat 6 ((64 - lsb) % 64) := by
    rw [show (64 - (lsb : Int)) % 64 = (((64 - lsb) % 64 : Nat) : Int) by omega,
      BitVec.ofInt_natCast, BitVec.setWidth_ofNat_of_le (by decide)]
  have high : (BitVec.ofInt 32 ((width : Int) - 1)).setWidth 6 = BitVec.ofNat 6 (width - 1) := by
    rw [show (width : Int) - 1 = ((width - 1 : Nat) : Int) by omega,
      BitVec.ofInt_natCast, BitVec.setWidth_ofNat_of_le (by decide)]
  rw [low, high] at decoded
  refine ⟨_, made, ?_⟩
  unfold decodeField
  rw [decoded]
  rfl

/-- `MOVZ` of a constant. -/
theorem decodeField_movz (immediate : BitVec 16) :
    exists encoded, createMovzImm (general target) immediate 0 = some encoded ∧
      decodeField encoded.encoding = some (.basic (.movz true (.general target) immediate 0#2)) := by
  have number : registerOf.numbered target.val = some (.general target) := dif_pos target.isLt
  have named : registerOf (general target) = some (.general target, true) := by
    change (registerOf.numbered target.val).map (fun reg => (reg, true)) = _
    rw [number]
    rfl
  have data : dataRegister (general target) = some (.general target, true) := by
    unfold dataRegister
    rw [named]
  obtain ⟨encoded, made, decoded⟩ := @createMoveWide_eq (general target) (.general target) true 0
    0x52800000#32 (by decide) (by decide) (.movz (general target) immediate 0) data (by decide)
    Bool.noConfusion immediate
  have operation : decode encoded.encoding = some (.movz true (.general target) immediate 0#2) :=
    decoded
  refine ⟨encoded, made, ?_⟩
  unfold decodeField
  rw [operation]

/-- Subtraction of one. -/
theorem decodeField_subOne :
    exists encoded, createSubImm (general target) (general first) 1 = some encoded ∧
      decodeField encoded.encoding = some (.basic (.sub false true (.general target)
        (.general first) 1)) := by
  have decoded := @decode_arithmeticWord 0x51000000#32 (by decide) (by decide) (by decide) true 1
    (by decide) (by decide) first.castSucc target.castSucc
  have made : createSubImm (general target) (general first) 1 = some
      { encoding := arithmeticWord 0x51000000#32 true 1 first.castSucc target.castSucc
        assembly := .sub (general target) (general first) 1 } := by
    unfold createSubImm
    rw [parseRegister_general, parseRegister_general]
    rfl
  refine ⟨_, made, ?_⟩
  have same (number : Fin 31) : Reg.orStackPointer (BitVec.ofNat 5 number.castSucc.val) =
      .general number := (reg_of_lt number.isLt).2
  rw [same, same] at decoded
  unfold decodeField
  rw [decoded]
  rfl

/-- A store to a word whose offset fits. -/
theorem decodeField_strImm {offset : Int} (fits : MemoryCall.AccessOffset true offset)
    (variableName : String) :
    exists encoded,
      createStrImm (general target) (general first) offset variableName = some encoded ∧
        decodeField encoded.encoding = some (.basic (.str true (.general target)
          (.general first) offset)) := by
  have accepted : MemoryCall.AcceptsAccess (general target) (general first) offset :=
    ⟨target.castSucc, true, parseRegister_general target,
      ⟨first.castSucc, parseRegister_general first⟩, fits⟩
  obtain ⟨encoded, made⟩ := Option.isSome_iff_exists.mp
    ((createStrImm_isSome_iff (general target) (general first) offset variableName).mpr accepted)
  obtain ⟨rtNum, rnNum, wide, parsedRt, parsedRn, _, word, _⟩ := createStrImm_eq_some made
  rw [parseRegister_general] at parsedRt parsedRn
  cases parsedRt
  cases parsedRn
  have decoded := @decode_accessWord 0xF9000000#32
    (BitVec.ofInt 32 (offset.tdiv (accessScale true))) (by decide) (by decide) (by decide)
    first.castSucc target.castSucc
  have scaled := (accessOffset_scaled fits).2
  have data : Reg.orZero (BitVec.ofNat 5 target.castSucc.val) = .general target :=
    (reg_of_lt target.isLt).1
  have base : Reg.orStackPointer (BitVec.ofNat 5 first.castSucc.val) = .general first :=
    (reg_of_lt first.isLt).2
  have operation : decode encoded.encoding = some (.str true (.general target) (.general first)
      offset) := by
    rw [word]
    refine Eq.trans decoded ?_
    rw [data, base]
    exact congrArg (fun place => some (Operation.str true (.general target) (.general first) place))
      scaled
  refine ⟨encoded, made, ?_⟩
  unfold decodeField
  rw [operation]

end

end Encoding
end NewBcpl
