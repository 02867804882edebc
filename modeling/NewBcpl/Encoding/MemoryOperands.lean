import NewBcpl.Encoding.RegisterOperands

namespace NewBcpl
namespace Encoding

open Peephole (RegisterName parseRegister getRegEncoding withVariableName)
open Foundations.SignedFields

/-!
# Loads and stores

The encoders with a scaled offset are right when register 31 is named as the instruction means
it. The load of a pair builds another instruction, and the two of a word do not scale their
offset.
-/

/-- The calls of the encoders of loads and stores. -/
inductive MemoryCall where
  | ldrImm (xt xn : RegisterName) (immediate : Int) (variableName : String)
  | strImm (xt xn : RegisterName) (immediate : Int) (variableName : String)
  | ldrWordImm (wt xn : RegisterName) (immediate : Int)
  | strWordImm (wt xn : RegisterName) (immediate : Int)
  | ldpPostImm (xt1 xt2 xn : RegisterName) (immediate : Int)
  | stpPreImm (xt1 xt2 xn : RegisterName) (immediate : Int)
  deriving DecidableEq, Repr

namespace MemoryCall

/-- What a call gives. -/
def encode : MemoryCall -> Option Encoded
  | ldrImm xt xn immediate variableName => createLdrImm xt xn immediate variableName
  | strImm xt xn immediate variableName => createStrImm xt xn immediate variableName
  | ldrWordImm wt xn immediate => createLdrWordImm wt xn immediate
  | strWordImm wt xn immediate => createStrWordImm wt xn immediate
  | ldpPostImm xt1 xt2 xn immediate => createLdpPostImm xt1 xt2 xn immediate
  | stpPreImm xt1 xt2 xn immediate => createStpPreImm xt1 xt2 xn immediate

/-- An offset of the form for one register: a number of registers in twelve bits. -/
def AccessOffset (is64bit : Bool) (immediate : Int) : Prop :=
  accessScale is64bit ∣ immediate ∧ 0 <= immediate ∧ immediate <= maxOffset is64bit

/-- An offset of the form for a pair: a number of registers in seven signed bits. -/
def PairOffset (is64bit : Bool) (immediate : Int) : Prop :=
  accessScale is64bit ∣ immediate ∧ minPairOffset is64bit <= immediate ∧
    immediate <= maxPairOffset is64bit

/-- The instruction has an encoding: its registers are ones of the form, and the form has the
offset. -/
def Encodable : MemoryCall -> Prop
  | ldrImm xt xn immediate _ | strImm xt xn immediate _ =>
      exists data base wide, dataRegister xt = some (data, wide) ∧ baseRegister xn = some base ∧
        AccessOffset wide immediate
  | ldrWordImm wt xn immediate | strWordImm wt xn immediate =>
      exists data base, dataRegister wt = some (data, false) ∧ baseRegister xn = some base ∧
        AccessOffset false immediate
  | ldpPostImm xt1 xt2 xn immediate | stpPreImm xt1 xt2 xn immediate =>
      exists first second base wide, dataRegister xt1 = some (first, wide) ∧
        dataRegister xt2 = some (second, wide) ∧ baseRegister xn = some base ∧
        PairOffset wide immediate

/-- What a call promises: its word is the instruction that is named, and it is not rejected when
the instruction has an encoding. -/
def Meets (call : MemoryCall) : Prop :=
  (forall encoded, call.encode = some encoded -> encoded.Faithful) ∧
    (call.Encodable -> call.encode.isSome)

/-- The base is parsed as one of 64 bits. -/
def HasWideBase (xn : RegisterName) : Prop := exists number, parseRegister xn = some (number, true)

/-- The checks of the encoder for one register. -/
def AcceptsAccess (xt xn : RegisterName) (immediate : Int) : Prop :=
  exists number wide, parseRegister xt = some (number, wide) ∧ HasWideBase xn ∧
    AccessOffset wide immediate

/-- The checks of the encoders for a pair. -/
def AcceptsPair (xt1 xt2 xn : RegisterName) (immediate : Int) : Prop :=
  exists first second wide, parseRegister xt1 = some (first, wide) ∧
    parseRegister xt2 = some (second, wide) ∧ HasWideBase xn ∧ PairOffset wide immediate

/-- The checks of the load of a word. -/
def AcceptsWord (wt xn : RegisterName) (immediate : Int) : Prop :=
  exists number, parseRegister wt = some (number, false) ∧ HasWideBase xn ∧ 0 <= immediate ∧
    immediate <= 4095

/-- Where a call is right. An access of one register, or a store of a pair, that passes the
checks names no stack pointer as data and no zero register as its base; a load of a pair passes
no check. A load of a word that passes the checks has the offset zero and such names, and one
that has an encoding passes them. A store of a word whose registers have numbers has the offset
zero, data of 32 bits and a base. -/
def IsRight : MemoryCall -> Prop
  | ldrImm xt xn immediate _ | strImm xt xn immediate _ =>
      AcceptsAccess xt xn immediate -> namesStackPointer xt = false ∧ namesZero xn = false
  | stpPreImm xt1 xt2 xn immediate =>
      AcceptsPair xt1 xt2 xn immediate ->
        namesStackPointer xt1 = false ∧ namesStackPointer xt2 = false ∧ namesZero xn = false
  | ldpPostImm xt1 xt2 xn immediate => ¬ AcceptsPair xt1 xt2 xn immediate
  | ldrWordImm wt xn immediate =>
      (AcceptsWord wt xn immediate ->
        immediate = 0 ∧ namesStackPointer wt = false ∧ namesZero xn = false) ∧
      ((ldrWordImm wt xn immediate).Encodable -> immediate <= 4095)
  | strWordImm wt xn immediate =>
      (getRegEncoding wt).isSome -> (getRegEncoding xn).isSome ->
        immediate = 0 ∧ (exists data, dataRegister wt = some (data, false)) ∧
          exists base, baseRegister xn = some base

end MemoryCall

/-! ## Registers -/

namespace ReadsAs

variable {name : RegisterName} {number : Fin 32} {wide : Bool} {reg : Reg}

/-- The register that is moved, under a name that is not one of the stack pointer. -/
theorem data (reads : ReadsAs name number wide reg) (fits : namesStackPointer name = false) :
    dataRegister name = some (Reg.orZero (BitVec.ofNat 5 number.val), wide) := by
  have general : reg ≠ .stackPointer := by
    intro pointer
    rw [reads.pointer.mp pointer] at fits
    exact Bool.noConfusion fits
  unfold dataRegister
  rw [reads.named, reads.orZero.mpr fits]
  cases reg with
  | stackPointer => exact absurd rfl general
  | general number => rfl
  | zero => rfl

/-- No register is moved under a name of the stack pointer. -/
theorem data_none (reads : ReadsAs name number wide reg) (pointer : namesStackPointer name = true) :
    dataRegister name = none := by
  unfold dataRegister
  rw [reads.named, reads.pointer.mpr pointer]

/-- The base, under a name that is not one of the zero register. -/
theorem base (reads : ReadsAs name number true reg) (fits : namesZero name = false) :
    baseRegister name = some (Reg.orStackPointer (BitVec.ofNat 5 number.val)) := by
  have general : reg ≠ .zero := by
    intro zero
    rw [reads.zero.mp zero] at fits
    exact Bool.noConfusion fits
  unfold baseRegister
  rw [reads.named, reads.orStackPointer.mpr fits]
  cases reg with
  | stackPointer => rfl
  | general number => rfl
  | zero => exact absurd rfl general

/-- There is no base under a name of the zero register. -/
theorem base_none (reads : ReadsAs name number wide reg) (zero : namesZero name = true) :
    baseRegister name = none := by
  unfold baseRegister
  rw [reads.named, reads.zero.mpr zero]

end ReadsAs

/-- A name with a register that is not a floating-point one has a number. -/
theorem parse_of_registerOf {name : RegisterName} {reg : Reg} {wide : Bool}
    (named : registerOf name = some (reg, wide)) :
    exists number, parseRegister name = some (number, wide) := by
  have numbered : forall (value : Nat) (is64bit : Bool),
      (registerOf.numbered value).map (fun reg => (reg, is64bit)) = some (reg, wide) ->
        exists number,
          (Peephole.registerNumber value).map (fun number => (number, is64bit)) =
            some (number, wide) := by
    intro value is64bit mapped
    have below : value < 32 := by
      by_contra large
      rw [registerOf.numbered, dif_neg (by omega), if_neg (by omega)] at mapped
      cases mapped
    have same : is64bit = wide := by
      obtain ⟨_, _, equal⟩ := Option.map_eq_some_iff.mp mapped
      exact congrArg Prod.snd equal
    subst same
    refine ⟨⟨value, below⟩, ?_⟩
    rw [Peephole.registerNumber, dif_pos below]
    rfl
  cases name with
  | x value => exact numbered value true named
  | w value => exact numbered value false named
  | xzr =>
      cases named
      exact ⟨31, rfl⟩
  | wzr =>
      cases named
      exact ⟨31, rfl⟩
  | sp =>
      cases named
      exact ⟨31, rfl⟩
  | wsp =>
      cases named
      exact ⟨31, rfl⟩
  | d _ => cases named
  | v _ => cases named

/-- A register that an instruction can move has a number. -/
theorem parse_of_data {name : RegisterName} {reg : Reg} {wide : Bool}
    (data : dataRegister name = some (reg, wide)) :
    exists number, parseRegister name = some (number, wide) := by
  apply @parse_of_registerOf name reg
  unfold dataRegister at data
  split at data
  · cases data
  · exact data

/-- A base has a number, and 64 bits. -/
theorem parse_of_base {name : RegisterName} {reg : Reg}
    (base : baseRegister name = some reg) : MemoryCall.HasWideBase name := by
  unfold baseRegister at base
  split at base
  · exact parse_of_registerOf ‹_›
  · exact parse_of_registerOf ‹_›
  · cases base

/-! ## One call -/

/-- The words of a call are right when what passes the checks is. -/
theorem sound_iff {call : MemoryCall} {accepted fits : Prop}
    (isSome : call.encode.isSome <-> accepted)
    (faithful : forall encoded, call.encode = some encoded -> (encoded.Faithful <-> fits)) :
    (forall encoded, call.encode = some encoded -> encoded.Faithful) <-> (accepted -> fits) := by
  constructor
  · intro sound passes
    obtain ⟨encoded, made⟩ := Option.isSome_iff_exists.mp (isSome.mpr passes)
    exact (faithful encoded made).mp (sound encoded made)
  · intro right encoded made
    have passes := isSome.mp (Option.isSome_iff_exists.mpr ⟨encoded, made⟩)
    exact (faithful encoded made).mpr (right passes)

/-- A call whose instructions all pass the checks is right when its words are. -/
theorem meets_iff {call : MemoryCall} {accepted fits : Prop}
    (isSome : call.encode.isSome <-> accepted)
    (faithful : forall encoded, call.encode = some encoded -> (encoded.Faithful <-> fits))
    (complete : call.Encodable -> accepted) : call.Meets <-> (accepted -> fits) := by
  unfold MemoryCall.Meets
  rw [sound_iff isSome faithful, and_iff_left]
  exact fun encodable => isSome.mpr (complete encodable)

/-- The word of an access does what its text says when its offset is the one that is named and
the registers fit. -/
theorem faithful_access {xt xn : RegisterName} {rtNum rnNum : Fin 32} {wide : Bool}
    (parsedRt : parseRegister xt = some (rtNum, wide))
    (parsedRn : parseRegister xn = some (rnNum, true)) {encoded : Encoded}
    {operation : Bool -> Reg -> Reg -> Int -> Operation} {immediate offset : Int}
    (sameOffset : forall data base first second,
      operation wide data base first = operation wide data base second -> first = second)
    (denotes : encoded.assembly.denotes = (dataRegister xt).bind fun data =>
      (baseRegister xn).bind fun base => some (operation data.2 data.1 base immediate))
    (decodes : decode encoded.encoding = some (operation wide
      (.orZero (BitVec.ofNat 5 rtNum.val)) (.orStackPointer (BitVec.ofNat 5 rnNum.val)) offset)) :
    encoded.Faithful <->
      offset = immediate ∧ namesStackPointer xt = false ∧ namesZero xn = false := by
  obtain ⟨data, readsData⟩ := readsAs_of_parse parsedRt
  obtain ⟨base, readsBase⟩ := readsAs_of_parse parsedRn
  by_cases dataFits : namesStackPointer xt = false
  · by_cases baseFits : namesZero xn = false
    · rw [readsData.data dataFits, readsBase.base baseFits] at denotes
      rw [Encoded.faithful_iff denotes decodes]
      constructor
      · intro same
        exact ⟨sameOffset _ _ _ _ same, dataFits, baseFits⟩
      · rintro ⟨rfl, _⟩
        rfl
    · rw [readsBase.base_none (by simpa using baseFits), readsData.data dataFits] at denotes
      apply iff_of_false _ (fun fits => baseFits fits.2.2)
      rintro ⟨operation, denoted, _⟩
      rw [denotes] at denoted
      cases denoted
  · rw [readsData.data_none (by simpa using dataFits)] at denotes
    apply iff_of_false _ (fun fits => dataFits fits.2.1)
    rintro ⟨operation, denoted, _⟩
    rw [denotes] at denoted
    cases denoted

/-- The offset is a number of registers. -/
theorem accessOffset_iff (is64bit : Bool) (immediate : Int) :
    MemoryCall.AccessOffset is64bit immediate <->
      immediate.tmod (accessScale is64bit) = 0 ∧ 0 <= immediate ∧
        immediate <= maxOffset is64bit := by
  unfold MemoryCall.AccessOffset
  rw [Int.dvd_iff_tmod_eq_zero]

/-- The scaled offset of an access. -/
theorem accessOffset_scaled {is64bit : Bool} {immediate : Int}
    (offset : MemoryCall.AccessOffset is64bit immediate) :
    (BitVec.ofInt 32 (immediate.tdiv (accessScale is64bit))).toNat < 2 ^ 12 ∧
      accessScale is64bit *
        ((BitVec.ofInt 32 (immediate.tdiv (accessScale is64bit))).setWidth 12).toNat =
          immediate := by
  obtain ⟨divides, lower, upper⟩ := offset
  obtain ⟨quotient, rfl⟩ := divides
  have positive : 0 < accessScale is64bit := by cases is64bit <;> decide
  have whole : (accessScale is64bit * quotient).tdiv (accessScale is64bit) = quotient :=
    Int.mul_tdiv_cancel_left quotient positive.ne'
  have notNegative : 0 <= quotient := Int.nonneg_of_mul_nonneg_right lower positive
  have small : quotient < 2 ^ 12 := by
    cases is64bit with
    | true =>
        change 8 * quotient <= 32760 at upper
        omega
    | false =>
        change 4 * quotient <= 16380 at upper
        omega
  have inWord := @toNat_setWidth_ofInt quotient 32 notNegative (by omega) (by decide)
  have inField := @toNat_setWidth_ofInt quotient 12 notNegative small (by decide)
  rw [BitVec.setWidth_eq] at inWord
  rw [whole, inField]
  refine ⟨?_, rfl⟩
  omega

/-! ## The loads and stores of one register -/

theorem createLdrImm_eq_some {xt xn : RegisterName} {immediate : Int} {variableName : String}
    {encoded : Encoded} (made : createLdrImm xt xn immediate variableName = some encoded) :
    exists rtNum rnNum wide, parseRegister xt = some (rtNum, wide) ∧
      parseRegister xn = some (rnNum, true) ∧ MemoryCall.AccessOffset wide immediate ∧
      encoded.encoding = ldrWord wide immediate rnNum rtNum ∧
      encoded.assembly = .ldr xt xn immediate := by
  simp only [createLdrImm, Option.bind_eq_bind, Option.bind_eq_some_iff] at made
  obtain ⟨⟨rtNum, wide⟩, parsedRt, ⟨rnNum, rnWide⟩, parsedRn, made⟩ := made
  split at made
  · cases made
  · rename_i base
    have wideBase : rnWide = true := (Bool.not_eq_false _).mp base
    subst wideBase
    split at made
    · cases made
    · rename_i range
      cases made
      simp only [not_or, not_not, not_lt, gt_iff_lt] at range
      exact ⟨rtNum, rnNum, wide, parsedRt, parsedRn, (accessOffset_iff wide immediate).mpr range,
        rfl, rfl⟩

theorem createLdrImm_isSome_iff (xt xn : RegisterName) (immediate : Int) (variableName : String) :
    (createLdrImm xt xn immediate variableName).isSome <->
      MemoryCall.AcceptsAccess xt xn immediate := by
  constructor
  · intro given
    obtain ⟨encoded, made⟩ := Option.isSome_iff_exists.mp given
    obtain ⟨rtNum, rnNum, wide, parsedRt, parsedRn, offset, _⟩ := createLdrImm_eq_some made
    exact ⟨rtNum, wide, parsedRt, ⟨rnNum, parsedRn⟩, offset⟩
  · rintro ⟨rtNum, wide, parsedRt, ⟨rnNum, parsedRn⟩, offset⟩
    obtain ⟨multiple, lower, upper⟩ := (accessOffset_iff wide immediate).mp offset
    have range : ¬ (immediate.tmod (accessScale wide) ≠ 0 ∨ immediate < 0 ∨
        immediate > maxOffset wide) := by
      rw [not_or, not_or, not_not]
      exact ⟨multiple, Int.not_lt.mpr lower, Int.not_lt.mpr upper⟩
    simp only [createLdrImm, Option.bind_eq_bind, parsedRt, parsedRn, Option.bind_some, range,
      Bool.true_eq_false, if_false, Option.isSome_some]

theorem createStrImm_eq_some {xt xn : RegisterName} {immediate : Int} {variableName : String}
    {encoded : Encoded} (made : createStrImm xt xn immediate variableName = some encoded) :
    exists rtNum rnNum wide, parseRegister xt = some (rtNum, wide) ∧
      parseRegister xn = some (rnNum, true) ∧ MemoryCall.AccessOffset wide immediate ∧
      encoded.encoding = accessWord (if wide then 0xF9000000#32 else 0xB9000000#32)
        (BitVec.ofInt 32 (immediate.tdiv (accessScale wide))) rnNum rtNum ∧
      encoded.assembly = .str xt xn immediate := by
  simp only [createStrImm, Option.bind_eq_bind, Option.bind_eq_some_iff] at made
  obtain ⟨⟨rtNum, wide⟩, parsedRt, ⟨rnNum, rnWide⟩, parsedRn, made⟩ := made
  split at made
  · cases made
  · rename_i base
    have wideBase : rnWide = true := (Bool.not_eq_false _).mp base
    subst wideBase
    split at made
    · cases made
    · rename_i range
      cases made
      simp only [not_or, not_not, not_lt, gt_iff_lt] at range
      exact ⟨rtNum, rnNum, wide, parsedRt, parsedRn,
        (accessOffset_iff wide immediate).mpr ⟨range.2.2, range.1, range.2.1⟩, rfl, rfl⟩

theorem createStrImm_isSome_iff (xt xn : RegisterName) (immediate : Int) (variableName : String) :
    (createStrImm xt xn immediate variableName).isSome <->
      MemoryCall.AcceptsAccess xt xn immediate := by
  constructor
  · intro given
    obtain ⟨encoded, made⟩ := Option.isSome_iff_exists.mp given
    obtain ⟨rtNum, rnNum, wide, parsedRt, parsedRn, offset, _⟩ := createStrImm_eq_some made
    exact ⟨rtNum, wide, parsedRt, ⟨rnNum, parsedRn⟩, offset⟩
  · rintro ⟨rtNum, wide, parsedRt, ⟨rnNum, parsedRn⟩, offset⟩
    obtain ⟨multiple, lower, upper⟩ := (accessOffset_iff wide immediate).mp offset
    have range : ¬ (immediate < 0 ∨ immediate > maxOffset wide ∨
        immediate.tmod (accessScale wide) ≠ 0) := by
      rw [not_or, not_or, not_not]
      exact ⟨Int.not_lt.mpr lower, Int.not_lt.mpr upper, multiple⟩
    simp only [createStrImm, Option.bind_eq_bind, parsedRt, parsedRn, Option.bind_some, range,
      Bool.true_eq_false, if_false, Option.isSome_some]

/-- An access with an encoding passes the checks. -/
theorem acceptsAccess_of_encodable {xt xn : RegisterName} {immediate : Int}
    (encodable : exists data base wide, dataRegister xt = some (data, wide) ∧
      baseRegister xn = some base ∧ MemoryCall.AccessOffset wide immediate) :
    MemoryCall.AcceptsAccess xt xn immediate := by
  obtain ⟨data, base, wide, isData, isBase, offset⟩ := encodable
  obtain ⟨number, parsed⟩ := parse_of_data isData
  exact ⟨number, wide, parsed, parse_of_base isBase, offset⟩

theorem meets_ldrImm_iff (xt xn : RegisterName) (immediate : Int) (variableName : String) :
    (MemoryCall.ldrImm xt xn immediate variableName).Meets <->
      (MemoryCall.ldrImm xt xn immediate variableName).IsRight := by
  refine @meets_iff (.ldrImm xt xn immediate variableName) _ _
    (createLdrImm_isSome_iff xt xn immediate variableName) ?_ acceptsAccess_of_encodable
  intro encoded made
  obtain ⟨rtNum, rnNum, wide, parsedRt, parsedRn, offset, word, text⟩ := createLdrImm_eq_some made
  obtain ⟨fits, scaled⟩ := accessOffset_scaled offset
  have decodes : decode encoded.encoding = some (.ldr wide (.orZero (BitVec.ofNat 5 rtNum.val))
      (.orStackPointer (BitVec.ofNat 5 rnNum.val)) (accessScale wide *
        ((BitVec.ofInt 32 (immediate.tdiv (accessScale wide))).setWidth 12).toNat)) := by
    rw [word, ldrWord_eq wide fits]
    cases wide with
    | true => exact decode_accessWord (by decide) (by decide) (by decide) rnNum rtNum
    | false => exact decode_accessWord (by decide) (by decide) (by decide) rnNum rtNum
  refine (faithful_access parsedRt parsedRn ?_ (by rw [text]; rfl) decodes).trans
    (and_iff_right scaled)
  intro data base first second same
  exact (Operation.ldr.inj same).2.2.2

theorem meets_strImm_iff (xt xn : RegisterName) (immediate : Int) (variableName : String) :
    (MemoryCall.strImm xt xn immediate variableName).Meets <->
      (MemoryCall.strImm xt xn immediate variableName).IsRight := by
  refine @meets_iff (.strImm xt xn immediate variableName) _ _
    (createStrImm_isSome_iff xt xn immediate variableName) ?_ acceptsAccess_of_encodable
  intro encoded made
  obtain ⟨rtNum, rnNum, wide, parsedRt, parsedRn, offset, word, text⟩ := createStrImm_eq_some made
  obtain ⟨_, scaled⟩ := accessOffset_scaled offset
  have decodes : decode encoded.encoding = some (.str wide (.orZero (BitVec.ofNat 5 rtNum.val))
      (.orStackPointer (BitVec.ofNat 5 rnNum.val)) (accessScale wide *
        ((BitVec.ofInt 32 (immediate.tdiv (accessScale wide))).setWidth 12).toNat)) := by
    rw [word]
    cases wide with
    | true => exact decode_accessWord (by decide) (by decide) (by decide) rnNum rtNum
    | false => exact decode_accessWord (by decide) (by decide) (by decide) rnNum rtNum
  refine (faithful_access parsedRt parsedRn ?_ (by rw [text]; rfl) decodes).trans
    (and_iff_right scaled)
  intro data base first second same
  exact (Operation.str.inj same).2.2.2

/-! ## The loads and stores of a word -/

theorem createLdrWordImm_eq_some {wt xn : RegisterName} {immediate : Int} {encoded : Encoded}
    (made : createLdrWordImm wt xn immediate = some encoded) :
    exists rtNum rnNum, parseRegister wt = some (rtNum, false) ∧
      parseRegister xn = some (rnNum, true) ∧ 0 <= immediate ∧ immediate <= 4095 ∧
      encoded.encoding = accessWord 0xB9400000#32 (BitVec.ofInt 32 immediate) rnNum rtNum ∧
      encoded.assembly = .ldr wt xn immediate := by
  unfold createLdrWordImm at made
  split at made
  · cases made
  · rename_i range
    simp only [Option.bind_eq_bind, Option.bind_eq_some_iff] at made
    obtain ⟨⟨rtNum, wide⟩, parsedRt, ⟨rnNum, rnWide⟩, parsedRn, made⟩ := made
    split at made
    · cases made
    · rename_i base
      have wideBase : rnWide = true := (Bool.not_eq_false _).mp base
      subst wideBase
      split at made
      · cases made
      · rename_i narrow
        have narrowData : wide = false := (Bool.not_eq_true _).mp narrow
        subst narrowData
        cases made
        exact ⟨rtNum, rnNum, parsedRt, parsedRn, by omega, by omega, rfl, rfl⟩

theorem createLdrWordImm_isSome_iff (wt xn : RegisterName) (immediate : Int) :
    (createLdrWordImm wt xn immediate).isSome <-> MemoryCall.AcceptsWord wt xn immediate := by
  constructor
  · intro given
    obtain ⟨encoded, made⟩ := Option.isSome_iff_exists.mp given
    obtain ⟨rtNum, rnNum, parsedRt, parsedRn, lower, upper, _⟩ := createLdrWordImm_eq_some made
    exact ⟨rtNum, parsedRt, ⟨rnNum, parsedRn⟩, lower, upper⟩
  · rintro ⟨rtNum, parsedRt, ⟨rnNum, parsedRn⟩, lower, upper⟩
    have range : ¬ (immediate < 0 ∨ immediate > 4095) := by omega
    simp only [createLdrWordImm, Option.bind_eq_bind, parsedRt, parsedRn, Option.bind_some, range,
      Bool.true_eq_false, Bool.false_eq_true, if_false, Option.isSome_some]

theorem meets_ldrWordImm_iff (wt xn : RegisterName) (immediate : Int) :
    (MemoryCall.ldrWordImm wt xn immediate).Meets <->
      (MemoryCall.ldrWordImm wt xn immediate).IsRight := by
  have isSome := createLdrWordImm_isSome_iff wt xn immediate
  apply and_congr
  · apply @sound_iff (.ldrWordImm wt xn immediate) _ _ isSome
    intro encoded made
    obtain ⟨rtNum, rnNum, parsedRt, parsedRn, lower, upper, word, text⟩ :=
      createLdrWordImm_eq_some made
    have offset := @toNat_setWidth_ofInt immediate 12 lower (by omega) (by decide)
    have decodes : decode encoded.encoding = some (.ldr false
        (.orZero (BitVec.ofNat 5 rtNum.val)) (.orStackPointer (BitVec.ofNat 5 rnNum.val))
        (4 * ((BitVec.ofInt 32 immediate).setWidth 12).toNat)) := by
      rw [word]
      exact decode_accessWord (by decide) (by decide) (by decide) rnNum rtNum
    rw [offset] at decodes
    refine (faithful_access parsedRt parsedRn ?_ (by rw [text]; rfl) decodes).trans
      (and_congr_left fun _ => by omega)
    intro data base first second same
    exact (Operation.ldr.inj same).2.2.2
  · constructor
    · intro complete encodable
      obtain ⟨_, _, _, _, upper⟩ := isSome.mp (complete encodable)
      exact upper
    · intro small encodable
      have upper := small encodable
      obtain ⟨data, base, isData, isBase, _, lower, _⟩ := encodable
      obtain ⟨number, parsed⟩ := parse_of_data isData
      exact isSome.mpr ⟨number, parsed, parse_of_base isBase, lower, upper⟩

/-- The number of a general register is the same for both parsers. -/
theorem getRegEncoding_of_parse {name : RegisterName} {number : Fin 32} {wide : Bool}
    (parsed : parseRegister name = some (number, wide)) : getRegEncoding name = some number := by
  have numbered : forall (value : Nat) (is64bit : Bool),
      (Peephole.registerNumber value).map (fun number => (number, is64bit)) =
        some (number, wide) -> Peephole.registerNumber value = some number := by
    intro value is64bit mapped
    obtain ⟨found, same, equal⟩ := Option.map_eq_some_iff.mp mapped
    cases equal
    exact same
  cases name with
  | x value => exact numbered value true parsed
  | w value => exact numbered value false parsed
  | xzr =>
      cases parsed
      rfl
  | wzr =>
      cases parsed
      rfl
  | sp =>
      cases parsed
      rfl
  | wsp =>
      cases parsed
      rfl
  | d _ => cases parsed
  | v _ => cases parsed

theorem createStrWordImm_eq_some {wt xn : RegisterName} {immediate : Int} {encoded : Encoded}
    (made : createStrWordImm wt xn immediate = some encoded) :
    exists rtNum rnNum, getRegEncoding wt = some rtNum ∧ getRegEncoding xn = some rnNum ∧
      encoded.encoding = accessWord 0xB9000000#32 (BitVec.ofInt 32 immediate &&& 0xFFF#32)
        rnNum rtNum ∧
      encoded.assembly = .strWord wt xn immediate := by
  simp only [createStrWordImm, Option.bind_eq_bind, Option.bind_eq_some_iff] at made
  obtain ⟨rnNum, encodedRn, rtNum, encodedRt, made⟩ := made
  cases made
  exact ⟨rtNum, rnNum, encodedRt, encodedRn, rfl, rfl⟩

/-- The offset that the store of a word keeps. -/
theorem toNat_storedOffset (immediate : Int) :
    (((BitVec.ofInt 32 immediate &&& 0xFFF#32).setWidth 12).toNat : Int) = immediate % 4096 := by
  have masked := @setWidth_and_ones 32 12 (BitVec.ofInt 32 immediate) 32 (by decide) (by decide)
  rw [BitVec.setWidth_eq] at masked
  rw [show (0xFFF#32 : BitVec 32) = BitVec.ofNat 32 (2 ^ 12 - 1) from rfl, masked,
    BitVec.toNat_setWidth, BitVec.toNat_ofInt]
  omega

theorem meets_strWordImm_iff (wt xn : RegisterName) (immediate : Int) :
    (MemoryCall.strWordImm wt xn immediate).Meets <->
      (MemoryCall.strWordImm wt xn immediate).IsRight := by
  have isSome : (MemoryCall.strWordImm wt xn immediate).encode.isSome <->
      (getRegEncoding wt).isSome ∧ (getRegEncoding xn).isSome := by
    change (createStrWordImm wt xn immediate).isSome <-> _
    unfold createStrWordImm
    cases getRegEncoding wt <;> cases getRegEncoding xn <;> simp
  have right : (MemoryCall.strWordImm wt xn immediate).IsRight <->
      ((getRegEncoding wt).isSome ∧ (getRegEncoding xn).isSome ->
        immediate = 0 ∧ (exists data, dataRegister wt = some (data, false)) ∧
          exists base, baseRegister xn = some base) :=
    and_imp.symm
  rw [right]
  apply @meets_iff (.strWordImm wt xn immediate) _ _ isSome
  · intro encoded made
    obtain ⟨rtNum, rnNum, encodedRt, encodedRn, word, text⟩ := createStrWordImm_eq_some made
    have decodes : decode encoded.encoding = some (.str false
        (.orZero (BitVec.ofNat 5 rtNum.val)) (.orStackPointer (BitVec.ofNat 5 rnNum.val))
        (4 * ((BitVec.ofInt 32 immediate &&& 0xFFF#32).setWidth 12).toNat)) := by
      rw [word]
      exact decode_accessWord (by decide) (by decide) (by decide) rnNum rtNum
    rw [toNat_storedOffset] at decodes
    have denotes : encoded.assembly.denotes = (dataRegister wt).bind fun data =>
        (baseRegister xn).bind fun base => some (.str data.2 data.1 base immediate) := by
      rw [text]
      rfl
    constructor
    · rintro ⟨operation, denoted, decoded⟩
      rw [denotes] at denoted
      obtain ⟨⟨data, wide⟩, isData, denoted⟩ := Option.bind_eq_some_iff.mp denoted
      obtain ⟨base, isBase, denoted⟩ := Option.bind_eq_some_iff.mp denoted
      have same := (decodes.symm.trans decoded).trans denoted.symm
      obtain ⟨narrow, _, _, offset⟩ := Operation.str.inj (Option.some.inj same)
      have narrowData : wide = false := narrow.symm
      subst narrowData
      refine ⟨?_, ⟨data, isData⟩, base, isBase⟩
      omega
    · rintro ⟨rfl, ⟨data, isData⟩, base, isBase⟩
      obtain ⟨number, parsedRt⟩ := parse_of_data isData
      obtain ⟨other, parsedRn⟩ := parse_of_base isBase
      cases encodedRt.symm.trans (getRegEncoding_of_parse parsedRt)
      cases encodedRn.symm.trans (getRegEncoding_of_parse parsedRn)
      refine (faithful_access parsedRt parsedRn ?_ denotes decodes).mpr ⟨rfl, ?_, ?_⟩
      · intro data base first second same
        exact (Operation.str.inj same).2.2.2
      · obtain ⟨_, reads⟩ := readsAs_of_parse parsedRt
        apply Bool.eq_false_iff.mpr
        intro pointer
        rw [reads.data_none pointer] at isData
        cases isData
      · obtain ⟨_, reads⟩ := readsAs_of_parse parsedRn
        apply Bool.eq_false_iff.mpr
        intro zero
        rw [reads.base_none zero] at isBase
        cases isBase
  · rintro ⟨data, base, isData, isBase, _⟩
    obtain ⟨number, parsedRt⟩ := parse_of_data isData
    obtain ⟨other, parsedRn⟩ := parse_of_base isBase
    rw [getRegEncoding_of_parse parsedRt, getRegEncoding_of_parse parsedRn]
    exact ⟨rfl, rfl⟩

/-! ## Pairs -/

/-- The offset is a number of registers. -/
theorem pairOffset_iff (is64bit : Bool) (immediate : Int) :
    MemoryCall.PairOffset is64bit immediate <->
      immediate.tmod (accessScale is64bit) = 0 ∧ minPairOffset is64bit <= immediate ∧
        immediate <= maxPairOffset is64bit := by
  unfold MemoryCall.PairOffset
  rw [Int.dvd_iff_tmod_eq_zero]

/-- A pair with an encoding passes the checks. -/
theorem acceptsPair_of_encodable {xt1 xt2 xn : RegisterName} {immediate : Int}
    (encodable : exists first second base wide, dataRegister xt1 = some (first, wide) ∧
      dataRegister xt2 = some (second, wide) ∧ baseRegister xn = some base ∧
      MemoryCall.PairOffset wide immediate) :
    MemoryCall.AcceptsPair xt1 xt2 xn immediate := by
  obtain ⟨first, second, base, wide, isFirst, isSecond, isBase, offset⟩ := encodable
  obtain ⟨firstNum, parsedFirst⟩ := parse_of_data isFirst
  obtain ⟨secondNum, parsedSecond⟩ := parse_of_data isSecond
  exact ⟨firstNum, secondNum, wide, parsedFirst, parsedSecond, parse_of_base isBase, offset⟩

theorem createLdpPostImm_eq_some {xt1 xt2 xn : RegisterName} {immediate : Int}
    {encoded : Encoded} (made : createLdpPostImm xt1 xt2 xn immediate = some encoded) :
    exists rt1Num rt2Num rnNum wide, parseRegister xt1 = some (rt1Num, wide) ∧
      parseRegister xt2 = some (rt2Num, wide) ∧ parseRegister xn = some (rnNum, true) ∧
      MemoryCall.PairOffset wide immediate ∧
      encoded.encoding = ldpPostWord wide immediate rt1Num rt2Num rnNum ∧
      encoded.assembly = .ldpPost xt1 xt2 xn immediate := by
  simp only [createLdpPostImm, Option.bind_eq_bind, Option.bind_eq_some_iff] at made
  obtain ⟨⟨rt1Num, wide⟩, parsedRt1, ⟨rt2Num, wide2⟩, parsedRt2, ⟨rnNum, rnWide⟩, parsedRn, made⟩ :=
    made
  split at made
  · cases made
  · rename_i sizes
    have same : wide = wide2 := not_not.mp sizes
    subst same
    split at made
    · cases made
    · rename_i base
      have wideBase : rnWide = true := (Bool.not_eq_false _).mp base
      subst wideBase
      split at made
      · cases made
      · rename_i range
        cases made
        simp only [not_or, not_not, not_lt, gt_iff_lt] at range
        exact ⟨rt1Num, rt2Num, rnNum, wide, parsedRt1, parsedRt2, parsedRn,
          (pairOffset_iff wide immediate).mpr range, rfl, rfl⟩

theorem createLdpPostImm_isSome_iff (xt1 xt2 xn : RegisterName) (immediate : Int) :
    (createLdpPostImm xt1 xt2 xn immediate).isSome <->
      MemoryCall.AcceptsPair xt1 xt2 xn immediate := by
  constructor
  · intro given
    obtain ⟨encoded, made⟩ := Option.isSome_iff_exists.mp given
    obtain ⟨rt1Num, rt2Num, rnNum, wide, parsedRt1, parsedRt2, parsedRn, offset, _⟩ :=
      createLdpPostImm_eq_some made
    exact ⟨rt1Num, rt2Num, wide, parsedRt1, parsedRt2, ⟨rnNum, parsedRn⟩, offset⟩
  · rintro ⟨rt1Num, rt2Num, wide, parsedRt1, parsedRt2, ⟨rnNum, parsedRn⟩, offset⟩
    obtain ⟨multiple, lower, upper⟩ := (pairOffset_iff wide immediate).mp offset
    have range : ¬ (immediate.tmod (accessScale wide) ≠ 0 ∨ immediate < minPairOffset wide ∨
        immediate > maxPairOffset wide) := by
      rw [not_or, not_or, not_not]
      exact ⟨multiple, Int.not_lt.mpr lower, Int.not_lt.mpr upper⟩
    simp only [createLdpPostImm, Option.bind_eq_bind, parsedRt1, parsedRt2, parsedRn,
      Option.bind_some, range, Bool.true_eq_false, ne_eq, not_true_eq_false, if_false,
      Option.isSome_some]

theorem createStpPreImm_eq_some {xt1 xt2 xn : RegisterName} {immediate : Int}
    {encoded : Encoded} (made : createStpPreImm xt1 xt2 xn immediate = some encoded) :
    exists rt1Num rt2Num rnNum wide, parseRegister xt1 = some (rt1Num, wide) ∧
      parseRegister xt2 = some (rt2Num, wide) ∧ parseRegister xn = some (rnNum, true) ∧
      MemoryCall.PairOffset wide immediate ∧
      encoded.encoding = stpPreWord wide immediate rt1Num rt2Num rnNum ∧
      encoded.assembly = .stpPre xt1 xt2 xn immediate := by
  simp only [createStpPreImm, Option.bind_eq_bind, Option.bind_eq_some_iff] at made
  obtain ⟨⟨rt1Num, wide⟩, parsedRt1, ⟨rt2Num, wide2⟩, parsedRt2, ⟨rnNum, rnWide⟩, parsedRn, made⟩ :=
    made
  split at made
  · cases made
  · rename_i sizes
    have same : wide = wide2 := not_not.mp sizes
    subst same
    split at made
    · cases made
    · rename_i base
      have wideBase : rnWide = true := (Bool.not_eq_false _).mp base
      subst wideBase
      split at made
      · cases made
      · rename_i range
        cases made
        simp only [not_or, not_not, not_lt, gt_iff_lt] at range
        exact ⟨rt1Num, rt2Num, rnNum, wide, parsedRt1, parsedRt2, parsedRn,
          (pairOffset_iff wide immediate).mpr ⟨range.2.2, range.1, range.2.1⟩, rfl, rfl⟩

theorem createStpPreImm_isSome_iff (xt1 xt2 xn : RegisterName) (immediate : Int) :
    (createStpPreImm xt1 xt2 xn immediate).isSome <->
      MemoryCall.AcceptsPair xt1 xt2 xn immediate := by
  constructor
  · intro given
    obtain ⟨encoded, made⟩ := Option.isSome_iff_exists.mp given
    obtain ⟨rt1Num, rt2Num, rnNum, wide, parsedRt1, parsedRt2, parsedRn, offset, _⟩ :=
      createStpPreImm_eq_some made
    exact ⟨rt1Num, rt2Num, wide, parsedRt1, parsedRt2, ⟨rnNum, parsedRn⟩, offset⟩
  · rintro ⟨rt1Num, rt2Num, wide, parsedRt1, parsedRt2, ⟨rnNum, parsedRn⟩, offset⟩
    obtain ⟨multiple, lower, upper⟩ := (pairOffset_iff wide immediate).mp offset
    have range : ¬ (immediate < minPairOffset wide ∨ immediate > maxPairOffset wide ∨
        immediate.tmod (accessScale wide) ≠ 0) := by
      rw [not_or, not_or, not_not]
      exact ⟨Int.not_lt.mpr lower, Int.not_lt.mpr upper, multiple⟩
    simp only [createStpPreImm, Option.bind_eq_bind, parsedRt1, parsedRt2, parsedRn,
      Option.bind_some, range, Bool.true_eq_false, ne_eq, not_true_eq_false, if_false,
      Option.isSome_some]

/-- What the text of a pair denotes when its registers fit, and that it denotes nothing when
they do not. -/
theorem denotes_stpPre {xt1 xt2 xn : RegisterName} {rt1Num rt2Num rnNum : Fin 32} {wide : Bool}
    (parsedRt1 : parseRegister xt1 = some (rt1Num, wide))
    (parsedRt2 : parseRegister xt2 = some (rt2Num, wide))
    (parsedRn : parseRegister xn = some (rnNum, true)) (immediate : Int) :
    (Assembly.stpPre xt1 xt2 xn immediate).denotes =
      if namesStackPointer xt1 = false ∧ namesStackPointer xt2 = false ∧ namesZero xn = false then
        some (.stpPre wide (.orZero (BitVec.ofNat 5 rt1Num.val))
          (.orZero (BitVec.ofNat 5 rt2Num.val)) (.orStackPointer (BitVec.ofNat 5 rnNum.val))
          immediate)
      else none := by
  obtain ⟨_, readsFirst⟩ := readsAs_of_parse parsedRt1
  obtain ⟨_, readsSecond⟩ := readsAs_of_parse parsedRt2
  obtain ⟨_, readsBase⟩ := readsAs_of_parse parsedRn
  unfold Assembly.denotes
  cases first : namesStackPointer xt1 with
  | true => simp [readsFirst.data_none first]
  | false =>
      cases second : namesStackPointer xt2 with
      | true => simp [readsFirst.data first, readsSecond.data_none second]
      | false =>
          cases base : namesZero xn with
          | true =>
              simp [readsFirst.data first, readsSecond.data second, readsBase.base_none base]
          | false => simp [readsFirst.data first, readsSecond.data second, readsBase.base base]

theorem meets_stpPreImm_iff (xt1 xt2 xn : RegisterName) (immediate : Int) :
    (MemoryCall.stpPreImm xt1 xt2 xn immediate).Meets <->
      (MemoryCall.stpPreImm xt1 xt2 xn immediate).IsRight := by
  refine @meets_iff (.stpPreImm xt1 xt2 xn immediate) _ _
    (createStpPreImm_isSome_iff xt1 xt2 xn immediate) ?_ acceptsPair_of_encodable
  intro encoded made
  obtain ⟨rt1Num, rt2Num, rnNum, wide, parsedRt1, parsedRt2, parsedRn, offset, word, text⟩ :=
    createStpPreImm_eq_some made
  obtain ⟨multiple, lower, upper⟩ := (pairOffset_iff wide immediate).mp offset
  have decodes := decode_stpPreWord multiple lower upper rt1Num rt2Num rnNum
  have denotes := denotes_stpPre parsedRt1 parsedRt2 parsedRn immediate
  unfold Encoded.Faithful
  rw [text, word, denotes, decodes]
  by_cases fits : namesStackPointer xt1 = false ∧ namesStackPointer xt2 = false ∧
      namesZero xn = false
  · rw [if_pos fits]
    exact iff_of_true ⟨_, rfl, rfl⟩ fits
  · rw [if_neg fits]
    apply iff_of_false _ fits
    rintro ⟨operation, denoted, _⟩
    cases denoted

/-- The text of a load of a pair denotes an instruction that writes its base. -/
theorem denotes_ldpPost {xt1 xt2 xn : RegisterName} {immediate : Int} {operation : Operation}
    (denotes : (Assembly.ldpPost xt1 xt2 xn immediate).denotes = some operation) :
    exists wide first second base, operation = .ldpPost wide first second base immediate := by
  simp only [Assembly.denotes, Option.bind_eq_bind, Option.bind_eq_some_iff] at denotes
  obtain ⟨⟨first, wide⟩, _, ⟨second, _⟩, _, base, _, denoted⟩ := denotes
  split at denoted
  · cases denoted
  · cases denoted
    exact ⟨_, _, _, _, rfl⟩

theorem meets_ldpPostImm_iff (xt1 xt2 xn : RegisterName) (immediate : Int) :
    (MemoryCall.ldpPostImm xt1 xt2 xn immediate).Meets <->
      (MemoryCall.ldpPostImm xt1 xt2 xn immediate).IsRight := by
  refine @meets_iff (.ldpPostImm xt1 xt2 xn immediate) _ False
    (createLdpPostImm_isSome_iff xt1 xt2 xn immediate) ?_ acceptsPair_of_encodable
  intro encoded made
  obtain ⟨rt1Num, rt2Num, rnNum, wide, _, _, _, _, word, text⟩ := createLdpPostImm_eq_some made
  obtain ⟨offset, decodes⟩ := decode_ldpPostWord wide immediate rt1Num rt2Num rnNum
  refine iff_of_false ?_ not_false
  rintro ⟨operation, denoted, decoded⟩
  rw [text] at denoted
  obtain ⟨_, _, _, _, rfl⟩ := denotes_ldpPost denoted
  rw [word, decodes] at decoded
  exact Operation.noConfusion (Option.some.inj decoded)

/-- The loads and stores are right exactly where the condition says. -/
theorem meets_iff_isRight (call : MemoryCall) : call.Meets <-> call.IsRight := by
  cases call with
  | ldrImm xt xn immediate variableName => exact meets_ldrImm_iff xt xn immediate variableName
  | strImm xt xn immediate variableName => exact meets_strImm_iff xt xn immediate variableName
  | ldrWordImm wt xn immediate => exact meets_ldrWordImm_iff wt xn immediate
  | strWordImm wt xn immediate => exact meets_strWordImm_iff wt xn immediate
  | ldpPostImm xt1 xt2 xn immediate => exact meets_ldpPostImm_iff xt1 xt2 xn immediate
  | stpPreImm xt1 xt2 xn immediate => exact meets_stpPreImm_iff xt1 xt2 xn immediate

/-- The registers of a frame are loaded by an instruction that leaves the stack pointer. -/
theorem frameLoad_misencoded : ¬ forall call : MemoryCall, call.Meets := by
  intro meets
  have sound := (meets (.ldpPostImm (.x 29) (.x 30) .sp 16)).1
  obtain ⟨operation, denotes, decodes⟩ := sound _ rfl
  obtain ⟨_, _, _, _, rfl⟩ := denotes_ldpPost denotes
  have decoded : decode (ldpPostWord true 16 29 30 31) =
      some (.ldnp true (.general 29) (.general 30) .stackPointer 16) := by decide
  exact Operation.noConfusion (Option.some.inj (decoded.symm.trans decodes))

end Encoding
end NewBcpl
