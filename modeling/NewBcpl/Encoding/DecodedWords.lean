import NewBcpl.Encoding.Encoders
import NewBcpl.Foundations.SignedFields

namespace NewBcpl
namespace Encoding

open Foundations.BitFields
open Foundations.SignedFields

/-!
# The operations of the words

What the processor makes of each word that an encoder builds, in the numbers of its fields.
-/

/-! ## Fields -/

/-- A register number in its field. -/
theorem setWidth_fieldOf (number : Fin 32) :
    (fieldOf number).setWidth 5 = BitVec.ofNat 5 number.val := by
  unfold fieldOf
  rw [BitVec.setWidth_ofNat_of_le (by decide)]

/-- The size flag changes no other field. -/
theorem read_withSize {numBits : Nat} {field : PatchField numBits} (disjoint : field.Disjoint sf)
    (base : BitVec 32) (is64bit : Bool) : field.read (withSize base is64bit) = field.read base := by
  unfold withSize
  cases is64bit with
  | true => exact PatchField.read_patch_of_disjoint disjoint base 1#32
  | false => rfl

/-- The size flag. -/
theorem read_sf_withSize {base : BitVec 32} (narrow : sf.read base = 0#1) (is64bit : Bool) :
    sf.read (withSize base is64bit) = BitVec.ofBool is64bit := by
  unfold withSize
  cases is64bit with
  | true => exact PatchField.read_patch sf base 1#32
  | false => exact narrow

/-- A nonnegative immediate in a field that holds it. -/
theorem toNat_setWidth_ofInt {immediate : Int} {numBits : Nat} (positive : 0 <= immediate)
    (fits : immediate < 2 ^ numBits) (narrow : numBits <= 32) :
    (((BitVec.ofInt 32 immediate).setWidth numBits).toNat : Int) = immediate := by
  obtain ⟨value, rfl⟩ := Int.eq_ofNat_of_zero_le positive
  have small : value < 2 ^ numBits := by exact_mod_cast fits
  have inWord : value < 2 ^ 32 := small.trans_le (Nat.pow_le_pow_right (by decide) narrow)
  rw [BitVec.toNat_setWidth, BitVec.toNat_ofInt]
  change (((((value : Int) % ((2 ^ 32 : Nat) : Int)).toNat) % 2 ^ numBits : Nat) : Int) = value
  rw [← Int.natCast_mod, Int.toNat_natCast, Nat.mod_eq_of_lt inWord, Nat.mod_eq_of_lt small]

/-! ## Classes -/

/-- A wide move. -/
theorem decode_eq_moveWide {word : BitVec 32} (fam : family.read word = 0b100101#6) :
    decode word = decodeMoveWide word := by
  unfold decode
  rw [fam, if_neg (by decide), if_pos rfl]

/-- A word that is of none of the three classes with an immediate. -/
def NoImmediate (word : BitVec 32) : Prop :=
  family.read word ≠ 0b100010#6 ∧ family.read word ≠ 0b100101#6 ∧ family.read word ≠ 0b100110#6

instance (word : BitVec 32) : Decidable (NoImmediate word) :=
  inferInstanceAs (Decidable (_ ∧ _ ∧ _))

/-- A logical operation. -/
theorem decode_eq_logical {word : BitVec 32} (other : NoImmediate word)
    (fam : registerFamily.read word = 0b01010#5) : decode word = decodeLogical word := by
  unfold decode
  rw [if_neg other.1, if_neg other.2.1, if_neg other.2.2, if_pos fam]

/-- A load or a store of one register. -/
theorem decode_eq_access {word : BitVec 32} (other : NoImmediate word)
    (notLogical : registerFamily.read word ≠ 0b01010#5)
    (fam : accessFamily.read word = 0b111001#6) : decode word = decodeAccess word := by
  unfold decode
  rw [if_neg other.1, if_neg other.2.1, if_neg other.2.2, if_neg notLogical, if_pos fam]

/-- A load or a store of a pair. -/
theorem decode_eq_pair {word : BitVec 32} (other : NoImmediate word)
    (notLogical : registerFamily.read word ≠ 0b01010#5)
    (notAccess : accessFamily.read word ≠ 0b111001#6)
    (fam : pairFamily.read word = 0b10100#5) : decode word = decodePair word := by
  unfold decode
  rw [if_neg other.1, if_neg other.2.1, if_neg other.2.2, if_neg notLogical, if_neg notAccess,
    if_pos fam]

/-! ## Arithmetic and moves -/

/-- The word for an immediate has the fields of its base. -/
theorem decode_arithmeticWord {base : BitVec 32} (fam : family.read base = 0b100010#6)
    (unshifted : bit22.read base = 0#1) (narrow : sf.read base = 0#1) (is64bit : Bool)
    {immediate : Int} (positive : 0 <= immediate) (small : immediate <= 4095)
    (rnNum rdNum : Fin 32) :
    decode (arithmeticWord base is64bit immediate rnNum rdNum) = some
      (match (opc.read base).toNat with
      | 0 => .add false is64bit (.orStackPointer (BitVec.ofNat 5 rdNum.val))
          (.orStackPointer (BitVec.ofNat 5 rnNum.val)) immediate
      | 1 => .add true is64bit (.orZero (BitVec.ofNat 5 rdNum.val))
          (.orStackPointer (BitVec.ofNat 5 rnNum.val)) immediate
      | 2 => .sub false is64bit (.orStackPointer (BitVec.ofNat 5 rdNum.val))
          (.orStackPointer (BitVec.ofNat 5 rnNum.val)) immediate
      | _ => .sub true is64bit (.orZero (BitVec.ofNat 5 rdNum.val))
          (.orStackPointer (BitVec.ofNat 5 rnNum.val)) immediate) := by
  have fits := toNat_setWidth_ofInt positive (show immediate < 2 ^ 12 by omega) (by decide)
  have wide : (BitVec.ofBool is64bit == 1#1) = is64bit := by cases is64bit <;> decide
  unfold decode arithmeticWord
  simp (disch := decide) only [PatchField.read_patch_of_disjoint, read_withSize, fam, if_true,
    decodeArithmetic, isWide, PatchField.read_patch, setWidth_fieldOf, read_sf_withSize narrow,
    unshifted, wide]
  have unmoved : (if (0#1 : BitVec 1) = 1#1 then 12 else 0) = 0 := by decide
  rw [unmoved, Nat.shiftLeft_zero, fits]
  all_goals rfl

/-- The second patch of the source register does nothing. -/
theorem addWord_eq (is64bit : Bool) (immediate : Int) (rnNum rdNum : Fin 32) :
    addWord is64bit immediate rnNum rdNum =
      arithmeticWord 0x11000000#32 is64bit immediate rnNum rdNum := by
  unfold addWord arithmeticWord
  simp only [patch_patch]

/-- The word of a move is an `ORR` with the zero register. -/
theorem decode_moveWord (is64bit : Bool) (rdNum rnNum : Fin 32) :
    decode (moveWord is64bit rdNum rnNum) =
      some (.orr is64bit (.orZero (BitVec.ofNat 5 rdNum.val)) .zero
        (.orZero (BitVec.ofNat 5 rnNum.val))) := by
  have wide : (BitVec.ofBool is64bit == 1#1) = is64bit := by cases is64bit <;> decide
  have narrow : sf.read 0x2A000000#32 = 0#1 := by decide
  have plain : opc.read 0x2A000000#32 = 0b01#2 ∧ access.read 0x2A000000#32 = 0b00#2 ∧
      bit21.read 0x2A000000#32 = 0#1 ∧ imms.read 0x2A000000#32 = 0#6 := by decide
  have zero : Reg.orZero (BitVec.ofNat 5 (31 : Fin 32).val) = .zero := by decide
  rw [decode_eq_logical]
  · unfold decodeLogical moveWord
    simp (disch := decide) only [PatchField.read_patch_of_disjoint, read_withSize, plain, isWide,
      PatchField.read_patch, setWidth_fieldOf, read_sf_withSize narrow, wide, zero, and_self, if_true]
  · unfold NoImmediate moveWord
    simp (disch := decide) only [PatchField.read_patch_of_disjoint, read_withSize]
    decide
  · unfold moveWord
    simp (disch := decide) only [PatchField.read_patch_of_disjoint, read_withSize]
    decide

/-- The word of a wide move. -/
theorem decode_moveWideWord {base : BitVec 32} (fam : family.read base = 0b100101#6)
    (narrow : sf.read base = 0#1) (is64bit : Bool) {shift : Nat} (small : shift < 64)
    (allowed : is64bit = false -> shift < 32) (immediate : BitVec 16) (rdNum : Fin 32) :
    decode (moveWideWord base is64bit shift immediate rdNum) =
      match (opc.read base).toNat with
      | 2 => some (.movz is64bit (.orZero (BitVec.ofNat 5 rdNum.val)) immediate
          (BitVec.ofNat 2 (shift / 16)))
      | 3 => some (.movk is64bit (.orZero (BitVec.ofNat 5 rdNum.val)) immediate
          (BitVec.ofNat 2 (shift / 16)))
      | _ => none := by
  have wide : (BitVec.ofBool is64bit == 1#1) = is64bit := by cases is64bit <;> decide
  have slice : (BitVec.ofNat 32 (shift / 16)).setWidth 2 = BitVec.ofNat 2 (shift / 16) :=
    BitVec.setWidth_ofNat_of_le (by decide) _
  have whole : (immediate.setWidth 32).setWidth 16 = immediate := by
    rw [BitVec.setWidth_setWidth_of_le _ (by decide), BitVec.setWidth_eq]
  have inRange : ¬ (is64bit = false ∧ 2 <= (BitVec.ofNat 2 (shift / 16)).toNat) := by
    rintro ⟨half, large⟩
    have below := allowed half
    rw [BitVec.toNat_ofNat] at large
    omega
  rw [decode_eq_moveWide]
  · unfold decodeMoveWide moveWideWord
    simp (disch := decide) only [PatchField.read_patch_of_disjoint, read_withSize, isWide,
      PatchField.read_patch, setWidth_fieldOf, read_sf_withSize narrow, wide, slice, whole,
      inRange, if_false]
    all_goals rfl
  · unfold moveWideWord
    simp (disch := decide) only [PatchField.read_patch_of_disjoint, read_withSize, fam]

/-! ## Loads and stores -/

/-- The word of a load or a store. -/
theorem decode_accessWord {base immediate : BitVec 32} (other : NoImmediate base)
    (notLogical : registerFamily.read base ≠ 0b01010#5)
    (fam : accessFamily.read base = 0b111001#6) (rnNum rtNum : Fin 32) :
    decode (accessWord base immediate rnNum rtNum) =
      match (size.read base).toNat, (access.read base).toNat with
      | 2, 0 => some (.str false (.orZero (BitVec.ofNat 5 rtNum.val))
          (.orStackPointer (BitVec.ofNat 5 rnNum.val)) (4 * (immediate.setWidth 12).toNat))
      | 2, 1 => some (.ldr false (.orZero (BitVec.ofNat 5 rtNum.val))
          (.orStackPointer (BitVec.ofNat 5 rnNum.val)) (4 * (immediate.setWidth 12).toNat))
      | 3, 0 => some (.str true (.orZero (BitVec.ofNat 5 rtNum.val))
          (.orStackPointer (BitVec.ofNat 5 rnNum.val)) (8 * (immediate.setWidth 12).toNat))
      | 3, 1 => some (.ldr true (.orZero (BitVec.ofNat 5 rtNum.val))
          (.orStackPointer (BitVec.ofNat 5 rnNum.val)) (8 * (immediate.setWidth 12).toNat))
      | _, _ => none := by
  rw [decode_eq_access]
  · unfold decodeAccess accessWord
    simp (disch := decide) only [PatchField.read_patch_of_disjoint, PatchField.read_patch,
      setWidth_fieldOf]
    all_goals rfl
  · unfold NoImmediate accessWord
    simp (disch := decide) only [PatchField.read_patch_of_disjoint]
    exact other
  · unfold accessWord
    simp (disch := decide) only [PatchField.read_patch_of_disjoint]
    exact notLogical
  · unfold accessWord
    simp (disch := decide) only [PatchField.read_patch_of_disjoint, fam]

/-- A register number fits its field. -/
theorem fieldOf_lt (number : Fin 32) : (fieldOf number).toNat < 2 ^ 5 := by
  have small := number.isLt
  unfold fieldOf
  rw [BitVec.toNat_ofNat]
  omega

/-- Or-ing register numbers into their empty fields. -/
theorem or_rn_eq_patch {word : BitVec 32} (empty : rn.read word = 0#5) (number : Fin 32) :
    word ||| fieldOf number <<< 5 = patch word (fieldOf number) rn :=
  or_shiftLeft_eq_patch rn empty (fieldOf_lt number)

theorem or_rt2_eq_patch {word : BitVec 32} (empty : rt2.read word = 0#5) (number : Fin 32) :
    word ||| fieldOf number <<< 10 = patch word (fieldOf number) rt2 :=
  or_shiftLeft_eq_patch rt2 empty (fieldOf_lt number)

theorem or_rd_eq_patch {word : BitVec 32} (empty : rd.read word = 0#5) (number : Fin 32) :
    word ||| fieldOf number = patch word (fieldOf number) rd := by
  have patched := or_shiftLeft_eq_patch rd empty (fieldOf_lt number)
  rw [show rd.startBit = 0 from rfl, BitVec.shiftLeft_zero] at patched
  exact patched

/-- A load is put together by or-ing its fields, which are empty. -/
theorem ldrWord_eq (is64bit : Bool) {immediate : Int}
    (fits : (BitVec.ofInt 32 (immediate.tdiv (accessScale is64bit))).toNat < 2 ^ 12)
    (rnNum rtNum : Fin 32) :
    ldrWord is64bit immediate rnNum rtNum =
      accessWord (if is64bit then 0xF9400000#32 else 0xB9400000#32)
        (BitVec.ofInt 32 (immediate.tdiv (accessScale is64bit))) rnNum rtNum := by
  have empty : imm12.read (if is64bit then 0xF9400000#32 else 0xB9400000#32) = 0#12 ∧
      rn.read (if is64bit then 0xF9400000#32 else 0xB9400000#32) = 0#5 ∧
      rd.read (if is64bit then 0xF9400000#32 else 0xB9400000#32) = 0#5 := by
    cases is64bit <;> decide
  have offset := or_shiftLeft_eq_patch imm12 empty.1 fits
  unfold ldrWord accessWord
  rw [show (10 : Nat) = imm12.startBit from rfl, offset, or_rn_eq_patch, or_rd_eq_patch]
  · simp (disch := decide) only [PatchField.read_patch_of_disjoint, empty]
  · simp (disch := decide) only [PatchField.read_patch_of_disjoint, empty]

/-! ## Pairs -/

/-- The word of a pair, with the fields that are patched. -/
def pairWord (base value : BitVec 32) (rt1Num rt2Num rnNum : Fin 32) : BitVec 32 :=
  patch (patch (patch (patch base value imm7) (fieldOf rt2Num) rt2) (fieldOf rnNum) rn)
    (fieldOf rt1Num) rd

/-- A word of this form is a load or a store of a pair. -/
theorem decode_pairWord {base value : BitVec 32} (other : NoImmediate base)
    (notLogical : registerFamily.read base ≠ 0b01010#5)
    (notAccess : accessFamily.read base ≠ 0b111001#6)
    (fam : pairFamily.read base = 0b10100#5) (is64bit : Bool)
    (sized : (size.read base).toNat = if is64bit then 2 else 0) (rt1Num rt2Num rnNum : Fin 32) :
    decode (pairWord base value rt1Num rt2Num rnNum) = some
      (decodePair.operation (indexing.read base).toNat (bit22.read base == 1#1) is64bit
        (.orZero (BitVec.ofNat 5 rt1Num.val)) (.orZero (BitVec.ofNat 5 rt2Num.val))
        (.orStackPointer (BitVec.ofNat 5 rnNum.val))
        (accessScale is64bit * (value.setWidth 7).toInt)) := by
  rw [decode_eq_pair]
  · unfold decodePair pairWord
    simp (disch := decide) only [PatchField.read_patch_of_disjoint, PatchField.read_patch,
      setWidth_fieldOf, sized]
    cases is64bit <;> rfl
  · unfold NoImmediate pairWord
    simp (disch := decide) only [PatchField.read_patch_of_disjoint]
    exact other
  · unfold pairWord
    simp (disch := decide) only [PatchField.read_patch_of_disjoint]
    exact notLogical
  · unfold pairWord
    simp (disch := decide) only [PatchField.read_patch_of_disjoint]
    exact notAccess
  · unfold pairWord
    simp (disch := decide) only [PatchField.read_patch_of_disjoint, fam]

/-- The word of a load of a pair is put together by or-ing its fields. -/
theorem ldpPostWord_eq (is64bit : Bool) (immediate : Int) (rt1Num rt2Num rnNum : Fin 32) :
    ldpPostWord is64bit immediate rt1Num rt2Num rnNum =
      pairWord (if is64bit then 0xA8400000#32 else 0x28400000#32)
        (BitVec.ofInt 32 immediate / BitVec.ofInt 32 (accessScale is64bit) &&& 0x7F#32)
        rt1Num rt2Num rnNum := by
  have empty : imm7.read (if is64bit then 0xA8400000#32 else 0x28400000#32) = 0#7 ∧
      rt2.read (if is64bit then 0xA8400000#32 else 0x28400000#32) = 0#5 ∧
      rn.read (if is64bit then 0xA8400000#32 else 0x28400000#32) = 0#5 ∧
      rd.read (if is64bit then 0xA8400000#32 else 0x28400000#32) = 0#5 := by
    cases is64bit <;> decide
  have fits : (BitVec.ofInt 32 immediate / BitVec.ofInt 32 (accessScale is64bit) &&&
      0x7F#32).toNat < 2 ^ 7 := by
    rw [BitVec.toNat_and]
    exact Nat.and_lt_two_pow _ (by decide)
  have offset := or_shiftLeft_eq_patch imm7 empty.1 fits
  unfold ldpPostWord pairWord
  simp only
  rw [show (15 : Nat) = imm7.startBit from rfl, offset, or_rt2_eq_patch, or_rn_eq_patch,
    or_rd_eq_patch]
  · simp (disch := decide) only [PatchField.read_patch_of_disjoint, empty]
  · simp (disch := decide) only [PatchField.read_patch_of_disjoint, empty]
  · simp (disch := decide) only [PatchField.read_patch_of_disjoint, empty]

/-- A load of a pair that is to write its base afterwards is one without allocation, which does
not write it. -/
theorem decode_ldpPostWord (is64bit : Bool) (immediate : Int) (rt1Num rt2Num rnNum : Fin 32) :
    exists offset, decode (ldpPostWord is64bit immediate rt1Num rt2Num rnNum) =
      some (.ldnp is64bit (.orZero (BitVec.ofNat 5 rt1Num.val))
        (.orZero (BitVec.ofNat 5 rt2Num.val)) (.orStackPointer (BitVec.ofNat 5 rnNum.val))
        offset) := by
  rw [ldpPostWord_eq]
  cases is64bit with
  | true =>
      exact ⟨_, decode_pairWord (by decide) (by decide) (by decide) (by decide) true rfl
        rt1Num rt2Num rnNum⟩
  | false =>
      exact ⟨_, decode_pairWord (by decide) (by decide) (by decide) (by decide) false rfl
        rt1Num rt2Num rnNum⟩

/-- The scaled offset of a pair. -/
theorem pairOffset_eq {is64bit : Bool} {immediate : Int}
    (multiple : immediate.tmod (accessScale is64bit) = 0)
    (lower : minPairOffset is64bit <= immediate) (upper : immediate <= maxPairOffset is64bit) :
    accessScale is64bit *
      ((BitVec.ofInt 32 (immediate.tdiv (accessScale is64bit)) &&& 0x7F#32).setWidth 7).toInt =
        immediate := by
  have positive : 0 < accessScale is64bit := by cases is64bit <;> decide
  have divides : accessScale is64bit ∣ immediate := Int.dvd_of_tmod_eq_zero multiple
  have ones : (0x7F#32 : BitVec 32) = BitVec.ofNat 32 (2 ^ 7 - 1) := rfl
  have cut : (BitVec.ofInt 32 (immediate.tdiv (accessScale is64bit)) &&& 0x7F#32).setWidth 7 =
      (BitVec.ofInt 32 (immediate.tdiv (accessScale is64bit))).setWidth 7 := by
    have masked := @setWidth_and_ones 32 7
      (BitVec.ofInt 32 (immediate.tdiv (accessScale is64bit))) 32 (by decide) (by decide)
    rw [BitVec.setWidth_eq] at masked
    exact masked
  rw [cut, toInt_setWidth_eq_bmod _ (by decide), BitVec.toInt_ofInt,
    Int.bmod_bmod_of_dvd (by decide)]
  apply (@scale_mul_bmod_eq_iff (accessScale is64bit) immediate _ 6 positive
    fun _ => Int.mul_tdiv_cancel' divides).mpr
  refine ⟨Int.emod_eq_zero_of_dvd divides, ?_, ?_⟩
  · cases is64bit with
    | true => exact lower
    | false => exact lower
  · cases is64bit with
    | true =>
        change (8 : Int) ∣ immediate at divides
        change immediate <= 504 at upper
        change immediate < 8 * 2 ^ 6
        omega
    | false =>
        change (4 : Int) ∣ immediate at divides
        change immediate <= 252 at upper
        change immediate < 4 * 2 ^ 6
        omega

/-- A store of a pair. -/
theorem decode_stpPreWord {is64bit : Bool} {immediate : Int}
    (multiple : immediate.tmod (accessScale is64bit) = 0)
    (lower : minPairOffset is64bit <= immediate) (upper : immediate <= maxPairOffset is64bit)
    (rt1Num rt2Num rnNum : Fin 32) :
    decode (stpPreWord is64bit immediate rt1Num rt2Num rnNum) =
      some (.stpPre is64bit (.orZero (BitVec.ofNat 5 rt1Num.val))
        (.orZero (BitVec.ofNat 5 rt2Num.val)) (.orStackPointer (BitVec.ofNat 5 rnNum.val))
        immediate) := by
  have offset := pairOffset_eq multiple lower upper
  have word : stpPreWord is64bit immediate rt1Num rt2Num rnNum =
      pairWord (if is64bit then 0xA9800000#32 else 0x29800000#32)
        (BitVec.ofInt 32 (immediate.tdiv (accessScale is64bit)) &&& 0x7F#32)
        rt1Num rt2Num rnNum := rfl
  rw [word]
  cases is64bit with
  | true =>
      have decoded := @decode_pairWord 0xA9800000#32
        (BitVec.ofInt 32 (immediate.tdiv (accessScale true)) &&& 0x7F#32) (by decide) (by decide)
        (by decide) (by decide) true rfl rt1Num rt2Num rnNum
      rw [offset] at decoded
      exact decoded
  | false =>
      have decoded := @decode_pairWord 0x29800000#32
        (BitVec.ofInt 32 (immediate.tdiv (accessScale false)) &&& 0x7F#32) (by decide) (by decide)
        (by decide) (by decide) false rfl rt1Num rt2Num rnNum
      rw [offset] at decoded
      exact decoded

end Encoding
end NewBcpl
