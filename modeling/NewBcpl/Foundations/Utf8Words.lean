import Mathlib.Data.BitVec
import Mathlib.Tactic.NormNum
import NewBcpl.Foundations.Utf8Pieces

namespace Foundations
namespace Utf8

/-!
# UTF-8 with masks and shifts

The bytes of a code point that stands in a word of any width: each byte is a mark and the
digits that a shift and a mask take out of the word. A byte is put into a word of 32 bits to be
tested and to be appended to the digits before it.
-/

section Encoding

/-! ## Words to bytes -/

variable {w : Nat}

/-- The bytes of a code point with so many continuation bytes. -/
def wordBytes (codePoint : BitVec w) : Nat -> List (BitVec 8)
  | 0 => [codePoint.setWidth 8]
  | 1 =>
      [(0xC0#w ||| ((codePoint >>> 6) &&& 0x1F#w)).setWidth 8,
        (0x80#w ||| (codePoint &&& 0x3F#w)).setWidth 8]
  | 2 =>
      [(0xE0#w ||| ((codePoint >>> 12) &&& 0x0F#w)).setWidth 8,
        (0x80#w ||| ((codePoint >>> 6) &&& 0x3F#w)).setWidth 8,
        (0x80#w ||| (codePoint &&& 0x3F#w)).setWidth 8]
  | _ =>
      [(0xF0#w ||| ((codePoint >>> 18) &&& 0x07#w)).setWidth 8,
        (0x80#w ||| ((codePoint >>> 12) &&& 0x3F#w)).setWidth 8,
        (0x80#w ||| ((codePoint >>> 6) &&& 0x3F#w)).setWidth 8,
        (0x80#w ||| (codePoint &&& 0x3F#w)).setWidth 8]

/-- A mark and the digits below it. -/
theorem marked_toNat (wide : 8 ≤ w) (codePoint : BitVec w) {mark : Nat}
    (bits shift : Nat) (aligned : exists count, mark = 2 ^ bits * count)
    (fits : mark + 2 ^ bits ≤ 256) :
    ((BitVec.ofNat w mark |||
      ((codePoint >>> shift) &&& BitVec.ofNat w (2 ^ bits - 1))).setWidth 8).toNat =
        mark + codePoint.toNat / 2 ^ shift % 2 ^ bits := by
  have positive : 0 < 2 ^ bits := Nat.two_pow_pos bits
  have below : codePoint.toNat / 2 ^ shift % 2 ^ bits < 2 ^ bits := Nat.mod_lt _ positive
  have room : 256 ≤ 2 ^ w := Nat.pow_le_pow_right (show 0 < 2 by decide) wide
  rw [BitVec.toNat_setWidth, BitVec.toNat_or, BitVec.toNat_and, BitVec.toNat_ushiftRight,
    BitVec.toNat_ofNat, BitVec.toNat_ofNat, Nat.mod_eq_of_lt (show mark < 2 ^ w by omega),
    Nat.mod_eq_of_lt (show 2 ^ bits - 1 < 2 ^ w by omega), Nat.and_two_pow_sub_one_eq_mod,
    Nat.shiftRight_eq_div_pow]
  rcases aligned with ⟨count, rfl⟩
  rw [<- Nat.two_pow_add_eq_or_of_lt below count]
  exact Nat.mod_eq_of_lt (by omega)

/-- The same for the lowest digits. -/
theorem marked_low_toNat (wide : 8 ≤ w) (codePoint : BitVec w) {mark : Nat}
    (bits : Nat) (aligned : exists count, mark = 2 ^ bits * count)
    (fits : mark + 2 ^ bits ≤ 256) :
    ((BitVec.ofNat w mark |||
      (codePoint &&& BitVec.ofNat w (2 ^ bits - 1))).setWidth 8).toNat =
        mark + codePoint.toNat % 2 ^ bits := by
  have marked := marked_toNat wide codePoint bits 0 aligned fits
  rwa [BitVec.ushiftRight_zero, Nat.pow_zero, Nat.div_one] at marked

/-- The bytes of a code point in a word are the bytes of the code point. -/
theorem wordBytes_toNat (wide : 8 ≤ w) {codePoint : BitVec w}
    (bounded : codePoint.toNat ≤ 0x10FFFF) :
    (wordBytes codePoint (extraBytes codePoint.toNat)).map BitVec.toNat =
      encoded codePoint.toNat := by
  have tail : ((0x80#w ||| (codePoint &&& 0x3F#w)).setWidth 8).toNat =
      0x80 + codePoint.toNat % 64 := marked_low_toNat wide codePoint 6 ⟨2, rfl⟩ (by decide)
  have middle : ((0x80#w ||| ((codePoint >>> 6) &&& 0x3F#w)).setWidth 8).toNat =
      0x80 + codePoint.toNat / 64 % 64 :=
    marked_toNat wide codePoint 6 6 ⟨2, rfl⟩ (by decide)
  have upper : ((0x80#w ||| ((codePoint >>> 12) &&& 0x3F#w)).setWidth 8).toNat =
      0x80 + codePoint.toNat / 4096 % 64 :=
    marked_toNat wide codePoint 6 12 ⟨2, rfl⟩ (by decide)
  rcases lead_cases bounded with ⟨extra, below, first⟩ | ⟨extra, above, below, first⟩ |
    ⟨extra, above, below, first⟩ | ⟨extra, above, below, first⟩
  · rw [encoded, extra, first, wordBytes, List.map_singleton, BitVec.toNat_setWidth,
      Nat.mod_eq_of_lt (by omega)]
    rfl
  · have leading : ((0xC0#w ||| ((codePoint >>> 6) &&& 0x1F#w)).setWidth 8).toNat =
        0xC0 + codePoint.toNat / 64 % 32 :=
      marked_toNat wide codePoint 5 6 ⟨6, rfl⟩ (by decide)
    rw [encoded, extra, first, wordBytes]
    simp only [List.map_cons, List.map_nil, tail, leading, continuations]
    norm_num
    omega
  · have leading : ((0xE0#w ||| ((codePoint >>> 12) &&& 0x0F#w)).setWidth 8).toNat =
        0xE0 + codePoint.toNat / 4096 % 16 :=
      marked_toNat wide codePoint 4 12 ⟨14, rfl⟩ (by decide)
    rw [encoded, extra, first, wordBytes]
    simp only [List.map_cons, List.map_nil, tail, middle, leading, continuations]
    norm_num
    omega
  · have leading : ((0xF0#w ||| ((codePoint >>> 18) &&& 0x07#w)).setWidth 8).toNat =
        0xF0 + codePoint.toNat / 262144 % 8 :=
      marked_toNat wide codePoint 3 18 ⟨30, rfl⟩ (by decide)
    rw [encoded, extra, first, wordBytes]
    · simp only [List.map_cons, List.map_nil, tail, middle, upper, leading, continuations]
      norm_num
      omega
    all_goals decide

end Encoding

section Decoding

/-! ## Bytes to words -/

theorem ascii_byte (byte : BitVec 8) (below : byte.toNat < 0x80) :
    byte.setWidth 32 &&& 0x80#32 = 0#32 := by
  revert byte
  decide

/-- The test for a continuation byte. -/
theorem continuation_byte_iff (byte : BitVec 8) :
    byte &&& 0xC0#8 = 0x80#8 <-> IsContinuation byte.toNat := by
  revert byte
  decide

theorem lead_two (byte : BitVec 8) (above : 0xC0 ≤ byte.toNat) (below : byte.toNat < 0xE0) :
    byte.setWidth 32 &&& 0x80#32 ≠ 0#32 ∧ byte.setWidth 32 &&& 0xE0#32 = 0xC0#32 ∧
      (byte.setWidth 32 &&& 0x1F#32).toNat = byte.toNat - 0xC0 := by
  revert byte
  decide

theorem lead_three (byte : BitVec 8) (above : 0xE0 ≤ byte.toNat) (below : byte.toNat < 0xF0) :
    byte.setWidth 32 &&& 0x80#32 ≠ 0#32 ∧ byte.setWidth 32 &&& 0xE0#32 ≠ 0xC0#32 ∧
      byte.setWidth 32 &&& 0xF0#32 = 0xE0#32 ∧
        (byte.setWidth 32 &&& 0x0F#32).toNat = byte.toNat - 0xE0 := by
  revert byte
  decide

theorem lead_four (byte : BitVec 8) (above : 0xF0 ≤ byte.toNat) (below : byte.toNat < 0xF8) :
    byte.setWidth 32 &&& 0x80#32 ≠ 0#32 ∧ byte.setWidth 32 &&& 0xE0#32 ≠ 0xC0#32 ∧
      byte.setWidth 32 &&& 0xF0#32 ≠ 0xE0#32 ∧ byte.setWidth 32 &&& 0xF8#32 = 0xF0#32 ∧
        (byte.setWidth 32 &&& 0x07#32).toNat = byte.toNat - 0xF0 := by
  revert byte
  decide

/-- The step of the decoder appends a digit. -/
theorem appended_toNat (c : BitVec 32) (byte : BitVec 8) (small : c.toNat < 2 ^ 26) :
    ((c <<< 6) ||| (byte.setWidth 32 &&& 0x3F#32)).toNat = c.toNat * 64 + byte.toNat % 64 := by
  have digit : (byte.setWidth 32 &&& 0x3F#32).toNat = byte.toNat % 64 := by
    rw [BitVec.toNat_and, BitVec.toNat_setWidth, Nat.mod_eq_of_lt (by omega)]
    exact Nat.and_two_pow_sub_one_eq_mod byte.toNat 6
  have below : byte.toNat % 64 < 2 ^ 6 := Nat.mod_lt _ (by decide)
  rw [BitVec.toNat_or, digit, BitVec.toNat_shiftLeft, Nat.shiftLeft_eq,
    Nat.mod_eq_of_lt (by omega), Nat.mul_comm, <- Nat.two_pow_add_eq_or_of_lt below c.toNat]

/-- The bytes that lead no sequence fall through all the tests. -/
theorem stray_byte (byte : BitVec 8) (leadsNone : announced byte.toNat = none) :
    byte.setWidth 32 &&& 0x80#32 ≠ 0#32 ∧ byte.setWidth 32 &&& 0xE0#32 ≠ 0xC0#32 ∧
      byte.setWidth 32 &&& 0xF0#32 ≠ 0xE0#32 ∧ byte.setWidth 32 &&& 0xF8#32 ≠ 0xF0#32 := by
  revert byte
  decide

end Decoding

end Utf8
end Foundations
