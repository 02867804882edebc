import Mathlib.Algebra.Ring.Nat
import Mathlib.Data.List.Basic

namespace Foundations
namespace Utf8

/-!
# UTF-8 as arithmetic

A code point is spelled by a lead byte, which holds its highest digits to the base 64 and
tells how many continuation bytes follow, and by one continuation byte for each further
digit. Reading the digits back, one byte after the other, gives the code point.
-/

/-- The code points that are not surrogates. -/
def IsScalar (codePoint : Nat) : Prop :=
  codePoint < 0xD800 ∨ (0xE000 ≤ codePoint ∧ codePoint ≤ 0x10FFFF)

instance : DecidablePred IsScalar := fun codePoint =>
  inferInstanceAs (Decidable (codePoint < 0xD800 ∨ (0xE000 ≤ codePoint ∧ codePoint ≤ 0x10FFFF)))

/-- How many continuation bytes a code point has. -/
def extraBytes (codePoint : Nat) : Nat :=
  if codePoint < 0x80 then 0
  else if codePoint < 0x800 then 1
  else if codePoint < 0x10000 then 2
  else 3

/-- What a lead byte adds to the digits it holds. -/
def leadMark : Nat -> Nat
  | 0 => 0
  | 1 => 0xC0
  | 2 => 0xE0
  | _ => 0xF0

/-- The lead byte. -/
def lead (codePoint : Nat) : Nat :=
  leadMark (extraBytes codePoint) + codePoint / 64 ^ extraBytes codePoint

/-- The continuation bytes of the lowest digits, the highest of them first. -/
def continuations (codePoint : Nat) : Nat -> List Nat
  | 0 => []
  | count + 1 => (0x80 + codePoint / 64 ^ count % 64) :: continuations codePoint count

/-- The bytes of a code point. -/
def encoded (codePoint : Nat) : List Nat :=
  lead codePoint :: continuations codePoint (extraBytes codePoint)

section Lengths

/-! ## Lengths and ranges -/

theorem length_continuations (codePoint count : Nat) :
    (continuations codePoint count).length = count := by
  induction count with
  | zero => rfl
  | succ count counted => rw [continuations, List.length_cons, counted]

theorem length_encoded (codePoint : Nat) :
    (encoded codePoint).length = extraBytes codePoint + 1 := by
  rw [encoded, List.length_cons, length_continuations]

/-- The classes of code points, with the range of the lead byte of each. -/
theorem lead_cases {codePoint : Nat} (bounded : codePoint ≤ 0x10FFFF) :
    (extraBytes codePoint = 0 ∧ codePoint < 0x80 ∧ lead codePoint = codePoint) ∨
    (extraBytes codePoint = 1 ∧ 0x80 ≤ codePoint ∧ codePoint < 0x800 ∧
      lead codePoint = 0xC0 + codePoint / 64) ∨
    (extraBytes codePoint = 2 ∧ 0x800 ≤ codePoint ∧ codePoint < 0x10000 ∧
      lead codePoint = 0xE0 + codePoint / 4096) ∨
    (extraBytes codePoint = 3 ∧ 0x10000 ≤ codePoint ∧ codePoint ≤ 0x10FFFF ∧
      lead codePoint = 0xF0 + codePoint / 262144) := by
  by_cases one : codePoint < 0x80
  · have extra : extraBytes codePoint = 0 := if_pos one
    refine Or.inl ⟨extra, one, ?_⟩
    rw [lead, extra]
    simp [leadMark]
  by_cases two : codePoint < 0x800
  · have extra : extraBytes codePoint = 1 := by rw [extraBytes, if_neg one, if_pos two]
    refine Or.inr (Or.inl ⟨extra, by omega, two, ?_⟩)
    rw [lead, extra]
    rfl
  by_cases three : codePoint < 0x10000
  · have extra : extraBytes codePoint = 2 := by
      rw [extraBytes, if_neg one, if_neg two, if_pos three]
    refine Or.inr (Or.inr (Or.inl ⟨extra, by omega, three, ?_⟩))
    rw [lead, extra]
    rfl
  · have extra : extraBytes codePoint = 3 := by
      rw [extraBytes, if_neg one, if_neg two, if_neg three]
    refine Or.inr (Or.inr (Or.inr ⟨extra, by omega, bounded, ?_⟩))
    rw [lead, extra]
    rfl

end Lengths

section Digits

/-! ## Digits -/

/-- One more digit. -/
theorem digit_step (codePoint count : Nat) :
    codePoint / 64 ^ (count + 1) * 64 + codePoint / 64 ^ count % 64 = codePoint / 64 ^ count := by
  rw [Nat.pow_succ, <- Nat.div_div_eq_div_mul]
  exact Nat.div_add_mod' _ _

/-- A continuation byte holds its digit. -/
theorem continuation_digit (codePoint count : Nat) :
    0x80 ≤ 0x80 + codePoint / 64 ^ count % 64 ∧ 0x80 + codePoint / 64 ^ count % 64 < 0xC0 ∧
      (0x80 + codePoint / 64 ^ count % 64) % 64 = codePoint / 64 ^ count % 64 := by
  have small : codePoint / 64 ^ count % 64 < 64 := Nat.mod_lt _ (by decide)
  omega

end Digits

end Utf8
end Foundations
