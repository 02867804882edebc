import Mathlib.Data.Nat.ModEq
import Mathlib.Data.List.Basic

namespace Foundations
namespace BitPatterns

/-!
# Periodic bit patterns

A bit vector is periodic up to some width when each bit below the width is the bit at its place
in the first element. Replication makes such vectors, and rotation keeps them.
-/

variable {width : Nat}

/-- Each bit below a bound is that of its place in the first element. -/
def Periodic (bound size : Nat) (value : BitVec width) : Prop :=
  forall place, place < bound -> value.getLsbD place = value.getLsbD (place % size)

/-- A period stays one for each larger size that it divides. -/
theorem Periodic.of_dvd {bound small large : Nat} {value : BitVec width}
    (periodic : Periodic bound small value) (divides : small ∣ large) :
    Periodic bound large value := by
  intro place below
  have inElement : place % large < bound := lt_of_le_of_lt (Nat.mod_le place large) below
  rw [periodic place below, periodic (place % large) inElement, Nat.mod_mod_of_dvd place divides]

/-- A size that reaches up to the bound is a period. -/
theorem Periodic.of_le {bound size : Nat} (value : BitVec width) (reaches : bound <= size) :
    Periodic bound size value := by
  intro place below
  rw [Nat.mod_eq_of_lt (lt_of_lt_of_le below reaches)]

/-- A vector that agrees with a rotation of its first element is periodic. -/
theorem Periodic.of_rotated {bound size rotation : Nat} {value : BitVec width}
    (rotated : forall place, place < bound ->
      value.getLsbD place = value.getLsbD ((place + rotation) % size)) :
    Periodic bound size value := by
  intro place below
  have inElement : place % size < bound := lt_of_le_of_lt (Nat.mod_le place size) below
  rw [rotated place below, rotated (place % size) inElement, Nat.mod_add_mod]

/-- Or-ing shifted copies of a pattern replicates it. -/
theorem getLsbD_foldl_shiftLeft (pattern : BitVec width) {size : Nat} (positive : 0 < size)
    (narrow : forall place, size <= place -> pattern.getLsbD place = false) (count place : Nat)
    (below : place < width) :
    ((List.range count).foldl (fun value i => value ||| pattern <<< (i * size))
      (BitVec.ofNat width 0)).getLsbD place =
      (decide (place < count * size) && pattern.getLsbD (place % size)) := by
  induction count with
  | zero => simp
  | succ count hypothesis =>
      rw [List.range_succ, List.foldl_append, List.foldl_cons, List.foldl_nil, BitVec.getLsbD_or,
        hypothesis, BitVec.getLsbD_shiftLeft, Nat.add_one_mul]
      by_cases before : place < count * size
      · have inside : place < count * size + size := by omega
        simp [before, inside]
      · by_cases inside : place < count * size + size
        · have offset : place % size = place - count * size := by
            rw [← Nat.mod_eq_of_lt (show place - count * size < size by omega),
              ← Nat.add_mul_mod_self_right (place - count * size) count size,
              Nat.sub_add_cancel (Nat.le_of_not_lt before)]
          simp [before, inside, below, offset]
        · have beyond : size <= place - count * size := by omega
          simp [before, inside, narrow _ beyond]

/-- A shift to the right and one to the left make a rotation. -/
theorem getLsbD_shift_or_shift (value : BitVec width) {rotation place : Nat}
    (small : rotation < width) (below : place < width) :
    (value >>> (rotation % width) ||| value <<< ((width - rotation) % width)).getLsbD place =
      value.getLsbD ((place + rotation) % width) := by
  rw [BitVec.getLsbD_or, BitVec.getLsbD_ushiftRight, BitVec.getLsbD_shiftLeft,
    Nat.mod_eq_of_lt small]
  by_cases zero : rotation = 0
  · subst zero
    rw [Nat.sub_zero, Nat.mod_self, Nat.add_zero, Nat.mod_eq_of_lt below, Nat.zero_add,
      Nat.sub_zero]
    simp [below]
  · rw [Nat.mod_eq_of_lt (show width - rotation < width by omega)]
    by_cases inside : place + rotation < width
    · have before : place < width - rotation := by omega
      rw [Nat.mod_eq_of_lt inside, Nat.add_comm]
      simp [before]
    · have wrapped : (place + rotation) % width = place - (width - rotation) := by
        rw [Nat.mod_eq_sub_mod (Nat.le_of_not_lt inside),
          Nat.mod_eq_of_lt (show place + rotation - width < width by omega)]
        omega
      have after : ¬ place < width - rotation := by omega
      have beyond : value.getLsbD (rotation + place) = false :=
        BitVec.getLsbD_of_ge value _ (by omega)
      rw [wrapped, beyond]
      simp [after, below]

/-- A bit of a rotated vector. -/
theorem getLsbD_rotateRight_mod (value : BitVec width) {rotation place : Nat}
    (small : rotation < width) (below : place < width) :
    (value.rotateRight rotation).getLsbD place = value.getLsbD ((place + rotation) % width) := by
  rw [BitVec.getLsbD_rotateRight, Nat.mod_eq_of_lt small]
  by_cases inside : place < width - rotation
  · rw [decide_eq_true inside, cond_true, Nat.add_comm,
      Nat.mod_eq_of_lt (show place + rotation < width by omega)]
  · rw [decide_eq_false inside, cond_false, decide_eq_true below, Bool.true_and,
      Nat.mod_eq_sub_mod (show width <= place + rotation by omega),
      Nat.mod_eq_of_lt (show place + rotation - width < width by omega),
      show place - (width - rotation) = place + rotation - width by omega]

/-- A bit of a replicated element. -/
theorem getLsbD_replicate_of_dvd {size : Nat} (element : BitVec size) {bound place : Nat}
    (divides : size ∣ bound) (below : place < bound) :
    ((element.replicate (bound / size)).setWidth bound).getLsbD place =
      element.getLsbD (place % size) := by
  have full : size * (bound / size) = bound := Nat.mul_div_cancel' divides
  rw [BitVec.getLsbD_setWidth, BitVec.getLsbD_replicate, full]
  simp [below]

/-- A replicated element is periodic. -/
theorem periodic_replicate {size bound : Nat} (element : BitVec size) (divides : size ∣ bound) :
    Periodic bound size ((element.replicate (bound / size)).setWidth bound) := by
  intro place below
  have inElement : place % size < bound := lt_of_le_of_lt (Nat.mod_le place size) below
  rw [getLsbD_replicate_of_dvd element divides below,
    getLsbD_replicate_of_dvd element divides inElement, Nat.mod_mod]

end BitPatterns
end Foundations
