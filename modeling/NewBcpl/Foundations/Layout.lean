import Mathlib.Data.List.Pairwise
import Mathlib.Algebra.Order.Ring.Int

namespace Foundations
namespace Layout

/-!
# Regions placed one after the other

A region is a half-open range of addresses. Placing a list of sizes from a start
gives contiguous regions: they are pairwise disjoint, they lie between the start
and the start plus the total, and whoever contains all of them reaches that end.
-/

/-- The range from `start` up to `start + size`. -/
structure Region where
  start : Int
  size : Int
  deriving DecidableEq, Repr

namespace Region

/-- The first address after the region. -/
def stop (region : Region) : Int := region.start + region.size

/-- Neither region reaches into the other. -/
def Apart (first second : Region) : Prop :=
  first.stop <= second.start ∨ second.stop <= first.start

/-- The region lies in the range from `low` up to `high`. -/
def Within (low high : Int) (region : Region) : Prop :=
  low <= region.start ∧ region.stop <= high

instance (first second : Region) : Decidable (Apart first second) :=
  inferInstanceAs (Decidable (_ ∨ _))

instance (low high : Int) (region : Region) : Decidable (Within low high region) :=
  inferInstanceAs (Decidable (_ ∧ _))

theorem Within.mono {low high low' high' : Int} {region : Region}
    (within : region.Within low high) (lower : low' <= low) (upper : high <= high') :
    region.Within low' high' :=
  ⟨Int.le_trans lower within.1, Int.le_trans within.2 upper⟩

/-- Regions in consecutive ranges are apart. -/
theorem Within.apart {low middle high : Int} {first second : Region}
    (firstWithin : first.Within low middle) (secondWithin : second.Within middle high) :
    first.Apart second :=
  Or.inl (Int.le_trans firstWithin.2 secondWithin.1)

/-- A region that is not empty is not apart from one with the same start. -/
theorem not_apart_of_start {first second : Region} (same : first.start = second.start)
    (firstSize : 0 < first.size) (secondSize : 0 < second.size) :
    ¬ first.Apart second := by
  rintro (before | after)
  · unfold stop at before
    omega
  · unfold stop at after
    omega

end Region

/-- The regions of the given sizes, from a start on. -/
def place (start : Int) : List Int -> List Region
  | [] => []
  | size :: rest => { start := start, size := size } :: place (start + size) rest

/-- The lists of sizes that are all positive. -/
def AllPositive (sizes : List Int) : Prop :=
  forall size, size ∈ sizes -> 0 < size

theorem AllPositive.sum_nonneg {sizes : List Int} (positive : AllPositive sizes) :
    0 <= sizes.sum := by
  induction sizes with
  | nil => exact Int.le_refl 0
  | cons size rest ih =>
      have head := positive size List.mem_cons_self
      have tail := ih fun other member => positive other (List.mem_cons_of_mem size member)
      rw [List.sum_cons]
      omega

theorem place_within {sizes : List Int} (positive : AllPositive sizes) (start : Int) :
    forall region, region ∈ place start sizes ->
      region.Within start (start + sizes.sum) := by
  induction sizes generalizing start with
  | nil => exact fun _ member => nomatch member
  | cons size rest ih =>
      intro region member
      have head := positive size List.mem_cons_self
      have restPositive : AllPositive rest := fun other otherMember =>
        positive other (List.mem_cons_of_mem size otherMember)
      have total := restPositive.sum_nonneg
      rw [List.sum_cons]
      rcases List.mem_cons.mp member with equal | inRest
      · rw [equal]
        constructor
        · exact Int.le_refl start
        · unfold Region.stop
          dsimp only
          omega
      · exact (ih restPositive (start + size) region inRest).mono (by omega) (by omega)

theorem place_apart {sizes : List Int} (positive : AllPositive sizes) (start : Int) :
    (place start sizes).Pairwise Region.Apart := by
  induction sizes generalizing start with
  | nil => exact List.Pairwise.nil
  | cons size rest ih =>
      have restPositive : AllPositive rest := fun other otherMember =>
        positive other (List.mem_cons_of_mem size otherMember)
      refine List.pairwise_cons.mpr ⟨fun region member => ?_, ih restPositive _⟩
      have within := place_within restPositive (start + size) region member
      exact Or.inl within.1

/-- Whoever contains all placed regions, and their start, reaches their end. -/
theorem place_reaches {sizes : List Int} {start high : Int} (starts : start <= high)
    (contains : forall region, region ∈ place start sizes -> region.stop <= high) :
    start + sizes.sum <= high := by
  induction sizes generalizing start with
  | nil => simpa using starts
  | cons size rest ih =>
      have first := contains _ List.mem_cons_self
      have reached := @ih (start + size) first fun region member =>
        contains region (List.mem_cons_of_mem _ member)
      rw [List.sum_cons]
      omega

theorem place_append (start : Int) (first second : List Int) :
    place start (first ++ second) = place start first ++ place (start + first.sum) second := by
  induction first generalizing start with
  | nil => simp [place]
  | cons size rest ih =>
      simp only [List.cons_append, place, List.sum_cons, ih]
      rw [Int.add_assoc]

end Layout
end Foundations
