import Mathlib.Computability.StateTransition

namespace Foundations
namespace LongRuns

open StateTransition

/-!
# Runs of at least so many steps

A run from which every number of steps can be taken does not end. Runs that are put
together last as long as their last part.
-/

universe u

variable {Config : Type u} {step : Config -> Option Config} {first middle last : Config}
  {count : Nat}

/-- At least so many steps can be taken. -/
def Lasts (step : Config -> Option Config) : Nat -> Config -> Prop
  | 0, _ => True
  | count + 1, first => exists next, step first = some next ∧ Lasts step count next

theorem Lasts.of_succ (lasts : Lasts step (count + 1) first) : Lasts step count first := by
  induction count generalizing first with
  | zero => trivial
  | succ count ih =>
      rcases lasts with ⟨next, steps, lasts⟩
      exact ⟨next, steps, ih lasts⟩

theorem Lasts.of_le {fewer : Nat} (lasts : Lasts step count first) (le : fewer ≤ count) :
    Lasts step fewer first := by
  induction le with
  | refl => exact lasts
  | step _ ih => exact ih lasts.of_succ

theorem Lasts.after (reaches : Reaches step first middle) (lasts : Lasts step count middle) :
    Lasts step count first := by
  induction reaches using Relation.ReflTransGen.head_induction_on with
  | refl => exact lasts
  | head steps _ ih => exact Lasts.of_succ ⟨_, steps, ih⟩

/-- A run that ends does not last for ever. -/
theorem not_lasts (ends : last ∈ eval step first) : exists count, ¬ Lasts step count first := by
  refine evalInduction ends fun config _ later => ?_
  cases steps : step config with
  | none =>
      refine ⟨1, ?_⟩
      rintro ⟨next, taken, _⟩
      rw [steps] at taken
      cases taken
  | some next =>
      rcases later next steps with ⟨count, ends⟩
      refine ⟨count + 1, ?_⟩
      rintro ⟨other, taken, lasts⟩
      rw [steps] at taken
      cases taken
      exact ends lasts

end LongRuns
end Foundations
