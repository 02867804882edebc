namespace Foundations
namespace PartialState

/-!
# Computations over a state that may have no result

A computation takes a state to a result and a new state, or to nothing. Two
relations are used to compare computations under an assertion on states: they
agree from every state that satisfies it, and a computation leads from one
assertion to another. Both are compositional in `andThen`.
-/

universe u v w

variable {State : Type u} {First : Type v} {Second : Type w}

/-- A computation with a result of the given type. -/
abbrev Computation (State : Type u) (Result : Type v) : Type (max u v) :=
  State -> Option (Result × State)

/-- The computation that returns a result without looking at the state. -/
def give (result : First) : Computation State First :=
  fun state => some (result, state)

/-- The computation that returns a result if there is one. -/
def lift (result : Option First) : Computation State First :=
  fun state => result.map fun value => (value, state)

/-- One computation after another. -/
def andThen (first : Computation State First)
    (next : First -> Computation State Second) : Computation State Second :=
  fun state =>
    match first state with
    | none => none
    | some (result, middle) => next result middle

/-- Two computations agree from every state with the assertion. -/
def Agree (before : State -> Prop) (first second : Computation State First) : Prop :=
  forall state, before state -> first state = second state

/-- A computation takes states with one assertion to states with another. -/
def Leads (before : State -> Prop) (computation : Computation State First)
    (after : State -> Prop) : Prop :=
  forall state result final, before state ->
    computation state = some (result, final) -> after final

theorem andThen_some {first : Computation State First}
    {next : First -> Computation State Second} {state middle : State} {result : First}
    (step : first state = some (result, middle)) :
    andThen first next state = next result middle := by
  unfold andThen
  rw [step]

theorem andThen_none {first : Computation State First}
    {next : First -> Computation State Second} {state : State}
    (step : first state = none) : andThen first next state = none := by
  unfold andThen
  rw [step]

section Rules

variable {before middle after : State -> Prop}

theorem Agree.refl (computation : Computation State First) :
    Agree before computation computation := fun _ _ => rfl

theorem Agree.andThen {first firstOther : Computation State First}
    {next nextOther : First -> Computation State Second}
    (agree : Agree before first firstOther) (leads : Leads before firstOther middle)
    (agreeNext : forall result, Agree middle (next result) (nextOther result)) :
    Agree before (andThen first next) (andThen firstOther nextOther) := by
  intro state holds
  unfold PartialState.andThen
  rw [agree state holds]
  cases step : firstOther state with
  | none => rfl
  | some pair => exact agreeNext pair.1 pair.2 (leads state pair.1 pair.2 holds step)

theorem Leads.andThen {first : Computation State First}
    {next : First -> Computation State Second} (leads : Leads before first middle)
    (leadsNext : forall result, Leads middle (next result) after) :
    Leads before (andThen first next) after := by
  intro state result final holds equal
  cases step : first state with
  | none =>
      rw [andThen_none step] at equal
      cases equal
  | some pair =>
      rw [andThen_some step] at equal
      exact leadsNext pair.1 pair.2 result final
        (leads state pair.1 pair.2 holds step) equal

theorem Leads.weaken {computation : Computation State First}
    (leads : Leads before computation middle)
    (implies : forall state, middle state -> after state) :
    Leads before computation after :=
  fun state result final holds equal => implies final (leads state result final holds equal)

theorem Leads.lift {result : Option First} : Leads before (lift result) before := by
  intro state value final holds equal
  cases result with
  | none => cases equal
  | some found =>
      simp only [PartialState.lift, Option.map_some, Option.some.injEq,
        Prod.mk.injEq] at equal
      rw [<- equal.2]
      exact holds

theorem Leads.give {result : First} : Leads before (give result) before := by
  change Leads before (PartialState.lift (some result)) before
  exact Leads.lift

end Rules

end PartialState
end Foundations
