import NewBcpl.Foundations.PartialState

namespace Foundations
namespace FueledLoop

open PartialState

/-!
# Runs with fuel

The run of a command ends in a state, is cut off in a state when its fuel is
used up, or has no meaning. Fuel is spent on the back edges of loops only, so
two commands with the same outcome at every fuel have the same finite runs and,
when neither ends, run through the same states. Commands are compared under an
assertion on states, as computations are.
-/

universe u

variable {State : Type u}

/-- The outcome of a run. -/
inductive Outcome (State : Type u) where
  | finished (state : State)
  | unfinished (state : State)
  | stuck

namespace Outcome

/-- Continue a run that finished. -/
def andThen (outcome : Outcome State) (next : State -> Outcome State) : Outcome State :=
  match outcome with
  | finished state => next state
  | unfinished state => unfinished state
  | stuck => stuck

end Outcome

/-- A command. -/
abbrev Command (State : Type u) : Type u := State -> Outcome State

/-- One command after another. -/
def sequence (first second : Command State) : Command State :=
  fun state => (first state).andThen second

/-- A command that depends on a computed value. -/
def computing {Result : Type} (computation : Computation State Result)
    (next : Result -> Command State) : Command State :=
  fun state =>
    match computation state with
    | none => .stuck
    | some (result, middle) => next result middle

/-- A loop that tests before each round. -/
def iterate (test : Computation State Bool) (body : Command State) :
    Nat -> Command State
  | 0 => computing test fun continues =>
      if continues then sequence body .unfinished else .finished
  | fuel + 1 => computing test fun continues =>
      if continues then sequence body (iterate test body fuel) else .finished

/-- Two commands have the same outcome from every state with the assertion. -/
def Same (before : State -> Prop) (first second : Command State) : Prop :=
  forall state, before state -> first state = second state

/-- A command that finishes takes states with one assertion to states with
another. -/
def Reaches (before : State -> Prop) (command : Command State)
    (after : State -> Prop) : Prop :=
  forall state final, before state -> command state = .finished final -> after final

section Rules

variable {before middle after : State -> Prop}

theorem Same.refl (command : Command State) : Same before command command :=
  fun _ _ => rfl

theorem Reaches.weaken {command : Command State} (reaches : Reaches before command middle)
    (implies : forall state, middle state -> after state) :
    Reaches before command after :=
  fun state final holds finished => implies final (reaches state final holds finished)

theorem Same.sequence {first firstOther second secondOther : Command State}
    (sameFirst : Same before first firstOther)
    (reaches : Reaches before firstOther middle)
    (sameSecond : Same middle second secondOther) :
    Same before (sequence first second) (sequence firstOther secondOther) := by
  intro state holds
  unfold FueledLoop.sequence
  rw [sameFirst state holds]
  cases outcome : firstOther state with
  | finished final => exact sameSecond final (reaches state final holds outcome)
  | unfinished final => rfl
  | stuck => rfl

theorem Reaches.sequence {first second : Command State}
    (reachesFirst : Reaches before first middle)
    (reachesSecond : Reaches middle second after) :
    Reaches before (sequence first second) after := by
  intro state final holds finished
  unfold FueledLoop.sequence at finished
  cases outcome : first state with
  | finished reached =>
      rw [outcome] at finished
      exact reachesSecond reached final (reachesFirst state reached holds outcome) finished
  | unfinished reached =>
      rw [outcome] at finished
      cases finished
  | stuck =>
      rw [outcome] at finished
      cases finished

theorem Same.computing {Result : Type} {computation other : Computation State Result}
    {next nextOther : Result -> Command State}
    (agree : Agree before computation other) (leads : Leads before other middle)
    (same : forall result, Same middle (next result) (nextOther result)) :
    Same before (computing computation next) (computing other nextOther) := by
  intro state holds
  unfold FueledLoop.computing
  rw [agree state holds]
  cases step : other state with
  | none => rfl
  | some pair => exact same pair.1 pair.2 (leads state pair.1 pair.2 holds step)

theorem Reaches.computing {Result : Type} {computation : Computation State Result}
    {next : Result -> Command State} (leads : Leads before computation middle)
    (reaches : forall result, Reaches middle (next result) after) :
    Reaches before (computing computation next) after := by
  intro state final holds finished
  unfold FueledLoop.computing at finished
  cases step : computation state with
  | none =>
      rw [step] at finished
      cases finished
  | some pair =>
      rw [step] at finished
      exact reaches pair.1 pair.2 final (leads state pair.1 pair.2 holds step) finished

theorem Reaches.finished : Reaches before Outcome.finished before := by
  intro state final holds finished
  cases finished
  exact holds

theorem Reaches.unfinished : Reaches before Outcome.unfinished after := by
  intro state final holds finished
  cases finished

/-- The loop rule for two loops: an invariant that holds before every test, and
an assertion that holds after every test. -/
theorem Same.iterate {invariant : State -> Prop} {test testOther : Computation State Bool}
    {body bodyOther : Command State}
    (agree : Agree invariant test testOther) (leads : Leads invariant testOther middle)
    (same : Same middle body bodyOther) (keeps : Reaches middle bodyOther invariant)
    (fuel : Nat) :
    Same invariant (iterate test body fuel) (iterate testOther bodyOther fuel) := by
  induction fuel with
  | zero =>
      refine Same.computing agree leads fun continues => ?_
      cases continues with
      | false => exact Same.refl _
      | true => exact Same.sequence same keeps (Same.refl _)
  | succ fuel ih =>
      refine Same.computing agree leads fun continues => ?_
      cases continues with
      | false => exact Same.refl _
      | true => exact Same.sequence same keeps ih

/-- The loop rule for one loop. -/
theorem Reaches.iterate {invariant : State -> Prop} {test : Computation State Bool}
    {body : Command State} (leads : Leads invariant test middle)
    (keeps : Reaches middle body invariant) (fuel : Nat) :
    Reaches invariant (iterate test body fuel) middle := by
  induction fuel with
  | zero =>
      refine Reaches.computing leads fun continues => ?_
      cases continues with
      | false => exact Reaches.finished
      | true => exact Reaches.sequence keeps Reaches.unfinished
  | succ fuel ih =>
      refine Reaches.computing leads fun continues => ?_
      cases continues with
      | false => exact Reaches.finished
      | true => exact Reaches.sequence keeps ih

/-- A loop whose test fails at once ends where the test leads. -/
theorem iterate_exit {test : Computation State Bool} (body : Command State)
    {state final : State} (exits : test state = some (false, final)) (fuel : Nat) :
    iterate test body fuel state = .finished final := by
  cases fuel <;> simp [iterate, FueledLoop.computing, exits]

end Rules

end FueledLoop
end Foundations
