import NewBcpl.Foundations.PartialState

namespace Foundations
namespace PartialState

/-!
# Transported and commuting computations

Two ways in which a computation may fail to see a change around it. A computation
is transported along a map of states when it does on the images what another does on
the states themselves. Two computations commute when running them in either order
gives the same two results in the same state. Both are compositional in `andThen`.
-/

universe u v w x y

variable {State : Type u} {First : Type v} {Second : Type w} {Third : Type x}

/-- On the images under `through`, the second computation does what the first does. -/
def Transports (through : State -> State) (original image : Computation State First) :
    Prop :=
  forall state, image (through state) =
    (original state).map fun outcome => (outcome.1, through outcome.2)

/-- The order of the two computations does not matter. -/
def Commute (first : Computation State First) (second : Computation State Second) : Prop :=
  forall state,
    andThen first (fun one => andThen second fun two => give (one, two)) state =
      andThen second (fun two => andThen first fun one => give (one, two)) state

/-- Two runs end alike: both without a result, or with the same result in related
states. -/
def EndsAlike {Image : Type y} (related : State -> Image -> Prop) :
    Option (First × State) -> Option (First × Image) -> Prop
  | some (result, final), some (imageResult, imageFinal) =>
      imageResult = result ∧ related final imageFinal
  | none, none => True
  | _, _ => False

/-- A computation that leaves every state as it is. -/
def Quiet (computation : Computation State First) : Prop :=
  forall state result final, computation state = some (result, final) -> final = state

theorem andThen_give (computation : Computation State First) :
    andThen computation give = computation := by
  funext state
  cases step : computation state with
  | none => rw [andThen_none step]
  | some outcome =>
      rw [andThen_some step]
      rfl

theorem give_andThen (result : First) (next : First -> Computation State Second) :
    andThen (give result) next = next result := by
  funext state
  rfl

theorem andThen_assoc (first : Computation State First)
    (second : First -> Computation State Second)
    (third : Second -> Computation State Third) :
    andThen (andThen first second) third =
      andThen first fun one => andThen (second one) third := by
  funext state
  cases step : first state with
  | none => rw [andThen_none step, andThen_none (andThen_none step)]
  | some outcome =>
      rw [andThen_some step]
      unfold andThen
      rw [step]

section Transport

variable {through : State -> State}

theorem Transports.some {original image : Computation State First}
    (transports : Transports through original image) {state final : State}
    {result : First} (step : original state = some (result, final)) :
    image (through state) = some (result, through final) := by
  rw [transports state, step]
  rfl

theorem Transports.none {original image : Computation State First}
    (transports : Transports through original image) {state : State}
    (step : original state = none) : image (through state) = none := by
  rw [transports state, step]
  rfl

theorem Transports.andThen {original image : Computation State First}
    {next nextImage : First -> Computation State Second}
    (transports : Transports through original image)
    (transportsNext : forall result, Transports through (next result) (nextImage result)) :
    Transports through (andThen original next) (andThen image nextImage) := by
  intro state
  cases step : original state with
  | none => rw [andThen_none step, andThen_none (transports.none step)]; rfl
  | some outcome =>
      rw [andThen_some step, andThen_some (transports.some step)]
      exact transportsNext outcome.1 outcome.2

theorem Transports.lift (result : Option First) :
    Transports through (lift result) (lift result) := by
  intro state
  cases result with
  | none => rfl
  | some value => rfl

theorem Transports.give (result : First) :
    Transports through (give result) (give result) :=
  fun _ => rfl

end Transport

section Ending

variable {Image : Type y} {related after : State -> Image -> Prop}

theorem EndsAlike.andThen {original : Computation State First}
    {image : Computation Image First} {next : First -> Computation State Second}
    {nextImage : First -> Computation Image Second} {state : State} {imageState : Image}
    (alike : EndsAlike related (original state) (image imageState))
    (alikeNext : forall result final imageFinal, original state = some (result, final) ->
      related final imageFinal ->
        EndsAlike after (next result final) (nextImage result imageFinal)) :
    EndsAlike after (andThen original next state)
      (andThen image nextImage imageState) := by
  cases step : original state with
  | none =>
      cases imageStep : image imageState with
      | none =>
          rw [andThen_none step, andThen_none imageStep]
          exact trivial
      | some outcome =>
          rw [step, imageStep] at alike
          exact alike.elim
  | some outcome =>
      cases imageStep : image imageState with
      | none =>
          rw [step, imageStep] at alike
          exact alike.elim
      | some imageOutcome =>
          rw [step, imageStep] at alike
          rw [andThen_some step, andThen_some imageStep, alike.1]
          exact alikeNext outcome.1 outcome.2 imageOutcome.2 step alike.2

theorem EndsAlike.weaken {original : Option (First × State)}
    {image : Option (First × Image)} (alike : EndsAlike related original image)
    (implies : forall final imageFinal, related final imageFinal -> after final imageFinal) :
    EndsAlike after original image := by
  cases original with
  | none =>
      cases image with
      | none => exact trivial
      | some _ => exact alike.elim
  | some outcome =>
      cases image with
      | none => exact alike.elim
      | some imageOutcome => exact ⟨alike.1, implies outcome.2 imageOutcome.2 alike.2⟩

/-- The final states may be remembered as the ends of the runs. -/
theorem EndsAlike.remember {original : Option (First × State)}
    {image : Option (First × Image)} (alike : EndsAlike related original image) :
    EndsAlike (fun final imageFinal => related final imageFinal ∧
      exists result, original = some (result, final)) original image := by
  cases original with
  | none =>
      cases image with
      | none => exact trivial
      | some _ => exact alike.elim
  | some outcome =>
      cases image with
      | none => exact alike.elim
      | some imageOutcome => exact ⟨alike.1, alike.2, outcome.1, rfl⟩

end Ending

section Commutation

variable {first : Computation State First} {second : Computation State Second}

/-- Commuting computations may change places in front of any continuation. -/
theorem Commute.swap (commute : Commute first second)
    (next : First -> Second -> Computation State Third) :
    andThen first (fun one => andThen second fun two => next one two) =
      andThen second (fun two => andThen first fun one => next one two) := by
  have left : andThen first (fun one => andThen second fun two => next one two) =
      andThen (andThen first fun one => andThen second fun two => give (one, two))
        fun pair => next pair.1 pair.2 := by
    simp only [andThen_assoc, give_andThen]
  have right : andThen second (fun two => andThen first fun one => next one two) =
      andThen (andThen second fun two => andThen first fun one => give (one, two))
        fun pair => next pair.1 pair.2 := by
    simp only [andThen_assoc, give_andThen]
  rw [left, right]
  congr 1
  funext state
  exact commute state

theorem Commute.give (result : Second) : Commute first (give result) := by
  intro state
  rw [give_andThen]
  rfl

theorem Commute.andThen {next : Second -> Computation State Third}
    (commute : Commute first second)
    (commuteNext : forall result, Commute first (next result)) :
    Commute first (andThen second next) := by
  intro state
  rw [andThen_assoc]
  have moved : PartialState.andThen first (fun one =>
      PartialState.andThen (PartialState.andThen second next) fun three =>
        PartialState.give (one, three)) =
      PartialState.andThen second (fun two => PartialState.andThen first fun one =>
        PartialState.andThen (next two) fun three => PartialState.give (one, three)) := by
    rw [<- commute.swap fun one two => PartialState.andThen (next two) fun three =>
      PartialState.give (one, three)]
    simp only [andThen_assoc]
  rw [moved]
  congr 1
  funext two
  exact (commuteNext two).swap fun one three => PartialState.give (one, three)

end Commutation

end PartialState
end Foundations
