namespace Foundations
namespace LabelledCode

/-!
# Straight-line code with forward branches

Code is a list of operations, label definitions and branches to labels. It is
read from front to back: a branch that is taken skips every item up to the
definition of its label. Execution is therefore a fold over the list, and the
code of a sequence is the composition of the codes of its parts. A list that
ends while a branch is still looking for its label has transferred control to
that label; a list that ends otherwise has fallen through.
-/

variable {Operation Condition Label State : Type}

/-- One item of a code list. -/
inductive Item (Operation Condition Label : Type) where
  | operation (operation : Operation)
  | label (label : Label)
  | branch (label : Label)
  | branchIf (condition : Condition) (label : Label)
  deriving DecidableEq, Repr

/-- A state together with the label that control is looking for, if any. -/
structure Control (State Label : Type) where
  state : State
  target : Option Label
  deriving DecidableEq, Repr

namespace Control

/-- Control that executes the next item. -/
def running (state : State) : Control State Label :=
  { state := state, target := none }

/-- Control that skips items up to the given label. -/
def seeking (state : State) (label : Label) : Control State Label :=
  { state := state, target := some label }

theorem running_inj {first second : State}
    (equal : (running first : Control State Label) = running second) : first = second :=
  congrArg Control.state equal

end Control

/-- How operations act on states and which conditions hold in them. -/
structure Interpretation (Operation Condition State : Type) where
  perform : Operation -> State -> State
  holds : Condition -> State -> Bool

variable [DecidableEq Label]

/-- One item: skipped while a label is sought, executed otherwise. -/
def step (interpretation : Interpretation Operation Condition State)
    (control : Control State Label) (item : Item Operation Condition Label) :
    Control State Label :=
  match control.target, item with
  | some sought, .label found =>
      if found = sought then .running control.state else control
  | some _, _ => control
  | none, .operation operation =>
      .running (interpretation.perform operation control.state)
  | none, .label _ => control
  | none, .branch label => .seeking control.state label
  | none, .branchIf condition label =>
      if interpretation.holds condition control.state then
        .seeking control.state label
      else control

/-- The execution of a code list. -/
def run (interpretation : Interpretation Operation Condition State)
    (code : List (Item Operation Condition Label)) (control : Control State Label) :
    Control State Label :=
  code.foldl (step interpretation) control

/-- The labels a code list defines. -/
def definedLabels : List (Item Operation Condition Label) -> List Label
  | [] => []
  | .label label :: rest => label :: definedLabels rest
  | _ :: rest => definedLabels rest

section Composition

variable (interpretation : Interpretation Operation Condition State)

@[simp] theorem run_nil (control : Control State Label) :
    run interpretation ([] : List (Item Operation Condition Label)) control =
      control := rfl

@[simp] theorem run_cons (item : Item Operation Condition Label)
    (rest : List (Item Operation Condition Label)) (control : Control State Label) :
    run interpretation (item :: rest) control =
      run interpretation rest (step interpretation control item) := rfl

theorem run_append (first second : List (Item Operation Condition Label))
    (control : Control State Label) :
    run interpretation (first ++ second) control =
      run interpretation second (run interpretation first control) := by
  unfold run
  rw [List.foldl_append]

@[simp] theorem step_operation (operation : Operation) (state : State) :
    step interpretation (.running state : Control State Label)
        (.operation operation) =
      .running (interpretation.perform operation state) := rfl

@[simp] theorem step_label_running (label : Label) (state : State) :
    step interpretation (.running state : Control State Label) (.label label) =
      .running state := rfl

@[simp] theorem step_branch (label : Label) (state : State) :
    step interpretation (.running state : Control State Label) (.branch label) =
      .seeking state label := rfl

theorem step_branchIf_taken {condition : Condition} {label : Label} {state : State}
    (holds : interpretation.holds condition state = true) :
    step interpretation (.running state : Control State Label)
        (.branchIf condition label) = .seeking state label := by
  simp [step, Control.running, holds]

theorem step_branchIf_passed {condition : Condition} {label : Label} {state : State}
    (fails : interpretation.holds condition state = false) :
    step interpretation (.running state : Control State Label)
        (.branchIf condition label) = .running state := by
  simp [step, Control.running, fails]

@[simp] theorem step_label_found (label : Label) (state : State) :
    step interpretation (.seeking state label : Control State Label) (.label label) =
      .running state := by
  simp [step, Control.seeking]

@[simp] theorem step_seeking_operation (operation : Operation) (label : Label)
    (state : State) :
    step interpretation (.seeking state label : Control State Label)
        (.operation operation) = .seeking state label := rfl

@[simp] theorem step_seeking_branch (other label : Label) (state : State) :
    step interpretation (.seeking state label : Control State Label) (.branch other) =
      .seeking state label := rfl

@[simp] theorem step_seeking_branchIf (condition : Condition) (other label : Label)
    (state : State) :
    step interpretation (.seeking state label : Control State Label)
        (.branchIf condition other) = .seeking state label := rfl

theorem step_seeking_label {other label : Label} (different : other ≠ label)
    (state : State) :
    step interpretation (.seeking state label : Control State Label) (.label other) =
      .seeking state label := by
  simp [step, Control.seeking, different]

theorem step_seeking {item : Item Operation Condition Label} {label : Label}
    {state : State} (other : item ≠ .label label) :
    step interpretation (.seeking state label : Control State Label) item =
      .seeking state label := by
  cases item with
  | label found =>
      have different : found ≠ label := fun equal => other (by rw [equal])
      simp [step, Control.seeking, different]
  | operation operation => rfl
  | branch label => rfl
  | branchIf condition label => rfl

/-- A branch whose label is not defined in a code list leaves the list. -/
theorem run_seeking (code : List (Item Operation Condition Label)) {label : Label}
    {state : State} (absent : label ∉ definedLabels code) :
    run interpretation code (.seeking state label) = .seeking state label := by
  induction code with
  | nil => rfl
  | cons item rest ih =>
      have restAbsent : label ∉ definedLabels rest := by
        intro member
        apply absent
        cases item with
        | label found => exact List.mem_cons_of_mem _ member
        | operation operation => exact member
        | branch label => exact member
        | branchIf condition label => exact member
      have other : item ≠ .label label := by
        intro equal
        apply absent
        rw [equal]
        exact List.mem_cons_self
      rw [run_cons, step_seeking interpretation other]
      exact ih restAbsent

end Composition

/-- A list of operations only. -/
def operations (list : List Operation) : List (Item Operation Condition Label) :=
  list.map .operation

/-- A list of operations runs as the composition of its operations. -/
theorem run_operations (interpretation : Interpretation Operation Condition State)
    (list : List Operation) (state : State) :
    run interpretation (operations list) (.running state : Control State Label) =
      .running (list.foldl (fun state operation =>
        interpretation.perform operation state) state) := by
  induction list generalizing state with
  | nil => rfl
  | cons operation rest ih =>
      simp only [operations, List.map_cons, run_cons, step_operation, List.foldl_cons]
      exact ih _

omit [DecidableEq Label] in
@[simp] theorem definedLabels_operations (list : List Operation) :
    definedLabels
      (operations list : List (Item Operation Condition Label)) = [] := by
  induction list with
  | nil => rfl
  | cons operation rest ih =>
      simpa only [operations, List.map_cons, definedLabels] using ih

end LabelledCode
end Foundations
