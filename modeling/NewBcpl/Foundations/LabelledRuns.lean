namespace Foundations
namespace LabelledRuns

/-!
# Runs of code with labels and jumps in both directions

A program is a list of labels and actions. Control walks through it from front
to back; an action moves on, jumps to a label or leaves the program. A run is a
sequence of walks, each of which starts at the label that the one before jumped
to, and its trace is the list of labels passed, each with the state there. Fuel
counts the jumps, so a stretch of code that is replaced by a stretch with the
same effect leaves the traces of every program around it as they are.
-/

universe u v

variable {Label : Type u} {State : Type v}

/-- What an action does with control. -/
inductive Outcome (Label : Type u) (State : Type v) where
  | next (state : State)
  | jump (label : Label) (state : State)
  | leave (state : State)

/-- One action of a program. -/
abbrev Action (Label : Type u) (State : Type v) : Type (max u v) :=
  State -> Outcome Label State

/-- One item of a program. -/
inductive Item (Label : Type u) (State : Type v) where
  | label (label : Label)
  | action (action : Action Label State)

/-- A program. -/
abbrev Program (Label : Type u) (State : Type v) : Type (max u v) :=
  List (Item Label State)

/-- How a walk or a run ends: behind the last item, by a jump that is still to
be made, by leaving the program, or by a jump to a label that is not defined. -/
inductive Stop (Label : Type u) (State : Type v) where
  | ended (state : State)
  | jumped (label : Label) (state : State)
  | left (state : State)
  | lost (label : Label) (state : State)

/-- The labels passed, each with the state there, and the end. -/
structure Trace (Label : Type u) (State : Type v) where
  visits : List (Label × State)
  stop : Stop Label State

namespace Trace

/-- A trace that ends at once. -/
def stopped (stop : Stop Label State) : Trace Label State :=
  { visits := [], stop := stop }

/-- A trace behind earlier visits. -/
def behind (visits : List (Label × State)) (trace : Trace Label State) :
    Trace Label State :=
  { visits := visits ++ trace.visits, stop := trace.stop }

end Trace

/-- One walk from the first item on. -/
def walk : Program Label State -> State -> Trace Label State
  | [], state => .stopped (.ended state)
  | .label label :: rest, state => (walk rest state).behind [(label, state)]
  | .action action :: rest, state =>
      match action state with
      | .next state => walk rest state
      | .jump label state => .stopped (.jumped label state)
      | .leave state => .stopped (.left state)

/-- The actions of a stretch of code one after another. -/
def sequence : List (Action Label State) -> Action Label State
  | [], state => .next state
  | action :: rest, state =>
      match action state with
      | .next state => sequence rest state
      | outcome => outcome

/-- A stretch of code without labels. -/
def stretch (actions : List (Action Label State)) : Program Label State :=
  actions.map .action

section Stretches

theorem walk_stretch (actions : List (Action Label State)) (rest : Program Label State)
    (state : State) :
    walk (stretch actions ++ rest) state = walk (.action (sequence actions) :: rest) state := by
  induction actions generalizing state with
  | nil => rfl
  | cons action actions ih =>
      simp only [stretch, List.map_cons, List.cons_append, walk, sequence]
      cases action state with
      | next state => exact ih state
      | jump label state => rfl
      | leave state => rfl

end Stretches

variable [DecidableEq Label]

/-- The program from the first definition of a label on. -/
def find (sought : Label) : Program Label State -> Option (Program Label State)
  | [] => none
  | .label label :: rest => if label = sought then some (.label label :: rest) else find sought rest
  | .action _ :: rest => find sought rest

/-- A run of a program that walks a part of it first. -/
def run (program : Program Label State) :
    Nat -> Program Label State -> State -> Trace Label State
  | 0, part, state => walk part state
  | fuel + 1, part, state =>
      match (walk part state).stop with
      | .jumped label state' =>
          match find label program with
          | none => { visits := (walk part state).visits, stop := .lost label state' }
          | some target => (run program fuel target state').behind (walk part state).visits
      | _ => walk part state

/-- A run from the front of a program or from one of its labels. -/
def runFrom (program : Program Label State) (fuel : Nat) (entry : Option Label)
    (state : State) : Trace Label State :=
  match entry with
  | none => run program fuel program state
  | some label =>
      match find label program with
      | none => .stopped (.lost label state)
      | some part => run program fuel part state

/-- Two programs have the same traces from the front and from every label. -/
def Alike (first second : Program Label State) : Prop :=
  forall fuel entry state, runFrom first fuel entry state = runFrom second fuel entry state

namespace Alike

theorem refl (program : Program Label State) : Alike program program :=
  fun _ _ _ => rfl

theorem trans {first second third : Program Label State} (alike : Alike first second)
    (other : Alike second third) : Alike first third :=
  fun fuel entry state => (alike fuel entry state).trans (other fuel entry state)

end Alike

section Replacement

variable (old new : List (Action Label State)) (after : Program Label State)

/-- Parts of two programs that differ in one stretch, or not at all. -/
inductive Matched : Program Label State -> Program Label State -> Prop
  | around (before : Program Label State) :
      Matched (before ++ (stretch old ++ after)) (before ++ (stretch new ++ after))
  | same (part : Program Label State) : Matched part part

variable {old new after}

omit [DecidableEq Label] in
theorem Matched.walk (same : forall state, sequence old state = sequence new state)
    {first second : Program Label State} (matched : Matched old new after first second)
    (state : State) : walk first state = walk second state := by
  cases matched with
  | same part => rfl
  | around before =>
      induction before generalizing state with
      | nil =>
          rw [List.nil_append, List.nil_append, walk_stretch, walk_stretch]
          simp only [LabelledRuns.walk, same state]
      | cons item before ih =>
          cases item with
          | label label =>
              simp only [List.cons_append, LabelledRuns.walk]
              rw [ih state]
          | action action =>
              simp only [List.cons_append, LabelledRuns.walk]
              cases action state with
              | next state => exact ih state
              | jump label state => rfl
              | leave state => rfl

theorem find_stretch (sought : Label)
    (actions : List (Action Label State)) (rest : Program Label State) :
    find sought (stretch actions ++ rest) = find sought rest := by
  induction actions with
  | nil => rfl
  | cons action actions ih => exact ih

theorem Matched.find {first second : Program Label State}
    (matched : Matched old new after first second) (sought : Label) :
    (find sought first = none ∧ find sought second = none) ∨
      exists firstPart secondPart, find sought first = some firstPart ∧
        find sought second = some secondPart ∧
        Matched old new after firstPart secondPart := by
  cases matched with
  | same part =>
      cases found : LabelledRuns.find sought first with
      | none => exact Or.inl ⟨rfl, rfl⟩
      | some target => exact Or.inr ⟨target, target, rfl, rfl, .same target⟩
  | around before =>
      induction before with
      | nil =>
          rw [List.nil_append, List.nil_append, find_stretch, find_stretch]
          cases found : LabelledRuns.find sought after with
          | none => exact Or.inl ⟨rfl, rfl⟩
          | some target => exact Or.inr ⟨target, target, rfl, rfl, .same target⟩
      | cons item before ih =>
          cases item with
          | action action => exact ih
          | label label =>
              simp only [List.cons_append, LabelledRuns.find]
              by_cases here : label = sought
              · rw [if_pos here, if_pos here]
                exact Or.inr ⟨_, _, rfl, rfl, .around (.label label :: before)⟩
              · rw [if_neg here, if_neg here]
                exact ih

theorem Matched.run (same : forall state, sequence old state = sequence new state)
    {first second : Program Label State} (programs : Matched old new after first second)
    (fuel : Nat) {firstPart secondPart : Program Label State}
    (parts : Matched old new after firstPart secondPart) (state : State) :
    run first fuel firstPart state = run second fuel secondPart state := by
  induction fuel generalizing firstPart secondPart state with
  | zero => exact parts.walk same state
  | succ fuel ih =>
      simp only [LabelledRuns.run]
      rw [parts.walk same state]
      cases (LabelledRuns.walk secondPart state).stop with
      | ended state => rfl
      | left state => rfl
      | lost label state => rfl
      | jumped label state =>
          rcases programs.find label with ⟨first, second⟩ | ⟨_, _, first, second, targets⟩
          · simp only [first, second]
          · simp only [first, second]
            rw [ih targets state]

/-- A stretch of code may be replaced by one with the same effect. -/
theorem Alike.replace (before : Program Label State)
    (same : forall state, sequence old state = sequence new state) :
    Alike (before ++ (stretch old ++ after)) (before ++ (stretch new ++ after)) := by
  intro fuel entry state
  have programs : Matched old new after (before ++ (stretch old ++ after))
      (before ++ (stretch new ++ after)) := .around before
  cases entry with
  | none => exact programs.run same fuel programs state
  | some label =>
      unfold runFrom
      rcases programs.find label with ⟨first, second⟩ | ⟨_, _, first, second, parts⟩
      · simp only [first, second]
      · simp only [first, second]
        exact programs.run same fuel parts state

end Replacement

end LabelledRuns
end Foundations
