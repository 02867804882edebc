import Mathlib.Data.List.Nodup
import Mathlib.Logic.Function.Basic
import Mathlib.Logic.Nontrivial.Defs

namespace Foundations

/-!
# Moves that are made one after another

A list of moves between the places of a file, each of which may convert what it moves. The
moves are meant to be simultaneous: every source is read in the file before the first of them.
Made one after another they deliver their values exactly if each move carries its own: a
source that an earlier move has filled holds the value of that move.
-/

namespace SequentialMoves

universe u v

variable {R : Type u} {V : Type v}

/-- The destination gets the converted content of the source. -/
structure Move (R : Type u) (V : Type v) where
  dest : R
  source : R
  convert : V -> V

variable [DecidableEq R]

/-- One move. -/
def apply (move : Move R V) (file : R -> V) : R -> V :=
  Function.update file move.dest (move.convert (file move.source))

/-- The moves of a list, one after another. -/
def run : List (Move R V) -> (R -> V) -> (R -> V)
  | [], file => file
  | move :: rest, file => run rest (apply move file)

@[simp] theorem run_nil (file : R -> V) : run [] file = file := rfl

theorem run_cons (move : Move R V) (rest : List (Move R V)) (file : R -> V) :
    run (move :: rest) file = run rest (apply move file) := rfl

theorem apply_dest (move : Move R V) (file : R -> V) :
    apply move file move.dest = move.convert (file move.source) :=
  Function.update_self _ _ _

theorem apply_other {move : Move R V} {place : R} (differs : place ≠ move.dest)
    (file : R -> V) : apply move file place = file place :=
  Function.update_of_ne differs _ _

/-- A place that is no destination keeps its content. -/
theorem run_untouched {moves : List (Move R V)} {place : R}
    (outside : place ∉ moves.map Move.dest) (file : R -> V) :
    run moves file place = file place := by
  induction moves generalizing file with
  | nil => rfl
  | cons move rest inductionHypothesis =>
      have differs : place ≠ move.dest := fun same =>
        outside (List.mem_cons.mpr (Or.inl same))
      have later : place ∉ rest.map Move.dest := fun member =>
        outside (List.mem_cons_of_mem _ member)
      rw [run_cons, inductionHypothesis later, apply_other differs]

/-- The first of two moves with different destinations is not undone. -/
theorem run_first {move : Move R V} {rest : List (Move R V)}
    (distinct : ((move :: rest).map Move.dest).Nodup) (file : R -> V) :
    run (move :: rest) file move.dest = move.convert (file move.source) := by
  rw [run_cons, run_untouched (List.nodup_cons.mp distinct).1, apply_dest]

/-- A move between places that may be empty. -/
def Move.optional (move : Move R V) : Move R (Option V) :=
  { dest := move.dest, source := move.source, convert := Option.map move.convert }

/-- On a file without empty places it does the same. -/
theorem run_optional (moves : List (Move R V)) (file : R -> V) :
    run (moves.map Move.optional) (fun place => some (file place)) =
      fun place => some (run moves file place) := by
  induction moves generalizing file with
  | nil => rfl
  | cons move rest inductionHypothesis =>
      have one : apply move.optional (fun place => some (file place)) =
          fun place => some (apply move file place) := by
        funext place
        by_cases same : place = move.dest
        · subst same
          exact (apply_dest move.optional _).trans (congrArg some (apply_dest move file).symm)
        · have other : place ≠ move.optional.dest := same
          rw [apply_other same, apply_other other]
      rw [List.map_cons, run_cons, one]
      exact inductionHypothesis (apply move file)

/-! ## What is delivered -/

/-- Each move delivers the value it is paired with, where the places of `filled` hold the
values of earlier moves and all others what they held before. -/
def Carries (before : R -> V) : List (R × V) -> List (Move R V × V) -> Prop
  | _, [] => True
  | filled, (move, value) :: rest =>
      move.convert ((filled.lookup move.source).getD (before move.source)) = value ∧
        Carries before ((move.dest, value) :: filled) rest

/-- The file in which some places have been filled. -/
def Filled (before : R -> V) (filled : List (R × V)) (current : R -> V) : Prop :=
  forall place, current place = (filled.lookup place).getD (before place)

theorem filled_apply {before current : R -> V} {filled : List (R × V)} {move : Move R V}
    {value : V} (isFilled : Filled before filled current)
    (carries : move.convert (current move.source) = value) :
    Filled before ((move.dest, value) :: filled) (apply move current) := by
  intro place
  rw [List.lookup_cons]
  by_cases same : place = move.dest
  · subst same
    rw [apply_dest, carries, beq_self_eq_true]
    rfl
  · rw [apply_other same, isFilled place, beq_eq_false_iff_ne.mpr same]

/-- Moves with different destinations deliver their values exactly if each of them carries
its own: a source that an earlier move has filled holds the value of that move. -/
theorem delivers_iff_carries (moves : List (Move R V × V)) (before : R -> V)
    (filled : List (R × V)) (current : R -> V) (isFilled : Filled before filled current)
    (distinct : (moves.map fun pair => pair.1.dest).Nodup) :
    (forall pair, pair ∈ moves -> run (moves.map Prod.fst) current pair.1.dest = pair.2) <->
      Carries before filled moves := by
  induction moves generalizing filled current with
  | nil => exact ⟨fun _ => trivial, fun _ pair member => nomatch member⟩
  | cons head rest inductionHypothesis =>
      rcases head with ⟨move, value⟩
      have later := (List.nodup_cons.mp distinct).2
      have destinations : ((move :: rest.map Prod.fst).map Move.dest).Nodup := by
        simpa only [List.map_cons, List.map_map, Function.comp_def] using distinct
      have first := run_first destinations current
      constructor
      · intro delivers
        have carries : move.convert (current move.source) = value :=
          first.symm.trans (delivers (move, value) List.mem_cons_self)
        refine ⟨by rw [<- isFilled]; exact carries, ?_⟩
        apply (inductionHypothesis _ (apply move current) (filled_apply isFilled carries)
          later).mp
        intro pair member
        exact delivers pair (List.mem_cons_of_mem _ member)
      · rintro ⟨carriesFirst, carriesRest⟩
        rw [<- isFilled] at carriesFirst
        have deliversRest := (inductionHypothesis _ (apply move current)
          (filled_apply isFilled carriesFirst) later).mpr carriesRest
        intro pair member
        rcases List.mem_cons.mp member with same | inRest
        · rw [same]
          exact first.trans carriesFirst
        · exact deliversRest pair inRest

end SequentialMoves
end Foundations
