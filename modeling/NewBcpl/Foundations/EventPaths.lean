import Mathlib.Data.Set.Lattice
import Mathlib.Data.List.Basic

namespace Foundations
namespace EventPaths

/-!
# Paths as sequences of reads and assignments

What a piece of a program may do on its way, as a set of event sequences. Of a path one
asks whether it reads a variable before every point where it assigns it, and whether it
leaves the variable unassigned. Both are decided part by part when paths are joined.
-/

universe u

/-- What happens to a variable. -/
inductive Event (Variable : Type u) where
  | read (variable_ : Variable)
  | assign (variable_ : Variable)
  deriving DecidableEq

/-- The ways through a piece of a program. -/
abbrev Paths (Variable : Type u) : Type u := Set (List (Event Variable))

variable {Variable : Type u}

/-- The way on which nothing happens. -/
def idle : Paths Variable := {[]}

/-- The way on which one thing happens. -/
def single (event : Event Variable) : Paths Variable := {[event]}

/-- One piece after another. -/
def sequence (first second : Paths Variable) : Paths Variable :=
  {events | exists before after, before ∈ first ∧ after ∈ second ∧ events = before ++ after}

/-- Any number of rounds. -/
inductive Repeated (once : Paths Variable) : List (Event Variable) -> Prop where
  | done : Repeated once []
  | again {before after : List (Event Variable)} (round : before ∈ once)
      (rest : Repeated once after) : Repeated once (before ++ after)

/-- The ways through any number of rounds. -/
def repeated (once : Paths Variable) : Paths Variable := {events | Repeated once events}

/-- The variable is read before every point where it is assigned. -/
def ReadsFirst (variable_ : Variable) (events : List (Event Variable)) : Prop :=
  exists before after, events = before ++ .read variable_ :: after ∧
    .assign variable_ ∉ before

/-- The variable is not assigned. -/
def Keeps (variable_ : Variable) (events : List (Event Variable)) : Prop :=
  .assign variable_ ∉ events

/-- A joined path reads first in its first part, or in its second one after the first has
kept the variable. -/
theorem readsFirst_append {variable_ : Variable} {first second : List (Event Variable)} :
    ReadsFirst variable_ (first ++ second) <->
      ReadsFirst variable_ first ∨
        Keeps variable_ first ∧ ReadsFirst variable_ second := by
  constructor
  · rintro ⟨before, after, split, free⟩
    rcases List.append_eq_append_iff.mp split with
      ⟨middle, isBefore, isSecond⟩ | ⟨middle, isFirst, isAfter⟩
    · rw [isBefore, List.mem_append, not_or] at free
      exact Or.inr ⟨free.1, middle, after, isSecond, free.2⟩
    · cases middle with
      | nil =>
          rw [List.append_nil] at isFirst
          rw [List.nil_append] at isAfter
          exact Or.inr ⟨isFirst ▸ free, [], after, isAfter.symm, List.not_mem_nil⟩
      | cons event rest =>
          rw [List.cons_append, List.cons.injEq] at isAfter
          exact Or.inl ⟨before, rest, by rw [isFirst, isAfter.1], free⟩
  · rintro (⟨before, after, isFirst, free⟩ | ⟨kept, before, after, isSecond, free⟩)
    · exact ⟨before, after ++ second, by rw [isFirst]; simp, free⟩
    · refine ⟨first ++ before, after, by rw [isSecond]; simp, ?_⟩
      rw [List.mem_append, not_or]
      exact ⟨kept, free⟩

end EventPaths
end Foundations
