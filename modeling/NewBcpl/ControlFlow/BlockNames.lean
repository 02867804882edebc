import NewBcpl.Foundations.Digits
import NewBcpl.ControlFlow.CFGBuilderPass

namespace NewBcpl
namespace ControlFlow

open Foundations.Digits

/-!
# The ids of the blocks are distinct

The id of a block becomes its label in the code, so that two blocks with one id
would be one target. An id ends with the number of its block; what comes before
the number ends in an underscore, except in the id of a label, which starts with a
letter that no other prefix starts with and is compared with all earlier ids when
it is created.
-/

/-- The prefixes of the blocks that are not labels. -/
def OrdinaryPrefix (idPrefix : String) : Prop :=
  idPrefix.toList.getLast? = some '_' ∧ idPrefix.toList.head? ≠ some 'L'

instance (idPrefix : String) : Decidable (OrdinaryPrefix idPrefix) :=
  inferInstanceAs (Decidable (_ ∧ _))

/-- The ids that a block can have at a reference. -/
inductive IdAt (functionName : String) (reference : Nat) : String -> Prop where
  | ordinary {idPrefix : String} : OrdinaryPrefix idPrefix ->
      IdAt functionName reference
        (functionName ++ "_" ++ idPrefix ++ toString reference)
  | label (labelName : String) :
      IdAt functionName reference
        (functionName ++ "_" ++ ("Label_" ++ labelName) ++ toString reference)

/-- Ids of two references that are not labels are different. -/
theorem ordinary_distinct {functionName firstPrefix secondPrefix : String}
    {first second : Nat} (firstOrdinary : OrdinaryPrefix firstPrefix)
    (secondOrdinary : OrdinaryPrefix secondPrefix)
    (equal : functionName ++ "_" ++ firstPrefix ++ toString first =
      functionName ++ "_" ++ secondPrefix ++ toString second) : first = second := by
  have lists := congrArg String.toList equal
  simp only [String.toList_append, List.append_assoc, List.append_cancel_left_eq] at lists
  have digits := tail_after_underscore firstOrdinary.1 secondOrdinary.1
    (underscore_not_mem_digits first) (underscore_not_mem_digits second) lists
  exact digits_injective digits

/-- A label and a block that is no label have different ids. -/
theorem ordinary_ne_label {functionName idPrefix : String} (labelName : String)
    {first second : Nat} (ordinary : OrdinaryPrefix idPrefix) :
    functionName ++ "_" ++ idPrefix ++ toString first ≠
      functionName ++ "_" ++ ("Label_" ++ labelName) ++ toString second := by
  intro equal
  have lists := congrArg String.toList equal
  simp only [String.toList_append, List.append_assoc, List.append_cancel_left_eq] at lists
  have heads := congrArg List.head? lists
  rcases ordinary with ⟨last, noL⟩
  cases prefixList : idPrefix.toList with
  | nil =>
      rw [prefixList] at last
      cases last
  | cons head tail =>
      rw [prefixList] at heads noL
      exact noL heads

namespace Builder

/-- The blocks have ids of their kind, and different ones. -/
structure Named (builder : Builder) : Prop where
  ids : forall reference, reference < builder.fresh ->
    IdAt builder.functionName reference (builder.block reference).id
  distinct : forall first second, first < builder.fresh -> second < builder.fresh ->
    (builder.block first).id = (builder.block second).id -> first = second

end Builder

end ControlFlow
end NewBcpl
