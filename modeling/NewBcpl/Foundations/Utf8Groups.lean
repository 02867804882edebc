import NewBcpl.Foundations.Utf8Pieces

namespace Foundations
namespace Utf8

/-!
# The groups of a text

A reader that trusts lead bytes takes a text in groups: a lead byte and as many bytes as it
announces, whatever they are. Any text is a row of groups, or behind a row of groups there
is a byte that leads no group or a group that is cut short.
-/

/-- A lead byte with as many bytes as it announces. -/
def IsGroup (group : List Nat) : Prop :=
  exists first tail, group = first :: tail ∧ announced first = some tail.length

/-- The text is a row of groups. -/
def Grouped (text : List Nat) : Prop :=
  exists groups : List (List Nat), (forall group, group ∈ groups -> IsGroup group) ∧
    text = groups.flatten

/-- Behind a row of groups there is a byte that leads no group. -/
def BreaksOff (text : List Nat) : Prop :=
  exists (groups : List (List Nat)) (stray : Nat) (rest : List Nat),
    (forall group, group ∈ groups -> IsGroup group) ∧ announced stray = none ∧
      text = groups.flatten ++ stray :: rest

/-- Behind a row of groups there is a group that the end cuts short. -/
def CutShort (text : List Nat) : Prop :=
  exists (groups : List (List Nat)) (first count : Nat) (tail : List Nat),
    (forall group, group ∈ groups -> IsGroup group) ∧ announced first = some count ∧
      tail.length < count ∧ text = groups.flatten ++ first :: tail

/-- The text is the bytes of scalars, one after the other. -/
def IsWellFormed (text : List Nat) : Prop :=
  exists codePoints : List Nat, (forall codePoint, codePoint ∈ codePoints -> IsScalar codePoint) ∧
    text = codePoints.flatMap encoded

/-- The number that a group spells. -/
def groupNumber : List Nat -> Nat
  | [] => 0
  | first :: tail => number first tail

variable {group text : List Nat}

theorem forall_mem_group {groups : List (List Nat)} (isGroup : IsGroup group)
    (others : forall other, other ∈ groups -> IsGroup other) :
    forall other, other ∈ group :: groups -> IsGroup other :=
  List.forall_mem_cons.mpr ⟨isGroup, others⟩

theorem Grouped.cons (isGroup : IsGroup group) (grouped : Grouped text) :
    Grouped (group ++ text) := by
  rcases grouped with ⟨groups, areGroups, rfl⟩
  exact ⟨group :: groups, forall_mem_group isGroup areGroups, List.flatten_cons.symm⟩

theorem BreaksOff.cons (isGroup : IsGroup group) (breaks : BreaksOff text) :
    BreaksOff (group ++ text) := by
  rcases breaks with ⟨groups, stray, rest, areGroups, leadsNone, rfl⟩
  refine ⟨group :: groups, stray, rest, forall_mem_group isGroup areGroups, leadsNone, ?_⟩
  rw [List.flatten_cons, List.append_assoc]

theorem CutShort.cons (isGroup : IsGroup group) (cut : CutShort text) :
    CutShort (group ++ text) := by
  rcases cut with ⟨groups, first, count, tail, areGroups, leads, short, rfl⟩
  refine ⟨group :: groups, first, count, tail, forall_mem_group isGroup areGroups, leads, short,
    ?_⟩
  rw [List.flatten_cons, List.append_assoc]

/-- How the groups of a text can end. -/
theorem grouped_cases (text : List Nat) : Grouped text ∨ BreaksOff text ∨ CutShort text := by
  have noGroups : forall group, group ∈ ([] : List (List Nat)) -> IsGroup group :=
    fun _ member => nomatch member
  induction size : text.length using Nat.strongRecOn generalizing text with
  | ind size ends =>
      cases text with
      | nil => exact Or.inl ⟨[], noGroups, rfl⟩
      | cons first rest =>
          rw [List.length_cons] at size
          cases leads : announced first with
          | none => exact Or.inr (Or.inl ⟨[], first, rest, noGroups, leads, rfl⟩)
          | some count =>
              by_cases short : rest.length < count
              · exact Or.inr (Or.inr ⟨[], first, count, rest, noGroups, leads, short, rfl⟩)
              have whole : first :: rest = (first :: rest.take count) ++ rest.drop count := by
                rw [List.cons_append, List.take_append_drop]
              have isGroup : IsGroup (first :: rest.take count) := by
                refine ⟨first, rest.take count, rfl, ?_⟩
                rw [List.length_take_of_le (Nat.le_of_not_lt short), leads]
              rw [whole]
              rcases ends (rest.drop count).length (by rw [List.length_drop]; omega) _ rfl with
                grouped | breaks | cut
              · exact Or.inl (grouped.cons isGroup)
              · exact Or.inr (Or.inl (breaks.cons isGroup))
              · exact Or.inr (Or.inr (cut.cons isGroup))

theorem isGroup_encoded {codePoint : Nat} (scalar : IsScalar codePoint) :
    IsGroup (encoded codePoint) := by
  refine ⟨lead codePoint, continuations codePoint (extraBytes codePoint), rfl, ?_⟩
  rw [length_continuations, announced_lead scalar.bounded]

theorem groupNumber_encoded (codePoint : Nat) : groupNumber (encoded codePoint) = codePoint :=
  number_encoded

/-- A text is well formed if each of its pieces is the bytes of a scalar. -/
theorem isWellFormed_iff_pieces (text : List Nat) :
    IsWellFormed text <-> forall piece, piece ∈ pieces text ->
      exists codePoint, IsScalar codePoint ∧ piece = encoded codePoint := by
  constructor
  · rintro ⟨codePoints, scalars, rfl⟩
    induction codePoints with
    | nil =>
        intro piece member
        rw [List.flatMap_nil, pieces_nil] at member
        cases member
    | cons codePoint codePoints others =>
        intro piece member
        rw [List.flatMap_cons, pieces_encoded (scalars _ List.mem_cons_self)] at member
        rcases List.mem_cons.mp member with same | later
        · exact ⟨codePoint, scalars _ List.mem_cons_self, same⟩
        · exact others (fun other inRest => scalars _ (List.mem_cons_of_mem _ inRest)) piece later
  · intro arePieces
    rw [<- flatten_pieces text]
    generalize pieces text = parts at arePieces
    induction parts with
    | nil => exact ⟨[], fun _ member => (List.not_mem_nil member).elim, rfl⟩
    | cons piece parts others =>
        rcases arePieces piece List.mem_cons_self with ⟨codePoint, scalar, rfl⟩
        rcases others fun other member => arePieces other (List.mem_cons_of_mem _ member) with
          ⟨codePoints, scalars, isText⟩
        refine ⟨codePoint :: codePoints, List.forall_mem_cons.mpr ⟨scalar, scalars⟩, ?_⟩
        rw [List.flatten_cons, isText, List.flatMap_cons]

/-- A text with an ill-formed piece is not well formed. -/
theorem not_isWellFormed {piece : List Nat} (member : piece ∈ pieces text)
    (illFormed : IllFormed piece) : ¬ IsWellFormed text := by
  intro wellFormed
  rcases (isWellFormed_iff_pieces text).mp wellFormed piece member with ⟨codePoint, scalar, rfl⟩
  exact not_illFormed_encoded scalar illFormed

/-- The scalars of a text are its groups. -/
theorem flatMap_encoded_groups {codePoints : List Nat}
    (scalars : forall codePoint, codePoint ∈ codePoints -> IsScalar codePoint) :
    (forall group, group ∈ codePoints.map encoded -> IsGroup group) ∧
      (codePoints.map encoded).map groupNumber = codePoints := by
  constructor
  · intro group member
    rcases List.mem_map.mp member with ⟨codePoint, inList, rfl⟩
    exact isGroup_encoded (scalars codePoint inList)
  · rw [List.map_map]
    exact (List.map_congr_left fun codePoint _ => groupNumber_encoded codePoint).trans
      (List.map_id _)

end Utf8
end Foundations
