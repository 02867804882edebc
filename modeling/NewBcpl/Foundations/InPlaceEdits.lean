import Mathlib.Data.List.Basic

namespace Foundations
namespace InPlaceEdits

/-!
# Edits in place

A list is edited in place when every entry stays where it is, is left out, or is exchanged
for a created one. Some entries are fixed: they are neither left out nor exchanged, and
no created entry is one of them. No entry passes another, so the fixed entries stay in
order, and what stands between two of them comes from what stood there.
-/

universe u

variable {Entry : Type u} {fixed : Entry -> Bool} {created : Entry -> Prop}

/-- The second list is the first one after an edit in place. -/
inductive InPlace (fixed : Entry -> Bool) (created : Entry -> Prop) :
    List Entry -> List Entry -> Prop
  | nil : InPlace fixed created [] []
  | keep (entry : Entry) {before after : List Entry} (rest : InPlace fixed created before after) :
      InPlace fixed created (entry :: before) (entry :: after)
  | remove {entry : Entry} (loose : fixed entry = false) {before after : List Entry}
      (rest : InPlace fixed created before after) : InPlace fixed created (entry :: before) after
  | exchange {entry other : Entry} (loose : fixed entry = false)
      (looseOther : fixed other = false) (isCreated : created other) {before after : List Entry}
      (rest : InPlace fixed created before after) :
      InPlace fixed created (entry :: before) (other :: after)

namespace InPlace

section Rules

/-! ## Composition -/

theorem refl (entries : List Entry) : InPlace fixed created entries entries := by
  induction entries with
  | nil => exact .nil
  | cons entry entries same => exact .keep entry same

theorem trans {first second third : List Entry} (edit : InPlace fixed created first second)
    (next : InPlace fixed created second third) : InPlace fixed created first third := by
  induction edit generalizing third with
  | nil => exact next
  | keep entry _ through =>
      cases next with
      | keep _ rest => exact .keep entry (through rest)
      | remove loose rest => exact .remove loose (through rest)
      | exchange loose looseOther isCreated rest =>
          exact .exchange loose looseOther isCreated (through rest)
  | remove loose _ through => exact .remove loose (through next)
  | exchange loose looseOther isCreated _ through =>
      cases next with
      | keep _ rest => exact .exchange loose looseOther isCreated (through rest)
      | remove _ rest => exact .remove loose (through rest)
      | exchange _ looseThird isCreatedThird rest =>
          exact .exchange loose looseThird isCreatedThird (through rest)

theorem append {first second first' second' : List Entry}
    (edit : InPlace fixed created first second)
    (other : InPlace fixed created first' second') :
    InPlace fixed created (first ++ first') (second ++ second') := by
  induction edit with
  | nil => exact other
  | keep entry _ joined => exact .keep entry joined
  | remove loose _ joined => exact .remove loose joined
  | exchange loose looseOther isCreated _ joined =>
      exact .exchange loose looseOther isCreated joined

end Rules

section Fixed

/-! ## The fixed entries -/

/-- The fixed entries are the same and in the same order. -/
theorem filter_fixed {before after : List Entry} (edit : InPlace fixed created before after) :
    after.filter fixed = before.filter fixed := by
  induction edit with
  | nil => rfl
  | keep entry _ same =>
      rw [List.filter_cons, List.filter_cons, same]
  | remove loose _ same =>
      rw [same, List.filter_cons_of_neg (by rw [loose]; exact Bool.false_ne_true)]
  | exchange loose looseOther _ _ same =>
      rw [List.filter_cons_of_neg (by rw [looseOther]; exact Bool.false_ne_true), same,
        List.filter_cons_of_neg (by rw [loose]; exact Bool.false_ne_true)]

/-- Every entry after an edit was there before or is created. -/
theorem mem {before after : List Entry} (edit : InPlace fixed created before after)
    {entry : Entry} (member : entry ∈ after) : entry ∈ before ∨ created entry := by
  induction edit with
  | nil => cases member
  | keep first _ among =>
      rcases List.mem_cons.mp member with rfl | behind
      · exact Or.inl List.mem_cons_self
      · exact (among behind).imp_left (List.mem_cons_of_mem first)
  | remove _ _ among => exact (among member).imp_left (List.mem_cons_of_mem _)
  | exchange _ _ isCreated _ among =>
      rcases List.mem_cons.mp member with rfl | behind
      · exact Or.inr isCreated
      · exact (among behind).imp_left (List.mem_cons_of_mem _)

/-- An edit of two parts is an edit of each of them. -/
theorem of_append {first second after : List Entry}
    (edit : InPlace fixed created (first ++ second) after) :
    exists first' second', after = first' ++ second' ∧ InPlace fixed created first first' ∧
      InPlace fixed created second second' := by
  induction first generalizing after with
  | nil => exact ⟨[], after, rfl, .nil, edit⟩
  | cons entry first parts =>
      cases edit with
      | keep _ rest =>
          rcases parts rest with ⟨first', second', rfl, edit, other⟩
          exact ⟨entry :: first', second', rfl, .keep entry edit, other⟩
      | remove loose rest =>
          rcases parts rest with ⟨first', second', rfl, edit, other⟩
          exact ⟨first', second', rfl, .remove loose edit, other⟩
      | exchange loose looseOther isCreated rest =>
          rcases parts rest with ⟨first', second', rfl, edit, other⟩
          exact ⟨_ :: first', second', rfl, .exchange loose looseOther isCreated edit, other⟩

/-- Around a fixed entry, what stood before it is edited before it, and what stood behind
it is edited behind it. -/
theorem around_fixed {first second after : List Entry} {entry : Entry}
    (edit : InPlace fixed created (first ++ entry :: second) after)
    (isFixed : fixed entry = true) :
    exists first' second', after = first' ++ entry :: second' ∧
      InPlace fixed created first first' ∧ InPlace fixed created second second' := by
  rcases edit.of_append with ⟨first', tail, rfl, front, behind⟩
  cases behind with
  | keep _ rest => exact ⟨first', _, rfl, front, rest⟩
  | remove loose _ =>
      rw [isFixed] at loose
      cases loose
  | exchange loose _ _ _ =>
      rw [isFixed] at loose
      cases loose

end Fixed

end InPlace

end InPlaceEdits
end Foundations
