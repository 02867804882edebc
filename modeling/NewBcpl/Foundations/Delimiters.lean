import Mathlib.Algebra.Ring.Nat
import Mathlib.Data.List.Infix

namespace Foundations
namespace Delimiters

/-!
# Texts with delimiters

A scan from the left takes each occurrence of a delimiter that does not overlap the one
before. The pieces between them and the delimiter are the text again, no piece has the
delimiter in it, and there is one more piece than there are occurrences.
-/

universe u v

variable {α : Type u}

section Joined

/-! ## Joined texts -/

theorem length_intercalate (delimiter : List α) (parts : List (List α)) :
    (delimiter.intercalate parts).length =
      (parts.map List.length).sum + delimiter.length * (parts.length - 1) := by
  induction parts with
  | nil => rfl
  | cons part rest counts =>
      cases rest with
      | nil => simp only [List.intercalate_singleton, List.map_cons, List.map_nil, List.sum_cons,
          List.sum_nil, List.length_singleton, Nat.sub_self, Nat.mul_zero, Nat.add_zero]
      | cons next rest =>
          rw [List.intercalate_cons_cons, List.length_append, List.length_append, counts]
          simp only [List.map_cons, List.sum_cons, List.length_cons, Nat.add_sub_cancel,
            Nat.mul_succ]
          omega

theorem map_intercalate {β : Type v} (f : α -> β) (delimiter : List α) (parts : List (List α)) :
    (delimiter.intercalate parts).map f = (delimiter.map f).intercalate (parts.map (List.map f)) := by
  induction parts with
  | nil => rfl
  | cons part rest joins =>
      cases rest with
      | nil => simp only [List.intercalate_singleton, List.map_cons, List.map_nil]
      | cons next rest =>
          rw [List.intercalate_cons_cons, List.map_append, List.map_append, joins]
          exact List.intercalate_cons_cons.symm

theorem intercalate_cons (delimiter part : List α) (rest : List (List α)) :
    delimiter.intercalate (part :: rest) =
      part ++ ((if rest = [] then [] else delimiter) ++ delimiter.intercalate rest) := by
  cases rest with
  | nil => rw [List.intercalate_singleton, if_pos rfl, List.intercalate_nil, List.append_nil,
      List.append_nil]
  | cons next rest =>
      rw [List.intercalate_cons_cons, if_neg (List.cons_ne_nil next rest), List.append_assoc]

/-- The delimiter is in a joined text if there is more than one part. -/
theorem mem_intercalate_iff {delimiter : List α} {parts : List (List α)} {character : α} :
    character ∈ delimiter.intercalate parts <->
      (exists part, part ∈ parts ∧ character ∈ part) ∨
        (2 ≤ parts.length ∧ character ∈ delimiter) := by
  induction parts with
  | nil =>
      refine iff_of_false List.not_mem_nil ?_
      rintro (⟨part, member, _⟩ | ⟨many, _⟩)
      · cases member
      · exact absurd many (Nat.not_succ_le_zero 1)
  | cons part rest joins =>
      cases rest with
      | nil =>
          rw [List.intercalate_singleton]
          constructor
          · exact fun member => Or.inl ⟨part, List.mem_cons_self, member⟩
          · rintro (⟨other, member, inOther⟩ | ⟨many, _⟩)
            · rwa [<- List.mem_singleton.mp member]
            · exact absurd many (Nat.lt_irrefl 1)
      | cons next rest =>
          have many : 2 ≤ (part :: next :: rest).length := by
            rw [List.length_cons, List.length_cons]
            omega
          rw [List.intercalate_cons_cons, List.mem_append, List.mem_append, joins]
          constructor
          · rintro ((inPart | inDelimiter) | ⟨other, member, inOther⟩ | ⟨_, inDelimiter⟩)
            · exact Or.inl ⟨part, List.mem_cons_self, inPart⟩
            · exact Or.inr ⟨many, inDelimiter⟩
            · exact Or.inl ⟨other, List.mem_cons_of_mem _ member, inOther⟩
            · exact Or.inr ⟨many, inDelimiter⟩
          · rintro (⟨other, member, inOther⟩ | ⟨_, inDelimiter⟩)
            · rcases List.mem_cons.mp member with same | later
              · exact Or.inl (Or.inl (same ▸ inOther))
              · exact Or.inr (Or.inl ⟨other, later, inOther⟩)
            · exact Or.inl (Or.inr inDelimiter)

/-- Without a delimiter, single characters join to the text. -/
theorem intercalate_singletons (text : List α) :
    ([] : List α).intercalate (text.map fun character => [character]) = text := by
  induction text with
  | nil => rfl
  | cons character rest joins =>
      cases rest with
      | nil => exact List.intercalate_singleton
      | cons next rest =>
          rw [List.map_cons] at joins ⊢
          rw [List.map_cons, List.intercalate_cons_cons, joins]
          rfl

end Joined

section Prefixes

/-! ## Prefixes -/

variable {delimiter : List α}

theorem cons_eq_append_drop {character : α} {rest : List α}
    (occurs : delimiter <+: character :: rest) (nonempty : delimiter ≠ []) :
    character :: rest = delimiter ++ rest.drop (delimiter.length - 1) := by
  cases delimiter with
  | nil => exact absurd rfl nonempty
  | cons first others =>
      rcases occurs with ⟨tail, whole⟩
      rw [List.cons_append, List.cons.injEq] at whole
      rw [<- whole.2, <- whole.1, List.length_cons, Nat.add_sub_cancel, List.drop_left,
        List.cons_append]

theorem map_prefix_map_iff {β : Type v} {f : α -> β} {text : List α}
    (apart : forall a b, a ∈ delimiter -> b ∈ text -> f a = f b -> a = b) :
    delimiter.map f <+: text.map f <-> delimiter <+: text := by
  constructor
  · intro occurs
    induction delimiter generalizing text with
    | nil => exact List.nil_prefix
    | cons first others begins =>
        cases text with
        | nil => exact absurd (List.prefix_nil.mp occurs) (List.cons_ne_nil _ _)
        | cons character rest =>
            rw [List.map_cons, List.map_cons, List.cons_prefix_cons] at occurs
            rw [List.cons_prefix_cons]
            refine ⟨apart first character List.mem_cons_self List.mem_cons_self occurs.1, ?_⟩
            apply begins ?_ occurs.2
            intro a b inOthers inRest
            exact apart a b (List.mem_cons_of_mem _ inOthers) (List.mem_cons_of_mem _ inRest)
  · exact fun occurs => occurs.map f

/-- No occurrence begins in the piece that has been read so far. -/
def BeginsNowhere (delimiter piece text : List α) : Prop :=
  forall place, place < piece.length -> ¬ delimiter <+: (piece ++ text).drop place

theorem BeginsNowhere.not_infix {piece text : List α} (nonempty : delimiter ≠ [])
    (nowhere : BeginsNowhere delimiter piece text) : ¬ delimiter <:+: piece := by
  rintro ⟨before, after, whole⟩
  have size := congrArg List.length whole
  have positive := List.length_pos_of_ne_nil nonempty
  rw [List.length_append, List.length_append] at size
  apply nowhere before.length (by omega)
  rw [<- whole, List.append_assoc, List.append_assoc, List.drop_left]
  exact List.prefix_append _ _

theorem BeginsNowhere.snoc {piece rest : List α} {character : α}
    (nowhere : BeginsNowhere delimiter piece (character :: rest))
    (notHere : ¬ delimiter <+: character :: rest) :
    BeginsNowhere delimiter (piece ++ [character]) rest := by
  intro place inside
  rw [List.append_assoc, List.singleton_append]
  rw [List.length_append, List.length_singleton] at inside
  by_cases inPiece : place < piece.length
  · exact nowhere place inPiece
  · have same : place = piece.length := by omega
    rwa [same, List.drop_left]

end Prefixes

variable [DecidableEq α]

section Scans

/-! ## Scans -/

/-- The pieces between the occurrences of a delimiter; `skip` characters still belong to
the last occurrence. -/
def piecesFrom (delimiter : List α) : Nat -> List α -> List α -> List (List α)
  | _, piece, [] => [piece]
  | skip + 1, piece, _ :: rest => piecesFrom delimiter skip piece rest
  | 0, piece, character :: rest =>
      if delimiter <+: character :: rest then
        piece :: piecesFrom delimiter (delimiter.length - 1) [] rest
      else piecesFrom delimiter 0 (piece ++ [character]) rest

/-- The occurrences that the scan takes. -/
def occurrencesFrom (delimiter : List α) : Nat -> List α -> Nat
  | _, [] => 0
  | skip + 1, _ :: rest => occurrencesFrom delimiter skip rest
  | 0, character :: rest =>
      if delimiter <+: character :: rest then
        occurrencesFrom delimiter (delimiter.length - 1) rest + 1
      else occurrencesFrom delimiter 0 rest

def pieces (delimiter text : List α) : List (List α) := piecesFrom delimiter 0 [] text

/-- How many occurrences a text has, counted from the left without overlaps. -/
def occurrences (delimiter text : List α) : Nat := occurrencesFrom delimiter 0 text

/-- Where the delimiter occurs first. -/
def firstIn (delimiter : List α) : List α -> Option Nat
  | [] => if delimiter <+: [] then some 0 else none
  | character :: rest =>
      if delimiter <+: character :: rest then some 0
      else (firstIn delimiter rest).map fun place => place + 1

end Scans

variable {delimiter : List α}

section Pieces

/-! ## Pieces -/

theorem piecesFrom_ne_nil (skip : Nat) (piece text : List α) :
    piecesFrom delimiter skip piece text ≠ [] := by
  induction text generalizing skip piece with
  | nil =>
      cases skip <;> exact List.cons_ne_nil piece []
  | cons character rest notEmpty =>
      cases skip with
      | succ skip => exact notEmpty skip piece
      | zero =>
          rw [piecesFrom]
          split
          · exact List.cons_ne_nil _ _
          · exact notEmpty 0 _

/-- The pieces with the delimiter between them are the text. -/
theorem intercalate_piecesFrom (nonempty : delimiter ≠ []) (skip : Nat) (piece text : List α) :
    delimiter.intercalate (piecesFrom delimiter skip piece text) = piece ++ text.drop skip := by
  induction text generalizing skip piece with
  | nil =>
      rw [List.drop_nil, List.append_nil]
      cases skip <;> exact List.intercalate_singleton
  | cons character rest joins =>
      cases skip with
      | succ skip =>
          rw [piecesFrom, List.drop_succ_cons]
          exact joins skip piece
      | zero =>
          rw [piecesFrom, List.drop_zero]
          split
          · rename_i occurs
            rw [List.intercalate_cons_of_ne_nil (piecesFrom_ne_nil _ _ _), joins, List.nil_append,
              List.append_assoc, <- cons_eq_append_drop occurs nonempty]
          · rw [joins, List.drop_zero, List.append_assoc, List.singleton_append]

theorem intercalate_pieces (nonempty : delimiter ≠ []) (text : List α) :
    delimiter.intercalate (pieces delimiter text) = text :=
  intercalate_piecesFrom nonempty 0 [] text

/-- No piece has the delimiter in it. -/
theorem not_infix_of_mem_piecesFrom (nonempty : delimiter ≠ []) {skip : Nat}
    {piece text : List α} (begun : skip ≠ 0 -> piece = [])
    (nowhere : BeginsNowhere delimiter piece text) :
    forall other, other ∈ piecesFrom delimiter skip piece text -> ¬ delimiter <:+: other := by
  have emptyNowhere (text : List α) : BeginsNowhere delimiter [] text :=
    fun place inside => absurd inside (Nat.not_lt_zero place)
  induction text generalizing skip piece with
  | nil =>
      intro other member
      have same : other = piece := by
        cases skip <;> exact List.mem_singleton.mp member
      rw [same]
      exact nowhere.not_infix nonempty
  | cons character rest apart =>
      cases skip with
      | succ skip =>
          have isEmpty := begun (Nat.succ_ne_zero skip)
          subst isEmpty
          exact apart (fun _ => rfl) (emptyNowhere rest)
      | zero =>
          rw [piecesFrom]
          split
          · intro other member
            rcases List.mem_cons.mp member with same | later
            · rw [same]
              exact nowhere.not_infix nonempty
            · exact apart (fun _ => rfl) (emptyNowhere rest) other later
          · rename_i notHere
            exact apart (fun absurdity => absurd rfl absurdity) (nowhere.snoc notHere)

theorem not_infix_of_mem_pieces (nonempty : delimiter ≠ []) {text piece : List α}
    (member : piece ∈ pieces delimiter text) : ¬ delimiter <:+: piece :=
  not_infix_of_mem_piecesFrom nonempty (fun _ => rfl)
    (fun place inside => absurd inside (Nat.not_lt_zero place)) piece member

theorem length_piecesFrom (skip : Nat) (piece text : List α) :
    (piecesFrom delimiter skip piece text).length = occurrencesFrom delimiter skip text + 1 := by
  induction text generalizing skip piece with
  | nil => cases skip <;> rfl
  | cons character rest counts =>
      cases skip with
      | succ skip => exact counts skip piece
      | zero =>
          rw [piecesFrom, occurrencesFrom]
          split
          · rw [List.length_cons, counts]
          · exact counts 0 _

/-- One more piece than there are occurrences. -/
theorem length_pieces (delimiter text : List α) :
    (pieces delimiter text).length = occurrences delimiter text + 1 :=
  length_piecesFrom 0 [] text

end Pieces

section Searches

/-! ## Searches -/

theorem piecesFrom_skip (skip : Nat) (piece text : List α) :
    piecesFrom delimiter skip piece text = piecesFrom delimiter 0 piece (text.drop skip) := by
  induction text generalizing skip with
  | nil =>
      rw [List.drop_nil]
      cases skip <;> rfl
  | cons character rest skips =>
      cases skip with
      | zero => rfl
      | succ skip =>
          rw [List.drop_succ_cons]
          exact skips skip

/-- The scan goes from one place where the delimiter occurs first to the next. -/
theorem piecesFrom_firstIn (nonempty : delimiter ≠ []) (piece text : List α) :
    piecesFrom delimiter 0 piece text =
      match firstIn delimiter text with
      | none => [piece ++ text]
      | some place =>
          (piece ++ text.take place) ::
            piecesFrom delimiter 0 [] (text.drop (place + delimiter.length)) := by
  induction text generalizing piece with
  | nil =>
      have notHere : ¬ delimiter <+: [] := fun occurs => nonempty (List.prefix_nil.mp occurs)
      rw [firstIn, if_neg notHere, List.append_nil]
      rfl
  | cons character rest scans =>
      have positive := List.length_pos_of_ne_nil nonempty
      rw [piecesFrom, firstIn]
      by_cases occurs : delimiter <+: character :: rest
      · have dropped : (character :: rest).drop (0 + delimiter.length) =
            rest.drop (delimiter.length - 1) := by
          rw [Nat.zero_add, <- Nat.sub_add_cancel positive, List.drop_succ_cons,
            Nat.add_sub_cancel]
        rw [if_pos occurs, if_pos occurs]
        dsimp only
        rw [List.take_zero, List.append_nil, piecesFrom_skip, dropped]
      · rw [if_neg occurs, if_neg occurs, scans]
        cases firstIn delimiter rest with
        | none =>
            rw [List.append_assoc]
            rfl
        | some place =>
            dsimp only [Option.map_some]
            rw [List.take_succ_cons, List.append_assoc, List.singleton_append,
              Nat.add_right_comm place 1, List.drop_succ_cons]

theorem firstIn_some {text : List α} {place : Nat} (finds : firstIn delimiter text = some place) :
    place + delimiter.length ≤ text.length := by
  induction text generalizing place with
  | nil =>
      rw [firstIn] at finds
      split at finds
      · rename_i occurs
        injection finds with isPlace
        rw [<- isPlace, Nat.zero_add]
        exact occurs.length_le
      · cases finds
  | cons character rest bounded =>
      rw [firstIn] at finds
      split at finds
      · rename_i occurs
        injection finds with isPlace
        rw [<- isPlace, Nat.zero_add]
        exact occurs.length_le
      · rcases Option.map_eq_some_iff.mp finds with ⟨later, isLater, isPlace⟩
        have below := bounded isLater
        rw [List.length_cons]
        omega

end Searches

section Occurrences

/-! ## Occurrences -/

/-- There is an occurrence to take exactly if the delimiter is in the text. -/
theorem occurrences_eq_zero_iff (nonempty : delimiter ≠ []) (text : List α) :
    occurrences delimiter text = 0 <-> ¬ delimiter <:+: text := by
  unfold occurrences
  induction text with
  | nil =>
      rw [List.infix_nil]
      exact iff_of_true rfl nonempty
  | cons character rest counts =>
      rw [occurrencesFrom, List.infix_cons_iff, not_or]
      split
      · rename_i occurs
        exact iff_of_false (Nat.succ_ne_zero _) fun nowhere => nowhere.1 occurs
      · rename_i notHere
        rw [counts]
        exact (and_iff_right notHere).symm

variable {β : Type v} [DecidableEq β] {f : α -> β}

/-- A map that keeps the characters of the delimiter apart from the others of the text keeps
the number of occurrences. -/
theorem occurrences_map {text : List α}
    (apart : forall a b, a ∈ delimiter -> b ∈ text -> f a = f b -> a = b) :
    occurrences (delimiter.map f) (text.map f) = occurrences delimiter text := by
  have general (skip : Nat) :
      occurrencesFrom (delimiter.map f) skip (text.map f) =
        occurrencesFrom delimiter skip text := by
    induction text generalizing skip with
    | nil => cases skip <;> rfl
    | cons character rest counts =>
        have apartRest : forall a b, a ∈ delimiter -> b ∈ rest -> f a = f b -> a = b :=
          fun a b inDelimiter inRest => apart a b inDelimiter (List.mem_cons_of_mem _ inRest)
        have occurs := map_prefix_map_iff apart
        rw [List.map_cons] at occurs ⊢
        cases skip with
        | succ skip => exact counts apartRest skip
        | zero =>
            rw [occurrencesFrom, occurrencesFrom, List.length_map, counts apartRest,
              counts apartRest]
            by_cases here : delimiter <+: character :: rest
            · rw [if_pos here, if_pos (occurs.mpr here)]
            · rw [if_neg here, if_neg fun other => here (occurs.mp other)]
  exact general 0

end Occurrences

end Delimiters
end Foundations
