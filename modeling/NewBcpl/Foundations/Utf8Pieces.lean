import Mathlib.Data.List.Forall2
import NewBcpl.Foundations.Utf8

namespace Foundations
namespace Utf8

/-!
# The pieces of a text in UTF-8

Any text is a row of pieces: a piece is a byte together with the continuation bytes behind
it, at most as many as the byte announces. A piece is the bytes of a scalar, or it is ill
formed. No piece reaches over a byte that is not a continuation byte, so the pieces from
such a byte on do not depend on what stands before it.
-/

/-- The bytes that continue a sequence. All others can start one. -/
def IsContinuation (byte : Nat) : Prop := 0x80 ≤ byte ∧ byte < 0xC0

instance : DecidablePred IsContinuation := fun byte =>
  inferInstanceAs (Decidable (0x80 ≤ byte ∧ byte < 0xC0))

/-- How many continuation bytes a byte announces, if it is one that leads a sequence. -/
def announced (byte : Nat) : Option Nat :=
  if byte < 0x80 then some 0
  else if byte < 0xC0 then none
  else if byte < 0xE0 then some 1
  else if byte < 0xF0 then some 2
  else if byte < 0xF8 then some 3
  else none

/-- The continuation bytes at the front of a text, at most `count`. -/
def continuing : Nat -> List Nat -> List Nat
  | count + 1, byte :: rest => if IsContinuation byte then byte :: continuing count rest else []
  | _, _ => []

/-- The bytes that belong to a byte in front of a text. -/
def tailOf (first : Nat) (rest : List Nat) : List Nat :=
  continuing ((announced first).getD 0) rest

/-- The pieces of a text. -/
def pieces : List Nat -> List (List Nat)
  | [] => []
  | first :: rest =>
      (first :: tailOf first rest) :: pieces (rest.drop (tailOf first rest).length)
termination_by text => text.length
decreasing_by
  rw [List.length_drop, List.length_cons]
  omega

/-- The number that a lead byte and its continuation bytes spell. -/
def number (first : Nat) (tail : List Nat) : Nat :=
  tail.foldl (fun digits byte => digits * 64 + byte % 64) (first - leadMark tail.length)

/-- The least number that needs so many continuation bytes. -/
def least : Nat -> Nat
  | 0 => 0
  | 1 => 0x80
  | 2 => 0x800
  | _ => 0x10000

/-- The pieces that are no characters: a byte that leads no sequence, too few continuation
bytes, too many for the number, a surrogate, and a number behind the last code point. -/
inductive IllFormed : List Nat -> Prop
  | stray {first : Nat} (leadsNone : announced first = none) : IllFormed [first]
  | truncated {first count : Nat} {tail : List Nat} (leads : announced first = some count)
      (short : tail.length < count) : IllFormed (first :: tail)
  | overlong {first : Nat} {tail : List Nat} (leads : announced first = some tail.length)
      (small : number first tail < least tail.length) : IllFormed (first :: tail)
  | surrogate {first : Nat} {tail : List Nat} (leads : announced first = some tail.length)
      (above : 0xD800 ≤ number first tail) (below : number first tail ≤ 0xDFFF) :
      IllFormed (first :: tail)
  | tooLarge {first : Nat} {tail : List Nat} (leads : announced first = some tail.length)
      (large : 0x10FFFF < number first tail) : IllFormed (first :: tail)

/-- What a piece stands for: the scalar whose bytes it is, or the replacement character. -/
def Means (piece : List Nat) (value : Nat) : Prop :=
  (IsScalar value ∧ piece = encoded value) ∨ (IllFormed piece ∧ value = 0xFFFD)

section Continuing

/-! ## Continuation bytes -/

theorem continuing_zero (text : List Nat) : continuing 0 text = [] := rfl

theorem continuing_nil (count : Nat) : continuing count [] = [] := by
  cases count <;> rfl

theorem continuing_cons (count byte : Nat) (rest : List Nat) :
    continuing (count + 1) (byte :: rest) =
      if IsContinuation byte then byte :: continuing count rest else [] := rfl

/-- They are at the front of the text. -/
theorem continuing_append_drop (count : Nat) (text : List Nat) :
    continuing count text ++ text.drop (continuing count text).length = text := by
  induction count generalizing text with
  | zero => rfl
  | succ count whole =>
      cases text with
      | nil => rw [continuing_nil]; rfl
      | cons byte rest =>
          rw [continuing_cons]
          split
          · rw [List.cons_append, List.length_cons, List.drop_succ_cons, whole]
          · rfl

theorem length_continuing_le (count : Nat) (text : List Nat) :
    (continuing count text).length ≤ count := by
  induction count generalizing text with
  | zero => exact Nat.le_refl 0
  | succ count bounded =>
      cases text with
      | nil => exact Nat.zero_le _
      | cons byte rest =>
          rw [continuing_cons]
          split
          · exact Nat.succ_le_succ (bounded rest)
          · exact Nat.zero_le _

theorem isContinuation_of_mem {count byte : Nat} {text : List Nat}
    (member : byte ∈ continuing count text) : IsContinuation byte := by
  induction count generalizing text with
  | zero => cases member
  | succ count continues =>
      cases text with
      | nil => cases member
      | cons head rest =>
          rw [continuing_cons] at member
          split at member
          · rcases List.mem_cons.mp member with same | inRest
            · rwa [same]
            · exact continues inRest
          · cases member

/-- Behind the text stands nothing or a byte that continues no sequence. -/
def Breaks : List Nat -> Prop
  | [] => True
  | byte :: _ => ¬ IsContinuation byte

theorem continuing_breaks (count : Nat) {rest : List Nat} (breaks : Breaks rest) :
    continuing count rest = [] := by
  cases count with
  | zero => rfl
  | succ count =>
      cases rest with
      | nil => exact continuing_nil _
      | cons byte rest => rw [continuing_cons, if_neg breaks]

theorem continuing_append (count : Nat) (text : List Nat) {rest : List Nat}
    (breaks : Breaks rest) : continuing count (text ++ rest) = continuing count text := by
  induction count generalizing text with
  | zero => rfl
  | succ count same =>
      cases text with
      | nil => rw [List.nil_append, continuing_breaks _ breaks, continuing_nil]
      | cons byte text => rw [List.cons_append, continuing_cons, continuing_cons, same]

/-- As many continuation bytes as are asked for are all there is to take. -/
theorem continuing_of_length {tail : List Nat} (rest : List Nat)
    (continues : forall byte, byte ∈ tail -> IsContinuation byte) :
    continuing tail.length (tail ++ rest) = tail := by
  induction tail with
  | nil => rfl
  | cons byte tail taken =>
      rw [List.length_cons, List.cons_append, continuing_cons,
        if_pos (continues byte List.mem_cons_self),
        taken fun other member => continues other (List.mem_cons_of_mem byte member)]

end Continuing

section Numbers

/-! ## The number of a piece -/

/-- The range of the bytes that announce so many continuation bytes. -/
theorem announced_some {first count : Nat} (leads : announced first = some count) :
    (count = 0 ∧ first < 0x80) ∨ (count = 1 ∧ 0xC0 ≤ first ∧ first < 0xE0) ∨
      (count = 2 ∧ 0xE0 ≤ first ∧ first < 0xF0) ∨ (count = 3 ∧ 0xF0 ≤ first ∧ first < 0xF8) := by
  unfold announced at leads
  split at leads
  · injection leads with same
    omega
  split at leads
  · cases leads
  split at leads
  · injection leads with same
    omega
  split at leads
  · injection leads with same
    omega
  split at leads
  · injection leads with same
    omega
  · cases leads

/-- A lead byte announces the continuation bytes of its code point. -/
theorem announced_lead {codePoint : Nat} (bounded : codePoint ≤ 0x10FFFF) :
    announced (lead codePoint) = some (extraBytes codePoint) := by
  unfold announced
  rcases lead_cases bounded with ⟨extra, below, first⟩ | ⟨extra, above, below, first⟩ |
    ⟨extra, above, below, first⟩ | ⟨extra, above, below, first⟩
  · rw [extra, first, if_pos (by omega)]
  · rw [extra, first, if_neg (by omega), if_neg (by omega), if_pos (by omega)]
  · rw [extra, first, if_neg (by omega), if_neg (by omega), if_neg (by omega),
      if_pos (by omega)]
  · rw [extra, first, if_neg (by omega), if_neg (by omega), if_neg (by omega),
      if_neg (by omega), if_pos (by omega)]

theorem IsScalar.bounded {codePoint : Nat} (scalar : IsScalar codePoint) :
    codePoint ≤ 0x10FFFF := by
  rcases scalar with below | ⟨_, below⟩ <;> omega

theorem lead_not_continuation {codePoint : Nat} (bounded : codePoint ≤ 0x10FFFF) :
    ¬ IsContinuation (lead codePoint) := by
  unfold IsContinuation
  rcases lead_cases bounded with ⟨_, _, first⟩ | ⟨_, _, _, first⟩ | ⟨_, _, _, first⟩ |
    ⟨_, _, _, first⟩ <;> omega

theorem continuations_continue (codePoint count : Nat) :
    forall byte, byte ∈ continuations codePoint count -> IsContinuation byte := by
  induction count with
  | zero =>
      intro byte member
      cases member
  | succ count continues =>
      intro byte member
      rcases List.mem_cons.mp member with same | inRest
      · rcases continuation_digit codePoint count with ⟨above, below, _⟩
        rw [same]
        exact ⟨above, below⟩
      · exact continues byte inRest

/-- The digits of a code point, read one after the other. -/
theorem foldl_continuations (codePoint count : Nat) :
    (continuations codePoint count).foldl (fun digits byte => digits * 64 + byte % 64)
        (codePoint / 64 ^ count) = codePoint := by
  induction count with
  | zero => exact Nat.div_one codePoint
  | succ count reads =>
      rw [continuations, List.foldl_cons, (continuation_digit codePoint count).2.2, digit_step,
        reads]

theorem number_encoded {codePoint : Nat} :
    number (lead codePoint) (continuations codePoint (extraBytes codePoint)) = codePoint := by
  have top : lead codePoint - leadMark (extraBytes codePoint) =
      codePoint / 64 ^ extraBytes codePoint := by
    rw [lead, Nat.add_sub_cancel_left]
  rw [number, length_continuations, top, foldl_continuations]

/-- A sequence with all its continuation bytes is the bytes of its number, unless the number
is too small or too large for it. -/
theorem encoded_number {first : Nat} {tail : List Nat}
    (leads : announced first = some tail.length)
    (continues : forall byte, byte ∈ tail -> IsContinuation byte)
    (large : least tail.length ≤ number first tail) (bounded : number first tail ≤ 0x10FFFF) :
    encoded (number first tail) = first :: tail := by
  rcases announced_some leads with ⟨count, below⟩ | ⟨count, above, below⟩ |
    ⟨count, above, below⟩ | ⟨count, above, below⟩
  · rw [List.length_eq_zero_iff.mp count] at bounded ⊢
    have isFirst : number first [] = first := rfl
    rw [isFirst] at bounded ⊢
    rcases lead_cases bounded with ⟨extra, _, isLead⟩ | ⟨_, _, _, _⟩ | ⟨_, _, _, _⟩ |
      ⟨_, _, _, _⟩
    · rw [encoded, extra, isLead]
      rfl
    all_goals omega
  · rcases List.length_eq_one_iff.mp count with ⟨byte, rfl⟩
    have second := continues byte List.mem_cons_self
    have isNumber : number first [byte] = (first - 0xC0) * 64 + byte % 64 := rfl
    change 0x80 ≤ number first [byte] at large
    unfold IsContinuation at second
    rcases lead_cases bounded with ⟨_, _, _⟩ | ⟨extra, _, _, isLead⟩ | ⟨_, _, _, _⟩ |
      ⟨_, _, _, _⟩
    · omega
    · rw [encoded, extra, isLead, isNumber]
      simp only [continuations, Nat.pow_zero, Nat.div_one, List.cons.injEq, and_true]
      omega
    all_goals omega
  · rcases List.length_eq_two.mp count with ⟨byte, other, rfl⟩
    have second := continues byte List.mem_cons_self
    have third := continues other (List.mem_cons_of_mem byte List.mem_cons_self)
    have isNumber : number first [byte, other] =
        ((first - 0xE0) * 64 + byte % 64) * 64 + other % 64 := rfl
    change 0x800 ≤ number first [byte, other] at large
    unfold IsContinuation at second third
    rcases lead_cases bounded with ⟨_, _, _⟩ | ⟨_, _, _, _⟩ | ⟨extra, _, _, isLead⟩ |
      ⟨_, _, _, _⟩
    · omega
    · omega
    · rw [encoded, extra, isLead, isNumber]
      simp only [continuations, Nat.pow_zero, Nat.div_one, Nat.pow_one, List.cons.injEq, and_true]
      omega
    · omega
  · rcases List.length_eq_three.mp count with ⟨byte, other, last, rfl⟩
    have second := continues byte List.mem_cons_self
    have third := continues other (List.mem_cons_of_mem byte List.mem_cons_self)
    have fourth := continues last
      (List.mem_cons_of_mem byte (List.mem_cons_of_mem other List.mem_cons_self))
    have isNumber : number first [byte, other, last] =
        (((first - 0xF0) * 64 + byte % 64) * 64 + other % 64) * 64 + last % 64 := rfl
    change 0x10000 ≤ number first [byte, other, last] at large
    unfold IsContinuation at second third fourth
    rcases lead_cases bounded with ⟨_, _, _⟩ | ⟨_, _, _, _⟩ | ⟨_, _, _, _⟩ |
      ⟨extra, _, _, isLead⟩
    · omega
    · omega
    · omega
    · rw [encoded, extra, isLead, isNumber]
      simp only [continuations, Nat.pow_zero, Nat.div_one, Nat.pow_one, Nat.reducePow,
        List.cons.injEq, and_true]
      omega

end Numbers

section Meanings

/-! ## What pieces stand for -/

theorem least_le {codePoint : Nat} (bounded : codePoint ≤ 0x10FFFF) :
    least (extraBytes codePoint) ≤ codePoint := by
  rcases lead_cases bounded with ⟨extra, _, _⟩ | ⟨extra, above, _, _⟩ | ⟨extra, above, _, _⟩ |
    ⟨extra, above, _, _⟩
  · rw [extra]
    exact Nat.zero_le codePoint
  · rwa [extra]
  · rwa [extra]
  · rwa [extra]

/-- The bytes of a scalar are not ill formed. -/
theorem not_illFormed_encoded {codePoint : Nat} (scalar : IsScalar codePoint) :
    ¬ IllFormed (encoded codePoint) := by
  have leads := announced_lead scalar.bounded
  have counted := length_continuations codePoint (extraBytes codePoint)
  intro illFormed
  unfold encoded at illFormed
  generalize isTail : continuations codePoint (extraBytes codePoint) = tail at illFormed counted
  have isNumber : number (lead codePoint) tail = codePoint := isTail ▸ number_encoded
  cases illFormed with
  | stray leadsNone =>
      rw [leads] at leadsNone
      cases leadsNone
  | truncated leadsCount short =>
      rw [leads] at leadsCount
      injection leadsCount with same
      omega
  | overlong _ small =>
      rw [counted, isNumber] at small
      exact Nat.not_lt.mpr (least_le scalar.bounded) small
  | surrogate _ above below =>
      rw [isNumber] at above below
      rcases scalar with low | ⟨high, _⟩ <;> omega
  | tooLarge _ large =>
      rw [isNumber] at large
      exact Nat.not_lt.mpr scalar.bounded large

/-- Different numbers have different bytes. -/
theorem encoded_injective {first second : Nat} (same : encoded first = encoded second) :
    first = second := by
  injection same with leads tails
  have isNumber := @number_encoded first
  rw [leads, tails, number_encoded] at isNumber
  exact isNumber.symm

/-- A piece stands for one number. -/
theorem Means.unique {piece : List Nat} {first second : Nat} (means : Means piece first)
    (other : Means piece second) : first = second := by
  rcases means with ⟨scalar, isPiece⟩ | ⟨illFormed, value⟩
  · rcases other with ⟨_, isOther⟩ | ⟨illFormed, _⟩
    · exact encoded_injective (isPiece.symm.trans isOther)
    · exact absurd (isPiece ▸ illFormed) (not_illFormed_encoded scalar)
  · rcases other with ⟨otherScalar, isOther⟩ | ⟨_, otherValue⟩
    · exact absurd (isOther ▸ illFormed) (not_illFormed_encoded otherScalar)
    · exact value.trans otherValue.symm

/-- A sequence with all its continuation bytes. -/
theorem means_complete {first : Nat} {tail : List Nat}
    (leads : announced first = some tail.length)
    (continues : forall byte, byte ∈ tail -> IsContinuation byte) :
    Means (first :: tail)
      (if least tail.length ≤ number first tail ∧ IsScalar (number first tail) then
        number first tail else 0xFFFD) := by
  by_cases passes : least tail.length ≤ number first tail ∧ IsScalar (number first tail)
  · rw [if_pos passes]
    exact Or.inl ⟨passes.2, (encoded_number leads continues passes.1 passes.2.bounded).symm⟩
  · rw [if_neg passes]
    refine Or.inr ⟨?_, rfl⟩
    by_cases small : number first tail < least tail.length
    · exact IllFormed.overlong leads small
    by_cases large : 0x10FFFF < number first tail
    · exact IllFormed.tooLarge leads large
    have surrogate : 0xD800 ≤ number first tail ∧ number first tail ≤ 0xDFFF := by
      rw [not_and_or] at passes
      unfold IsScalar at passes
      omega
    exact IllFormed.surrogate leads surrogate.1 surrogate.2

end Meanings

section Pieces

/-! ## The row of pieces -/

theorem pieces_nil : pieces [] = [] := by
  rw [pieces]

theorem pieces_cons (first : Nat) (rest : List Nat) :
    pieces (first :: rest) =
      (first :: tailOf first rest) :: pieces (rest.drop (tailOf first rest).length) := by
  rw [pieces]

/-- The pieces are the text. -/
theorem flatten_pieces (text : List Nat) : (pieces text).flatten = text := by
  induction text using pieces.induct with
  | case1 => rw [pieces_nil, List.flatten_nil]
  | case2 first rest whole =>
      rw [pieces_cons, List.flatten_cons, whole, List.cons_append]
      exact congrArg _ (continuing_append_drop _ rest)

/-- Behind a piece the next one begins, whatever stands before a byte that can start one. -/
theorem pieces_append (text : List Nat) {rest : List Nat} (breaks : Breaks rest) :
    pieces (text ++ rest) = pieces text ++ pieces rest := by
  induction text using pieces.induct with
  | case1 => rw [pieces_nil, List.nil_append, List.nil_append]
  | case2 first text continued =>
      have same : tailOf first (text ++ rest) = tailOf first text :=
        continuing_append _ text breaks
      have inside : (tailOf first text).length ≤ text.length := by
        have whole := congrArg List.length
          (continuing_append_drop ((announced first).getD 0) text)
        rw [List.length_append] at whole
        exact Nat.le.intro whole
      rw [List.cons_append, pieces_cons, pieces_cons, same, List.drop_append_of_le_length inside,
        continued, List.cons_append]

/-- The bytes of a scalar are a piece. -/
theorem pieces_encoded {codePoint : Nat} (scalar : IsScalar codePoint) (rest : List Nat) :
    pieces (encoded codePoint ++ rest) = encoded codePoint :: pieces rest := by
  have isTail : tailOf (lead codePoint)
      (continuations codePoint (extraBytes codePoint) ++ rest) =
        continuations codePoint (extraBytes codePoint) := by
    have taken := continuing_of_length rest
      (continuations_continue codePoint (extraBytes codePoint))
    rw [length_continuations] at taken
    rw [tailOf, announced_lead scalar.bounded]
    exact taken
  rw [encoded, List.cons_append, pieces_cons, isTail, List.drop_left]

/-- A scalar is a piece wherever its bytes stand. -/
theorem pieces_around {codePoint : Nat} (scalar : IsScalar codePoint)
    (before after : List Nat) :
    pieces (before ++ (encoded codePoint ++ after)) =
      pieces before ++ encoded codePoint :: pieces after := by
  have breaks : Breaks (encoded codePoint ++ after) := lead_not_continuation scalar.bounded
  rw [pieces_append before breaks, pieces_encoded scalar]

end Pieces

end Utf8
end Foundations
