import Mathlib.Data.List.TakeWhile

namespace Foundations
namespace Digits

/-!
# Names that end in a number

Numbers are written with digits only, and different numbers are written
differently. So a name that is composed of a text with a final underscore and a
number determines the number, whatever the text is.
-/

/-- The digits of a number have no underscore. -/
theorem underscore_not_mem_digits (number : Nat) : '_' ∉ (toString number).toList := by
  change '_' ∉ number.repr.toList
  rw [Nat.toList_repr]
  exact Nat.underscore_not_in_toDigits

/-- Different numbers have different digits. -/
theorem digits_injective {first second : Nat}
    (equal : (toString first).toList = (toString second).toList) : first = second := by
  change first.repr.toList = second.repr.toList at equal
  rw [Nat.toList_repr, Nat.toList_repr] at equal
  have values := congrArg (fun digits => Nat.ofDigitChars 10 digits 0) equal
  simpa only [Nat.ofDigitChars_ten_toDigits] using values

/-- What follows the last underscore of a list is determined. -/
theorem tail_after_underscore {first second firstTail secondTail : List Char}
    (firstLast : first.getLast? = some '_') (secondLast : second.getLast? = some '_')
    (firstFree : '_' ∉ firstTail) (secondFree : '_' ∉ secondTail)
    (equal : first ++ firstTail = second ++ secondTail) : firstTail = secondTail := by
  have cut {list tail : List Char} (last : list.getLast? = some '_')
      (free : '_' ∉ tail) :
      (list ++ tail).reverse.takeWhile (fun char => char != '_') = tail.reverse := by
    rcases List.getLast?_eq_some_iff.mp last with ⟨front, frontEqual⟩
    rw [frontEqual, List.reverse_append, List.reverse_append, List.reverse_singleton,
      List.takeWhile_append_of_pos]
    · simp
    · intro char member
      rw [bne_iff_ne]
      intro isUnderscore
      rw [isUnderscore, List.mem_reverse] at member
      exact free member
  have reversed := congrArg
    (fun list => list.reverse.takeWhile (fun char => char != '_')) equal
  simp only [cut firstLast firstFree, cut secondLast secondFree] at reversed
  exact List.reverse_inj.mp reversed

/-- The digits of a number are digits. -/
theorem isDigit_of_mem_digits {number : Nat} {char : Char}
    (member : char ∈ (toString number).toList) : char.isDigit = true := by
  change char ∈ number.repr.toList at member
  rw [Nat.toList_repr] at member
  exact Nat.isDigit_of_mem_toDigits (by decide) (by decide) member

/-- A number has a first digit. -/
theorem digits_eq_cons (number : Nat) : exists digit rest,
    (toString number).toList = digit :: rest ∧ digit.isDigit = true := by
  cases digits : (toString number).toList with
  | nil =>
      change number.repr.toList = [] at digits
      rw [Nat.toList_repr] at digits
      exact absurd digits Nat.toDigits_ne_nil
  | cons digit rest =>
      have member : digit ∈ (toString number).toList := by
        rw [digits]
        exact List.mem_cons_self
      exact ⟨digit, rest, rfl, isDigit_of_mem_digits member⟩

/-- What ends in a number ends in a digit. -/
theorem getLast?_append_digits (front : List Char) (number : Nat) : exists digit,
    (front ++ (toString number).toList).getLast? = some digit ∧ digit.isDigit = true := by
  rcases digits_eq_cons number with ⟨first, rest, digits, _⟩
  have last : (toString number).toList.getLast? = some (rest.getLast?.getD first) := by
    rw [digits, List.getLast?_cons]
  rw [List.getLast?_append, last, Option.some_or]
  exact ⟨_, rfl, isDigit_of_mem_digits (List.mem_of_getLast? last)⟩

/-! ## Underscores -/

/-- An underscore of a text is the first one, or it stands behind the first one. -/
theorem split_at_underscore {stem before after rest : List Char} (free : '_' ∉ stem)
    (equal : stem ++ '_' :: rest = before ++ '_' :: after) :
    (before = stem ∧ after = rest) ∨
      exists middle, before = stem ++ '_' :: middle ∧ rest = middle ++ '_' :: after := by
  rcases List.append_eq_append_iff.mp equal with ⟨gap, isBefore, isRest⟩ | ⟨gap, isStem, isAfter⟩
  · cases gap with
    | nil =>
        rw [List.append_nil] at isBefore
        rw [List.nil_append, List.cons.injEq] at isRest
        exact Or.inl ⟨isBefore, isRest.2.symm⟩
    | cons char middle =>
        rw [List.cons_append, List.cons.injEq] at isRest
        rw [<- isRest.1] at isBefore
        exact Or.inr ⟨middle, isBefore, isRest.2⟩
  · cases gap with
    | nil =>
        rw [List.append_nil] at isStem
        rw [List.nil_append, List.cons.injEq] at isAfter
        exact Or.inl ⟨isStem.symm, isAfter.2⟩
    | cons char middle =>
        rw [List.cons_append, List.cons.injEq] at isAfter
        rw [isStem, <- isAfter.1] at free
        exact absurd (List.mem_append_right before List.mem_cons_self) free

/-- Each underscore that is not at the end stands before a character of a kind. -/
def BeforeKind (kind : Char -> Prop) (text : List Char) : Prop :=
  forall before char after, text = before ++ '_' :: char :: after -> kind char

theorem beforeKind_of_free {kind : Char -> Prop} {text : List Char} (free : '_' ∉ text) :
    BeforeKind kind text := by
  intro before char after equal
  rw [equal] at free
  exact absurd (List.mem_append_right before List.mem_cons_self) free

/-- One more underscore in front. -/
theorem BeforeKind.stem {kind : Char -> Prop} {stem rest : List Char} {char : Char}
    (free : '_' ∉ stem) (isKind : kind char) (others : BeforeKind kind (char :: rest)) :
    BeforeKind kind (stem ++ '_' :: char :: rest) := by
  intro before other after equal
  rcases split_at_underscore free equal with ⟨_, same⟩ | ⟨middle, _, isRest⟩
  · rw [List.cons.injEq] at same
    rw [same.1]
    exact isKind
  · exact others middle other after isRest

/-- A number behind an underscore. -/
theorem BeforeKind.digits {kind : Char -> Prop} {stem rest : List Char} {number : Nat}
    (free : '_' ∉ stem) (isKind : forall char, char.isDigit = true -> kind char)
    (others : BeforeKind kind ((toString number).toList ++ rest)) :
    BeforeKind kind (stem ++ '_' :: ((toString number).toList ++ rest)) := by
  rcases digits_eq_cons number with ⟨digit, tail, digits, isDigit⟩
  rw [digits] at others ⊢
  exact .stem free (isKind digit isDigit) others

end Digits
end Foundations
