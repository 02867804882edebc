import Mathlib.Data.Nat.Log
import NewBcpl.Ast
import NewBcpl.Foundations.Digits

namespace NewBcpl
namespace Lists

open Foundations

/-!
# The keys of list literals

The data generator shares list literals that print the same. The elements are printed one
after the other, each in the brackets of its kind: integers in decimal, floats with the six
significant digits of an output stream, strings with their characters as they are.
-/

section Floats

/-! ## Floats on an output stream -/

/-- The nearest integer to a quotient, and the even one of two. -/
def roundHalfEven (numerator denominator : Nat) : Nat :=
  let quotient := numerator / denominator
  let remainder := numerator % denominator
  if 2 * remainder < denominator then quotient
  else if denominator < 2 * remainder then quotient + 1
  else if quotient % 2 = 0 then quotient
  else quotient + 1

/-- The exponent of the highest power of ten that a positive quotient reaches. -/
def decimalExponent (numerator denominator : Nat) : Int :=
  if denominator ≤ numerator then (Nat.log 10 (numerator / denominator) : Nat)
  else -(Nat.clog 10 ((denominator + numerator - 1) / numerator) : Nat)

/-- Six significant digits of a positive quotient, as an integer, with the exponent of the
first one. -/
def sixDigits (numerator denominator : Nat) : Nat × Int :=
  let exponent := decimalExponent numerator denominator
  let digits :=
    if exponent ≤ 5 then
      roundHalfEven (numerator * 10 ^ (5 - exponent).toNat) denominator
    else roundHalfEven numerator (denominator * 10 ^ (exponent - 5).toNat)
  if digits = 10 ^ 6 then (10 ^ 5, exponent + 1) else (digits, exponent)

/-- A text without the zeros at its end. -/
def stripZeros (digits : List Char) : List Char :=
  (digits.reverse.dropWhile fun digit => digit == '0').reverse

/-- The digits behind the point, and no point without them. -/
def fractionText (digits : List Char) : List Char :=
  match stripZeros digits with
  | [] => []
  | first :: others => '.' :: first :: others

/-- An exponent with a sign and at least two digits. -/
def exponentText (exponent : Int) : List Char :=
  (if exponent < 0 then '-' else '+') ::
    ((if exponent.natAbs < 10 then ['0'] else []) ++ (toString exponent.natAbs).toList)

/-- A positive quotient with six significant digits, with an exponent if it is small or
large. -/
def generalText (numerator denominator : Nat) : List Char :=
  let (number, exponent) := sixDigits numerator denominator
  let digits := (toString number).toList
  if exponent < -4 ∨ 6 ≤ exponent then
    digits.take 1 ++ fractionText (digits.drop 1) ++ 'e' :: exponentText exponent
  else if 0 ≤ exponent then
    digits.take (exponent.toNat + 1) ++ fractionText (digits.drop (exponent.toNat + 1))
  else
    '0' :: '.' :: (List.replicate (-exponent - 1).toNat '0' ++ stripZeros digits)

/-- A finite double, from its significand and the exponent of its last bit. -/
def finiteText (significand : Nat) (exponent : Int) : List Char :=
  if significand = 0 then ['0']
  else if 0 ≤ exponent then generalText (significand * 2 ^ exponent.toNat) 1
  else generalText significand (2 ^ (-exponent).toNat)

/-- A double, given by its bits, as `operator<<` prints it. -/
def floatText (bits : Word) : List Char :=
  let exponent := (bits.extractLsb' 52 11).toNat
  let fraction := (bits.extractLsb' 0 52).toNat
  if exponent = 2047 ∧ fraction ≠ 0 then ['n', 'a', 'n']
  else
    (if bits.msb then ['-'] else []) ++
      if exponent = 2047 then ['i', 'n', 'f']
      else if exponent = 0 then finiteText fraction (-1074)
      else finiteText (2 ^ 52 + fraction) (exponent - 1075)

end Floats

section Keys

/-! ## Keys -/

/-- The initializers of a list, as far as the data generator tells them apart; a string
is given by its bytes. -/
inductive Initializer where
  | int (value : Word)
  | float (bits : Word)
  | string (value : List Char)
  | list (initializers : List Initializer)
  | unknown

/-- A signed integer as `operator<<` prints it. -/
def intText (value : Word) : List Char := (toString value.toInt).toList

mutual

/-- The text of one initializer in a key. -/
def initializerText : Initializer -> List Char
  | .int value => ['i', 'n', 't', '('] ++ intText value ++ [')']
  | .float bits => ['f', 'l', 'o', 'a', 't', '('] ++ floatText bits ++ [')']
  | .string value => ['s', 't', 'r', 'i', 'n', 'g', '('] ++ value ++ [')']
  | .list initializers => ['l', 'i', 's', 't', '['] ++ initializersText true initializers ++ [']']
  | .unknown => ['u', 'n', 'k', 'n', 'o', 'w', 'n']

/-- The texts of initializers, with commas between them. -/
def initializersText (first : Bool) : List Initializer -> List Char
  | [] => []
  | initializer :: rest =>
      (if first then [] else [',']) ++ initializerText initializer ++ initializersText false rest

end

/-- `generate_list_key`. -/
def generateListKey (initializers : List Initializer) : List Char :=
  ['l', 'i', 's', 't', '['] ++ initializersText true initializers ++ [']']

end Keys

section Numbers

/-! ## The texts of numbers -/

theorem toDigit_ne {number : Nat} {char : Char} (notDigit : char.isDigit = false) :
    char ∉ (toString number).toList := by
  intro member
  rw [Digits.isDigit_of_mem_digits member] at notDigit
  cases notDigit

/-- A non-negative number is printed by its digits, a negative one with a sign before
them. -/
theorem intText_cases (value : Word) :
    (0 ≤ value.toInt ∧ intText value = (toString value.toInt.natAbs).toList) ∨
      (value.toInt < 0 ∧ intText value = '-' :: (toString value.toInt.natAbs).toList) := by
  unfold intText
  cases value.toInt with
  | ofNat number => exact Or.inl ⟨Int.natCast_nonneg number, rfl⟩
  | negSucc number =>
      refine Or.inr ⟨Int.negSucc_lt_zero number, ?_⟩
      change ("-" ++ Nat.repr (number + 1)).toList = '-' :: (Nat.repr (number + 1)).toList
      rw [String.toList_append]
      rfl

theorem intText_closed (value : Word) : ')' ∉ intText value := by
  rcases intText_cases value with ⟨_, text⟩ | ⟨_, text⟩
  · rw [text]
    exact toDigit_ne rfl
  · rw [text, List.mem_cons, not_or]
    exact ⟨by decide, toDigit_ne rfl⟩

theorem intText_injective {first second : Word} (same : intText first = intText second) :
    first = second := by
  apply BitVec.eq_of_toInt_eq
  rcases intText_cases first with ⟨sign, text⟩ | ⟨sign, text⟩ <;>
    rcases intText_cases second with ⟨signOther, textOther⟩ | ⟨signOther, textOther⟩
  · rw [text, textOther] at same
    have digits := Digits.digits_injective same
    omega
  · rw [text, textOther] at same
    have member : '-' ∈ (toString first.toInt.natAbs).toList := same ▸ List.mem_cons_self
    exact absurd member (toDigit_ne rfl)
  · rw [text, textOther] at same
    have member : '-' ∈ (toString second.toInt.natAbs).toList := same ▸ List.mem_cons_self
    exact absurd member (toDigit_ne rfl)
  · rw [text, textOther, List.cons.injEq] at same
    have digits := Digits.digits_injective same.2
    omega

theorem mem_stripZeros {digits : List Char} {char : Char} (member : char ∈ stripZeros digits) :
    char ∈ digits := by
  rw [stripZeros, List.mem_reverse] at member
  exact List.mem_reverse.mp ((List.dropWhile_sublist _).subset member)

theorem fractionText_closed {digits : List Char} (closed : ')' ∉ digits) :
    ')' ∉ fractionText digits := by
  unfold fractionText
  cases stripped : stripZeros digits with
  | nil => exact List.not_mem_nil
  | cons first others =>
      rw [List.mem_cons, not_or]
      refine ⟨by decide, ?_⟩
      rw [<- stripped]
      exact fun member => closed (mem_stripZeros member)

theorem exponentText_closed (exponent : Int) : ')' ∉ exponentText exponent := by
  unfold exponentText
  rw [List.mem_cons, List.mem_append, not_or, not_or]
  refine ⟨?_, ?_, toDigit_ne rfl⟩
  · split <;> decide
  · split <;> decide

theorem generalText_closed (numerator denominator : Nat) :
    ')' ∉ generalText numerator denominator := by
  unfold generalText
  generalize sixDigits numerator denominator = result
  rcases result with ⟨number, exponent⟩
  have digits : ')' ∉ (toString number).toList := toDigit_ne rfl
  have taken (count : Nat) : ')' ∉ (toString number).toList.take count :=
    fun member => digits (List.mem_of_mem_take member)
  have dropped (count : Nat) : ')' ∉ (toString number).toList.drop count :=
    fun member => digits (List.mem_of_mem_drop member)
  dsimp only
  split
  · rw [List.mem_append, List.mem_append, List.mem_cons, not_or, not_or, not_or]
    exact ⟨⟨taken 1, fractionText_closed (dropped 1)⟩, by decide, exponentText_closed exponent⟩
  split
  · rw [List.mem_append, not_or]
    exact ⟨taken _, fractionText_closed (dropped _)⟩
  · rw [List.mem_cons, List.mem_cons, List.mem_append, not_or, not_or, not_or]
    refine ⟨by decide, by decide, ?_, fun member => digits (mem_stripZeros member)⟩
    intro member
    exact absurd (List.eq_of_mem_replicate member) (by decide)

theorem finiteText_closed (significand : Nat) (exponent : Int) :
    ')' ∉ finiteText significand exponent := by
  unfold finiteText
  split
  · decide
  split
  · exact generalText_closed _ _
  · exact generalText_closed _ _

/-- No float is printed with a closing bracket. -/
theorem floatText_closed (bits : Word) : ')' ∉ floatText bits := by
  unfold floatText
  dsimp only
  split
  · decide
  · rw [List.mem_append, not_or]
    constructor
    · split <;> decide
    · split
      · decide
      split
      · exact finiteText_closed _ _
      · exact finiteText_closed _ _

end Numbers

section Reading

/-! ## Reading keys -/

mutual

/-- Two initializers are printed alike: they are equal up to floats with one text. -/
def PrintAlike : Initializer -> Initializer -> Prop
  | .int value, .int other => value = other
  | .float bits, .float other => floatText bits = floatText other
  | .string value, .string other => value = other
  | .list initializers, .list others => PrintAllAlike initializers others
  | .unknown, .unknown => True
  | _, _ => False

/-- The initializers of two lists are printed alike. -/
def PrintAllAlike : List Initializer -> List Initializer -> Prop
  | [], [] => True
  | initializer :: rest, other :: others =>
      PrintAlike initializer other ∧ PrintAllAlike rest others
  | _, _ => False

end

mutual

/-- No string of the initializer has a closing bracket. -/
def Initializer.closed : Initializer -> Bool
  | .string value => !value.contains ')'
  | .list initializers => allClosed initializers
  | _ => true

/-- No string of the initializers has a closing bracket. -/
def allClosed : List Initializer -> Bool
  | [] => true
  | initializer :: rest => initializer.closed && allClosed rest

end

/-- Up to the first closing bracket two texts are read alike. -/
theorem read_to_bracket {first second rest others : List Char} (closed : ')' ∉ first)
    (closedOther : ')' ∉ second)
    (same : first ++ [')'] ++ rest = second ++ [')'] ++ others) :
    first = second ∧ rest = others := by
  rw [List.append_assoc, List.append_assoc] at same
  induction first generalizing second with
  | nil =>
      cases second with
      | nil =>
          injection same with _ tails
          exact ⟨rfl, tails⟩
      | cons char second =>
          injection same with head _
          exact absurd (head ▸ List.mem_cons_self) closedOther
  | cons char first reads =>
      rw [List.mem_cons, not_or] at closed
      cases second with
      | nil =>
          injection same with head _
          exact absurd head.symm closed.1
      | cons other second =>
          rw [List.mem_cons, not_or] at closedOther
          injection same with head tails
          rcases reads closed.2 closedOther.2 tails with ⟨rfl, rests⟩
          exact ⟨congrArg (· :: first) head, rests⟩

/-- The first letter of an initializer tells its kind, and is not the end of a list. -/
theorem initializerText_cons (initializer : Initializer) : exists char rest,
    initializerText initializer = char :: rest ∧ char ≠ ']' ∧
      (char = 'i' <-> exists value, initializer = .int value) ∧
      (char = 'f' <-> exists bits, initializer = .float bits) ∧
      (char = 's' <-> exists value, initializer = .string value) ∧
      (char = 'l' <-> exists initializers, initializer = .list initializers) := by
  cases initializer with
  | int value => exact ⟨'i', _, rfl, by simp⟩
  | float bits => exact ⟨'f', _, rfl, by simp⟩
  | string value => exact ⟨'s', _, rfl, by simp⟩
  | list initializers => exact ⟨'l', _, rfl, by simp⟩
  | unknown => exact ⟨'u', _, rfl, by simp⟩

theorem initializersText_false_cons (initializer : Initializer) (rest : List Initializer) :
    initializersText false (initializer :: rest) =
      ',' :: initializersText true (initializer :: rest) := by
  rw [initializersText, initializersText]
  rfl

theorem initializersText_true_cons (initializer : Initializer) (rest : List Initializer) :
    initializersText true (initializer :: rest) =
      initializerText initializer ++ initializersText false rest := by
  rw [initializersText]
  rfl

mutual

/-- A text of an initializer without brackets in its strings is read in one way, up to
floats with one text, whatever comes behind it. -/
theorem initializerText_read : forall (initializer : Initializer) {second : Initializer}
    {rest others : List Char}, initializer.closed = true -> second.closed = true ->
      initializerText initializer ++ rest = initializerText second ++ others ->
        PrintAlike initializer second ∧ rest = others
  | .int value, second, rest, others, _, _, same => by
      rcases initializerText_cons second with ⟨char, text, isText, _, isInt, _⟩
      have head : char = 'i' := by
        rw [isText] at same
        injection same with head _
        exact head.symm
      rcases isInt.mp head with ⟨other, rfl⟩
      simp only [initializerText, List.append_assoc] at same
      have texts := List.append_cancel_left same
      rw [<- List.append_assoc, <- List.append_assoc] at texts
      rcases read_to_bracket (intText_closed _) (intText_closed _) texts with ⟨texts, tails⟩
      exact ⟨intText_injective texts, tails⟩
  | .float bits, second, rest, others, _, _, same => by
      rcases initializerText_cons second with ⟨char, text, isText, _, _, isFloat, _⟩
      have head : char = 'f' := by
        rw [isText] at same
        injection same with head _
        exact head.symm
      rcases isFloat.mp head with ⟨other, rfl⟩
      simp only [initializerText, List.append_assoc] at same
      have texts := List.append_cancel_left same
      rw [<- List.append_assoc, <- List.append_assoc] at texts
      exact read_to_bracket (floatText_closed _) (floatText_closed _) texts
  | .string value, second, rest, others, closed, closedSecond, same => by
      rcases initializerText_cons second with ⟨char, text, isText, _, _, _, isString, _⟩
      have head : char = 's' := by
        rw [isText] at same
        injection same with head _
        exact head.symm
      rcases isString.mp head with ⟨other, rfl⟩
      simp only [initializerText, List.append_assoc] at same
      have texts := List.append_cancel_left same
      rw [<- List.append_assoc, <- List.append_assoc] at texts
      simp only [Initializer.closed, Bool.not_eq_true', List.contains_eq_mem,
        decide_eq_false_iff_not] at closed closedSecond
      exact read_to_bracket closed closedSecond texts
  | .list initializers, second, rest, others, closed, closedSecond, same => by
      rcases initializerText_cons second with ⟨char, text, isText, _, _, _, _, isList⟩
      have head : char = 'l' := by
        rw [isText] at same
        injection same with head _
        exact head.symm
      rcases isList.mp head with ⟨other, rfl⟩
      simp only [initializerText, List.append_assoc] at same
      exact initializersText_read initializers true closed closedSecond
        (List.append_cancel_left same)
  | .unknown, second, rest, others, _, _, same => by
      cases second with
      | unknown => exact ⟨trivial, List.append_cancel_left same⟩
      | int _ => simp [initializerText] at same
      | float _ => simp [initializerText] at same
      | string _ => simp [initializerText] at same
      | list _ => simp [initializerText] at same

theorem initializersText_read : forall (initializers : List Initializer) (first : Bool)
    {second : List Initializer} {rest others : List Char},
      allClosed initializers = true -> allClosed second = true ->
      initializersText first initializers ++ (']' :: rest) =
          initializersText first second ++ (']' :: others) ->
        PrintAllAlike initializers second ∧ rest = others
  | [], first, second, rest, others, _, _, same => by
      cases second with
      | nil =>
          injection same with _ tails
          exact ⟨trivial, tails⟩
      | cons initializer second =>
          rcases initializerText_cons initializer with ⟨char, text, isText, notEnd, _⟩
          cases first with
          | true =>
              rw [initializersText_true_cons, isText] at same
              injection same with head _
              exact absurd head.symm notEnd
          | false =>
              rw [initializersText_false_cons] at same
              injection same with head _
              exact absurd head (by decide)
  | initializer :: remaining, first, second, rest, others, closed, closedSecond, same => by
      cases second with
      | nil =>
          rcases initializerText_cons initializer with ⟨char, text, isText, notEnd, _⟩
          cases first with
          | true =>
              rw [initializersText_true_cons, isText] at same
              injection same with head _
              exact absurd head notEnd
          | false =>
              rw [initializersText_false_cons] at same
              injection same with head _
              exact absurd head (by decide)
      | cons other second =>
          rw [allClosed, Bool.and_eq_true] at closed closedSecond
          have behind : initializerText initializer ++
                (initializersText false remaining ++ (']' :: rest)) =
              initializerText other ++ (initializersText false second ++ (']' :: others)) := by
            cases first with
            | true =>
                rw [initializersText_true_cons, initializersText_true_cons, List.append_assoc,
                  List.append_assoc] at same
                exact same
            | false =>
                rw [initializersText_false_cons, initializersText_false_cons,
                  initializersText_true_cons, initializersText_true_cons] at same
                injection same with _ same
                rw [<- List.append_assoc, <- List.append_assoc]
                exact same
          rcases initializerText_read initializer closed.1 closedSecond.1 behind with
            ⟨alike, behind⟩
          rcases initializersText_read remaining false closed.2 closedSecond.2 behind with
            ⟨others, tails⟩
          exact ⟨⟨alike, others⟩, tails⟩

end

mutual

theorem PrintAlike.text : forall {initializer second : Initializer},
    PrintAlike initializer second -> initializerText initializer = initializerText second
  | .int _, .int _, rfl => rfl
  | .float _, .float _, same => by
      rw [initializerText, initializerText]
      rw [PrintAlike] at same
      rw [same]
  | .string _, .string _, rfl => rfl
  | .list _, .list _, same => by
      rw [PrintAlike] at same
      rw [initializerText, initializerText, same.text true]
  | .unknown, .unknown, _ => rfl

theorem PrintAllAlike.text : forall {initializers second : List Initializer},
    PrintAllAlike initializers second -> forall first : Bool,
      initializersText first initializers = initializersText first second
  | [], [], _, _ => rfl
  | _ :: _, _ :: _, ⟨alike, others⟩, first => by
      rw [initializersText, initializersText, alike.text, others.text false]

end

/-- Lists without brackets in their strings have one key if and only if they are printed
alike. -/
theorem generateListKey_eq_iff {first second : List Initializer}
    (closed : allClosed first = true) (closedSecond : allClosed second = true) :
    generateListKey first = generateListKey second <-> PrintAllAlike first second := by
  constructor
  · intro same
    rw [generateListKey, generateListKey, List.append_assoc, List.append_assoc] at same
    exact (initializersText_read first true closed closedSecond
      (List.append_cancel_left same)).1
  · intro alike
    rw [generateListKey, generateListKey, alike.text true]

end Reading

end Lists
end NewBcpl
