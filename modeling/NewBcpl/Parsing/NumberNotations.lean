import NewBcpl.Parsing.ProgramParser

namespace NewBcpl
namespace Parsing

open Parse

/-!
# What a numeric token denotes

The four notations of `scan_number`, the value that each of them denotes, and the
literal that the parser makes of its text. The parser looks for a point or the
letter `E` in the text and takes `std::stod` or `std::stoll`, both of which read
decimal digits only.
-/

/-- The value of hexadecimal digits. -/
def hexDigitValue (char : Char) : Nat :=
  if char.isDigit then char.toNat - '0'.toNat
  else if 'a' ≤ char then char.toNat - 'a'.toNat + 10
  else char.toNat - 'A'.toNat + 10

/-- The value of digits in a base. -/
def valueInBase (base : Nat) (digits : List Char) : Nat :=
  digits.foldl (fun value char => base * value + hexDigitValue char) 0

/-- An exponent with its sign; the scanner also takes one without digits. -/
structure Exponent where
  letter : Char
  sign : List Char
  digits : List Char
  isLetter : letter = 'e' ∨ letter = 'E'
  isSign : sign = [] ∨ sign = ['+'] ∨ sign = ['-']
  areDigits : digits.all Char.isDigit = true

namespace Exponent

def text (exponent : Exponent) : List Char :=
  exponent.letter :: (exponent.sign ++ exponent.digits)

def value (exponent : Exponent) : Int :=
  if exponent.sign = ['-'] then -(decimalValue exponent.digits : Int)
  else decimalValue exponent.digits

end Exponent

/-- The digits before the point of a decimal number. -/
structure Digits where
  digits : List Char
  areDigits : digits.all Char.isDigit = true
  nonempty : digits ≠ []

/-- The texts of numeric tokens. -/
inductive NumericToken where
  | decimal (whole : Digits)
  | hexadecimal (letter : Char) (isLetter : letter = 'X' ∨ letter = 'x') (digits : List Char)
      (areDigits : digits.all isHexDigit = true)
  | octal (digits : List Char) (areDigits : digits.all isOctalDigit = true)
  | fraction (whole : Digits) (digits : List Char) (areDigits : digits.all Char.isDigit = true)
      (exponent : Option Exponent)
  | scaled (whole : Digits) (exponent : Exponent)

namespace NumericToken

/-- The text of an exponent that may be missing. -/
def exponentText : Option Exponent -> List Char
  | none => []
  | some exponent => exponent.text

def text : NumericToken -> List Char
  | decimal whole => whole.digits
  | hexadecimal letter _ digits _ => '#' :: letter :: digits
  | octal digits _ => '#' :: digits
  | fraction whole digits _ exponent =>
      whole.digits ++ '.' :: (digits ++ exponentText exponent)
  | scaled whole exponent => whole.digits ++ exponent.text

/-- The power of ten of an exponent that may be missing; without digits there is
none. -/
def scale : Option Exponent -> Option Int
  | none => some 0
  | some exponent => if exponent.digits = [] then none else some exponent.value

/-- The literal with the value that a token denotes. A base without digits and an
exponent without digits denote nothing. -/
def denotes (rounding : Rounding) : NumericToken -> Option Expression
  | decimal whole => some (.integerLiteral (decimalValue whole.digits))
  | hexadecimal _ _ digits _ =>
      if digits = [] then none else some (.integerLiteral (valueInBase 16 digits))
  | octal digits _ =>
      if digits = [] then none else some (.integerLiteral (valueInBase 8 digits))
  | fraction whole digits _ exponent => do
      let power <- scale exponent
      let value <- rounding false (decimalValue (whole.digits ++ digits))
        (power - digits.length)
      pure (.floatLiteral value)
  | scaled whole exponent => do
      let power <- scale (some exponent)
      let value <- rounding false (decimalValue whole.digits) power
      pure (.floatLiteral value)

/-- The tokens that the parser gets right: decimal integers below `2 ^ 63`, and
floats in the range of the library whose exponent, if they have one, has digits. -/
def Converts (rounding : Rounding) : NumericToken -> Prop
  | decimal whole => decimalValue whole.digits < 2 ^ 63
  | hexadecimal _ _ _ _ | octal _ _ => False
  | token@(fraction _ _ _ _) | token@(scaled _ _) => (token.denotes rounding).isSome = true

end NumericToken

section Scanning

variable {accepts : Char -> Bool}

/-- A run ends where the first character that is not accepted stands. -/
theorem scanRun_append {run rest : List Char} (inRun : run.all accepts = true)
    (stops : rest.head?.any accepts = false) : scanRun accepts (run ++ rest) = (run, rest) := by
  have each : forall char, char ∈ run -> accepts char = true := List.all_eq_true.mp inRun
  unfold scanRun
  rw [List.takeWhile_append_of_pos each, List.dropWhile_append_of_pos each]
  cases rest with
  | nil => simp
  | cons first rest => simp_all

theorem scanRun_all (input : List Char) :
    (scanRun accepts input).1.all accepts = true ∧
      input = (scanRun accepts input).1 ++ (scanRun accepts input).2 ∧
      (scanRun accepts input).2.head?.any accepts = false := by
  refine ⟨?_, (List.takeWhile_append_dropWhile).symm, ?_⟩
  · apply List.all_eq_true.mpr
    exact fun char member => List.mem_takeWhile_imp member
  · change (input.dropWhile accepts).head?.any accepts = false
    cases found : (input.dropWhile accepts).head? with
    | none => rfl
    | some char =>
        have stopped := List.head?_dropWhile_not accepts input
        rw [found] at stopped
        simpa using stopped

theorem scanSign_isSign (input : List Char) :
    (scanSign input).1 = [] ∨ (scanSign input).1 = ['+'] ∨ (scanSign input).1 = ['-'] := by
  unfold scanSign
  split
  · exact Or.inr (Or.inl rfl)
  · exact Or.inr (Or.inr rfl)
  · exact Or.inl rfl

/-- What the scanner takes after the letter of an exponent. -/
def scannedExponent (letter : Char) (isLetter : letter = 'e' ∨ letter = 'E')
    (input : List Char) : Exponent :=
  { letter := letter
    sign := (scanSign input).1
    digits := (scanRun Char.isDigit (scanSign input).2).1
    isLetter := isLetter
    isSign := scanSign_isSign input
    areDigits := (scanRun_all _).1 }

/-- The scanner takes an exponent or nothing. -/
theorem scanExponent_text (input : List Char) :
    exists exponent, (scanExponent input).1 = NumericToken.exponentText exponent := by
  unfold scanExponent
  split
  · exact ⟨some (scannedExponent 'e' (Or.inl rfl) _), rfl⟩
  · exact ⟨some (scannedExponent 'E' (Or.inr rfl) _), rfl⟩
  · exact ⟨none, rfl⟩

/-- `scan_number` produces the texts of numeric tokens. -/
theorem scanNumber_text {input : List Char} (starts : startsNumber input = true) :
    exists token : NumericToken, (scanNumber input).1 = token.text := by
  unfold scanNumber
  split
  · exact ⟨.hexadecimal 'X' (Or.inl rfl) _ (scanRun_all _).1, rfl⟩
  · exact ⟨.hexadecimal 'x' (Or.inr rfl) _ (scanRun_all _).1, rfl⟩
  · exact ⟨.octal _ (scanRun_all _).1, rfl⟩
  · rename_i notHash
    have nonempty : (scanRun Char.isDigit input).1 ≠ [] := by
      cases input with
      | nil => cases starts
      | cons char rest =>
          have isDigit : char.isDigit = true := by
            rcases Bool.or_eq_true_iff.mp starts with digit | hash
            · exact digit
            · exact absurd (congrArg (· :: rest) (eq_of_beq hash)) (notHash rest)
          simp [scanRun, isDigit]
    rcases scanExponent_text (scanFraction (scanRun Char.isDigit input).2).2 with
      ⟨exponent, taken⟩
    simp only [taken]
    generalize (scanRun Char.isDigit input).2 = after
    unfold scanFraction
    split
    · rename_i digits
      exact ⟨.fraction ⟨_, (scanRun_all input).1, nonempty⟩ _ (scanRun_all digits).1 exponent,
        by simp [NumericToken.text]⟩
    · cases exponent with
      | none =>
          exact ⟨.decimal ⟨_, (scanRun_all input).1, nonempty⟩,
            by simp [NumericToken.text, NumericToken.exponentText]⟩
      | some exponent =>
          exact ⟨.scaled ⟨_, (scanRun_all input).1, nonempty⟩ exponent,
            by simp [NumericToken.text, NumericToken.exponentText]⟩

end Scanning

section Conversions

/-- The literal that `parse_primary_expression` makes of a text. -/
def convertNumber (rounding : Rounding) (text : List Char) : Except Escape Expression :=
  if hasFloatMark text then (stod rounding text).map .floatLiteral
  else (stoll text).map .integerLiteral

theorem isDigit_not_isSpace {char : Char} (digit : char.isDigit = true) :
    isSpace char = false := by
  unfold isSpace
  simp only [Bool.or_eq_false_iff, beq_eq_false_iff_ne]
  refine ⟨⟨⟨⟨⟨?_, ?_⟩, ?_⟩, ?_⟩, ?_⟩, ?_⟩ <;> (rintro rfl; cases digit)

/-- A text that starts with a digit has no blanks and no sign to read. -/
theorem readSign_digits {digits : List Char} (areDigits : digits.all Char.isDigit = true)
    (nonempty : digits ≠ []) (rest : List Char) :
    readSign ((digits ++ rest).dropWhile isSpace) = (false, digits ++ rest) := by
  cases digits with
  | nil => exact absurd rfl nonempty
  | cons first others =>
      have isDigit : first.isDigit = true := by
        simp only [List.all_cons, Bool.and_eq_true] at areDigits
        exact areDigits.1
      rw [List.cons_append, List.dropWhile_cons_of_neg (by simp [isDigit_not_isSpace isDigit])]
      unfold readSign
      split
      · rename_i same
        cases same
        cases isDigit
      · rename_i same
        cases same
        cases isDigit
      · rfl

theorem hasFloatMark_digits {digits : List Char} (areDigits : digits.all Char.isDigit = true) :
    hasFloatMark digits = false := by
  unfold hasFloatMark
  rw [List.any_eq_false]
  intro char member marked
  have isDigit := List.all_eq_true.mp areDigits char member
  simp only [Bool.or_eq_true, beq_iff_eq] at marked
  rcases marked with (rfl | rfl) | rfl <;> cases isDigit

theorem takeWhile_digits {digits : List Char} (areDigits : digits.all Char.isDigit = true) :
    digits.takeWhile Char.isDigit = digits := by
  apply List.takeWhile_eq_self_iff.mpr
  exact List.all_eq_true.mp areDigits

/-- The number that the conversions read at the start of a text. -/
theorem readInteger_whole (whole : Digits) {rest : List Char}
    (stops : rest.head?.any Char.isDigit = false) :
    readInteger (whole.digits ++ rest) = some (decimalValue whole.digits : Int) := by
  have run := scanRun_append whole.areDigits stops
  have taken : (whole.digits ++ rest).takeWhile Char.isDigit = whole.digits :=
    congrArg Prod.fst run
  unfold readInteger
  simp only [readSign_digits whole.areDigits whole.nonempty rest, taken]
  cases found : whole.digits with
  | nil => exact absurd found whole.nonempty
  | cons first others => rfl

/-- A conversion of a text that starts with a natural number. -/
theorem toSigned_natural {bits : Nat} {text : List Char} {number : Nat}
    (read : readInteger text = some (number : Int)) :
    toSigned bits text =
      if number < 2 ^ (bits - 1) then .ok (number : Int) else .error .outOfRange := by
  have cast : (number : Int) < (2 : Int) ^ (bits - 1) <-> number < 2 ^ (bits - 1) := by
    exact_mod_cast Iff.rfl
  have positive : (0 : Int) < (2 : Int) ^ (bits - 1) := Int.pow_pos (by omega)
  unfold toSigned
  rw [read]
  by_cases small : number < 2 ^ (bits - 1)
  · rw [if_pos small]
    exact if_pos ⟨by omega, cast.mpr small⟩
  · rw [if_neg small]
    exact if_neg fun inRange => small (cast.mp inRange.2)

/-- A decimal token is read by `stoll`, in its range. -/
theorem convertNumber_decimal (rounding : Rounding) (whole : Digits) :
    convertNumber rounding (NumericToken.decimal whole).text =
      if decimalValue whole.digits < 2 ^ 63 then
        .ok (.integerLiteral (decimalValue whole.digits))
      else .error .outOfRange := by
  have read := readInteger_whole whole (show ([] : List Char).head?.any _ = _ from rfl)
  rw [List.append_nil] at read
  unfold convertNumber
  change (if hasFloatMark whole.digits then _ else (stoll whole.digits).map _) = _
  unfold stoll
  rw [hasFloatMark_digits whole.areDigits, toSigned_natural read]
  by_cases small : decimalValue whole.digits < 2 ^ 63
  · rw [if_pos small, if_pos small]
    rfl
  · rw [if_neg small, if_neg small]
    rfl

/-- A token in another base is read by neither conversion: it starts with `#`. -/
theorem convertNumber_hash (rounding : Rounding) (rest : List Char) :
    convertNumber rounding ('#' :: rest) = .error .invalidArgument := by
  have signed : readSign (('#' :: rest).dropWhile isSpace) = (false, '#' :: rest) := rfl
  have empty : ('#' :: rest).takeWhile Char.isDigit = [] := rfl
  have all : ('#' :: rest).dropWhile Char.isDigit = '#' :: rest := rfl
  unfold convertNumber
  split
  · simp [stod, signed, empty, all, readFraction, Except.map]
  · simp [stoll, toSigned, readInteger, signed, empty, Except.map]

/-- The number that `stod` reads after a whole part. -/
theorem stod_whole (rounding : Rounding) (whole : Digits) {rest : List Char}
    (stops : rest.head?.any Char.isDigit = false) :
    stod rounding (whole.digits ++ rest) =
      match rounding false (decimalValue (whole.digits ++ (readFraction rest).1))
          (readExponent (readFraction rest).2 - (readFraction rest).1.length) with
      | some value => .ok value
      | none => .error .outOfRange := by
  have signed := readSign_digits whole.areDigits whole.nonempty rest
  have run := scanRun_append whole.areDigits stops
  have taken : (whole.digits ++ rest).takeWhile Char.isDigit = whole.digits :=
    congrArg Prod.fst run
  have left : (whole.digits ++ rest).dropWhile Char.isDigit = rest := congrArg Prod.snd run
  unfold stod
  simp only [signed, taken, left]
  cases found : whole.digits with
  | nil => exact absurd found whole.nonempty
  | cons first others => rfl

theorem scanExponentDigits_value (exponent : Exponent) :
    readExponent exponent.text = exponent.value := by
  rcases exponent with ⟨letter, sign, digits, isLetter, isSign, areDigits⟩
  have taken := takeWhile_digits areDigits
  have unsigned : readSign digits = (false, digits) := by
    cases digits with
    | nil => rfl
    | cons first others =>
        have signed := readSign_digits areDigits (List.cons_ne_nil _ _) []
        rw [List.append_nil, List.dropWhile_cons_of_neg] at signed
        · exact signed
        · simp only [List.all_cons, Bool.and_eq_true] at areDigits
          simp [isDigit_not_isSpace areDigits.1]
  unfold Exponent.text readExponent Exponent.value
  simp only [isLetter, if_true]
  rcases isSign with rfl | rfl | rfl
  · simp [unsigned, taken]
  · simp [readSign, taken]
  · simp [readSign, taken]

/-- The exponent that `stod` finds is the written one, or zero when there are no
digits. -/
theorem readExponent_text (exponent : Option Exponent) :
    readExponent (NumericToken.exponentText exponent) =
      (NumericToken.scale exponent).getD 0 := by
  cases exponent with
  | none => rfl
  | some exponent =>
      change readExponent exponent.text = _
      rw [scanExponentDigits_value]
      change _ = (if exponent.digits = [] then none else some exponent.value).getD 0
      by_cases empty : exponent.digits = []
      · rw [if_pos empty]
        unfold Exponent.value
        rw [empty]
        simp [decimalValue]
      · rw [if_neg empty]
        rfl

theorem exponentText_stops (exponent : Option Exponent) :
    (NumericToken.exponentText exponent).head?.any Char.isDigit = false := by
  cases exponent with
  | none => rfl
  | some exponent =>
      rcases exponent with ⟨letter, sign, digits, isLetter, isSign, areDigits⟩
      rcases isLetter with rfl | rfl <;> rfl

theorem hasFloatMark_exponent (exponent : Exponent) (before : List Char) :
    hasFloatMark (before ++ exponent.text) = true := by
  rcases exponent with ⟨letter, sign, digits, isLetter, isSign, areDigits⟩
  unfold hasFloatMark Exponent.text
  rcases isLetter with rfl | rfl <;> simp

/-- The double for a number with a fraction, read from its text. -/
theorem convertNumber_fraction (rounding : Rounding) (whole : Digits) (digits : List Char)
    (areDigits : digits.all Char.isDigit = true) (exponent : Option Exponent) :
    convertNumber rounding (NumericToken.fraction whole digits areDigits exponent).text =
      match rounding false (decimalValue (whole.digits ++ digits))
          ((NumericToken.scale exponent).getD 0 - digits.length) with
      | some value => .ok (.floatLiteral value)
      | none => .error .outOfRange := by
  have marked : hasFloatMark
      (NumericToken.fraction whole digits areDigits exponent).text = true := by
    simp [hasFloatMark, NumericToken.text]
  have run := scanRun_append areDigits (exponentText_stops exponent)
  have fraction : readFraction ('.' :: (digits ++ NumericToken.exponentText exponent)) =
      (digits, NumericToken.exponentText exponent) := run
  unfold convertNumber
  rw [if_pos marked]
  change (stod rounding (whole.digits ++ '.' ::
    (digits ++ NumericToken.exponentText exponent))).map _ = _
  rw [stod_whole rounding whole rfl, fraction, readExponent_text]
  cases rounding false (decimalValue (whole.digits ++ digits))
    ((NumericToken.scale exponent).getD 0 - digits.length) <;> rfl

/-- The double for a number with an exponent only, read from its text. -/
theorem convertNumber_scaled (rounding : Rounding) (whole : Digits) (exponent : Exponent) :
    convertNumber rounding (NumericToken.scaled whole exponent).text =
      match rounding false (decimalValue whole.digits)
          ((NumericToken.scale (some exponent)).getD 0) with
      | some value => .ok (.floatLiteral value)
      | none => .error .outOfRange := by
  have marked : hasFloatMark (NumericToken.scaled whole exponent).text = true :=
    hasFloatMark_exponent exponent whole.digits
  have noFraction : readFraction exponent.text = ([], exponent.text) := by
    rcases exponent with ⟨letter, sign, digits, isLetter, isSign, areDigits⟩
    rcases isLetter with rfl | rfl <;> rfl
  unfold convertNumber
  rw [if_pos marked]
  change (stod rounding (whole.digits ++ exponent.text)).map _ = _
  have stops : exponent.text.head?.any Char.isDigit = false :=
    exponentText_stops (some exponent)
  have read : readExponent exponent.text = (NumericToken.scale (some exponent)).getD 0 :=
    readExponent_text (some exponent)
  rw [stod_whole rounding whole stops, noFraction, read, List.append_nil]
  simp only [List.length_nil, Int.ofNat_zero, Int.sub_zero]
  cases rounding false (decimalValue whole.digits)
    ((NumericToken.scale (some exponent)).getD 0) <;> rfl

end Conversions

section Parsing

variable (rounding : Rounding)

/-- The parser in front of a number that is the last token. -/
def numberState (text : List Char) (line column : Nat) (previous ending : Token) :
    ParserState :=
  { current := { type := .numberLiteral, value := text, line := line, column := column }
    previous := previous
    rest := []
    ending := { ending with type := .eof }
    errors := []
    fatal := false }

/-- The outcome of a conversion. -/
def literalOutcome (final : ParserState) : Except Escape Expression -> Outcome (Option Expression)
  | .ok expression => .done (some expression) final
  | .error exception => .escaped exception final

theorem parseNumberLiteral_outcome (state : ParserState) :
    parseNumberLiteral rounding state =
      literalOutcome state.advance (convertNumber rounding state.advance.previous.value) := by
  change (ite (hasFloatMark state.advance.previous.value = true) _ _ : Parse (Option Expression))
    state.advance = _
  unfold convertNumber
  cases hasFloatMark state.advance.previous.value with
  | true => cases stod rounding state.advance.previous.value <;> rfl
  | false => cases stoll state.advance.previous.value <;> rfl

/-- A number that is the last token is parsed by its conversion alone. -/
theorem expression_number (observer : Observer) (rounds : Nat) (text : List Char)
    (line column : Nat) (previous ending : Token) :
    (callees rounding observer (rounds + 2)).expression 0
        (numberState text line column previous ending) =
      literalOutcome (numberState text line column previous ending).advance
        (convertNumber rounding text) := by
  have operand : parseOperand rounding (callees rounding observer (rounds + 1)) (rounds + 1)
      (numberState text line column previous ending) =
        literalOutcome (numberState text line column previous ending).advance
          (convertNumber rounding text) :=
    parseNumberLiteral_outcome rounding (numberState text line column previous ending)
  change (parseOperand rounding (callees rounding observer (rounds + 1)) (rounds + 1) >>=
    infixLoop (callees rounding observer (rounds + 1)) (rounds + 1) 0 (rounds + 1)) _ = _
  cases converted : convertNumber rounding text with
  | error exception =>
      rw [converted] at operand
      exact bind_escaped operand
  | ok expression =>
      rw [converted] at operand
      rw [bind_done operand]
      rfl

/-- The parser settles a numeric token when it returns the literal that the token
denotes or reports an error. -/
def Settles (token : NumericToken) : Outcome (Option Expression) -> Prop
  | .done (some expression) final =>
      token.denotes rounding = some expression ∨ final.errors ≠ []
  | .done none final | .thrown final => final.errors ≠ []
  | .escaped _ _ | .halted _ _ | .exhausted => False

theorem settles_literalOutcome (token : NumericToken) (final : ParserState)
    (silent : final.errors = []) (result : Except Escape Expression) :
    Settles rounding token (literalOutcome final result) <->
      exists expression, result = .ok expression ∧
        token.denotes rounding = some expression := by
  cases result with
  | error exception => simp [Settles, literalOutcome]
  | ok expression => simp [Settles, literalOutcome, silent]

theorem converts_iff (token : NumericToken) :
    (exists expression, convertNumber rounding token.text = .ok expression ∧
      token.denotes rounding = some expression) <-> token.Converts rounding := by
  cases token with
  | decimal whole =>
      rw [convertNumber_decimal]
      unfold NumericToken.Converts NumericToken.denotes
      by_cases small : decimalValue whole.digits < 2 ^ 63
      · simp only [if_pos small]
        simp
        omega
      · simp only [if_neg small]
        simp
        omega
  | hexadecimal letter isLetter digits areDigits =>
      change (exists expression, convertNumber rounding ('#' :: letter :: digits) = _ ∧ _) <-> _
      rw [convertNumber_hash]
      simp [NumericToken.Converts]
  | octal digits areDigits =>
      change (exists expression, convertNumber rounding ('#' :: digits) = _ ∧ _) <-> _
      rw [convertNumber_hash]
      simp [NumericToken.Converts]
  | fraction whole digits areDigits exponent =>
      rw [convertNumber_fraction]
      unfold NumericToken.Converts NumericToken.denotes
      cases scaled : NumericToken.scale exponent with
      | none => simp [scaled]
      | some power =>
          cases found : rounding false (decimalValue (whole.digits ++ digits))
            (power - digits.length) <;> simp [scaled, found]
  | scaled whole exponent =>
      rw [convertNumber_scaled]
      unfold NumericToken.Converts NumericToken.denotes
      cases scaled : NumericToken.scale (some exponent) with
      | none => simp [scaled]
      | some power =>
          cases found : rounding false (decimalValue whole.digits) power <;>
            simp [scaled, found]

/-- What `scan_number` produces is the text of a numeric token, and the parser
settles it exactly when it is a decimal integer below `2 ^ 63` or a float in the
range of the library whose exponent has digits. -/
theorem scanNumber_settles_iff (input : List Char) (starts : startsNumber input = true) :
    exists token : NumericToken, (scanNumber input).1 = token.text ∧
      forall (rounds line column : Nat) (previous ending : Token),
        Settles rounding token ((callees rounding Observer.none (rounds + 2)).expression 0
          (numberState (scanNumber input).1 line column previous ending)) <->
        token.Converts rounding := by
  rcases scanNumber_text starts with ⟨token, produced⟩
  refine ⟨token, produced, ?_⟩
  intro rounds line column previous ending
  rw [produced, expression_number, settles_literalOutcome rounding token _ rfl]
  exact converts_iff rounding token

/-- A library without doubles, for texts that need none. -/
def noDoubles : Rounding := fun _ _ _ => none

/-- The token `#XFF`. -/
def hexToken : NumericToken := .hexadecimal 'X' (Or.inl rfl) ['F', 'F'] rfl

/-- The scanner produces `#XFF`, which denotes 255, and the parser lets an exception
of the library through on it. -/
theorem hexToken_escapes :
    (scanNumber ['#', 'X', 'F', 'F', ')']).1 = hexToken.text ∧
      hexToken.denotes noDoubles = some (.integerLiteral 255) ∧
      ¬ Settles noDoubles hexToken ((callees noDoubles Observer.none 2).expression 0
        (numberState hexToken.text 1 1 Token.blank Token.blank)) :=
  ⟨rfl, rfl, fun settled => settled⟩

/-- The theorem on `42` in front of a closing parenthesis. -/
theorem scanNumber_fortyTwo :
    exists token : NumericToken, (scanNumber ['4', '2', ')']).1 = token.text ∧
      forall (rounds line column : Nat) (previous ending : Token),
        Settles noDoubles token ((callees noDoubles Observer.none (rounds + 2)).expression 0
          (numberState (scanNumber ['4', '2', ')']).1 line column previous ending)) <->
        token.Converts noDoubles :=
  scanNumber_settles_iff noDoubles ['4', '2', ')'] rfl

end Parsing

end Parsing
end NewBcpl
