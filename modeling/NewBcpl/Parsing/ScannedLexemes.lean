import NewBcpl.Parsing.Lexemes

namespace NewBcpl
namespace Parsing

/-!
# What the scanning functions find

Each scanning function finds the longest lexeme that begins with its first character,
or reports an error where none does.
-/

/-- The scan of a text: the longest of its lexemes, or an error where it begins with
none. -/
def Finds (lastTokenWasValue : Bool) (input : List Char) (scan : Scan) : Prop :=
  (scan.type = .error ∧ forall {text rest reading}, text ++ rest = input ->
      ¬ Lexeme lastTokenWasValue text reading) ∨
    (scan.type ≠ .error ∧ exists text, text ++ scan.rest = input ∧
      Lexeme lastTokenWasValue text ⟨scan.type, scan.value, scan.keepsColumn⟩ ∧
        forall {other rest reading}, other ++ rest = input ->
          Lexeme lastTokenWasValue other reading -> other.length < text.length ∨
            (other = text ∧ reading = ⟨scan.type, scan.value, scan.keepsColumn⟩))

section Numbers

/-! ## Numbers -/

theorem NumericToken.starts (token : NumericToken) (rest : List Char) :
    startsNumber (token.text ++ rest) = true := by
  have digits : forall (whole : Digits) (others : List Char),
      startsNumber (whole.digits ++ others) = true := by
    rintro ⟨_ | ⟨first, digits⟩, areDigits, nonempty⟩ others
    · exact absurd rfl nonempty
    · exact Bool.or_eq_true_iff.mpr (Or.inl (List.all_eq_true.mp areDigits first (by simp)))
  cases token with
  | decimal whole => exact digits whole rest
  | hexadecimal letter isLetter others areDigits => rfl
  | octal others areDigits => rfl
  | fraction whole others areDigits exponent =>
      rw [NumericToken.text, List.append_assoc]
      exact digits whole _
  | scaled whole exponent =>
      rw [NumericToken.text, List.append_assoc]
      exact digits whole _

/-- A run takes at least the accepted characters at its start. -/
theorem le_scanRun {accepts : Char -> Bool} {run : List Char} (inRun : run.all accepts = true)
    (rest : List Char) : run.length ≤ (scanRun accepts (run ++ rest)).1.length := by
  unfold scanRun
  rw [List.takeWhile_append_of_pos (List.all_eq_true.mp inRun), List.length_append]
  exact Nat.le_add_right _ _

theorem le_scanExponent (exponent : Exponent) (rest : List Char) :
    exponent.text.length ≤ (scanExponent (exponent.text ++ rest)).1.length := by
  have digits : (exponent.sign ++ exponent.digits).length ≤
      (scanExponentDigits (exponent.sign ++ exponent.digits ++ rest)).1.length := by
    rcases exponent with ⟨letter, sign, digits, isLetter, isSign, areDigits⟩
    rcases isSign with rfl | rfl | rfl
    · cases digits with
      | nil => exact Nat.zero_le _
      | cons first others =>
          have isDigit := List.all_eq_true.mp areDigits first (by simp)
          have unsigned : scanSign (first :: (others ++ rest)) =
              ([], first :: (others ++ rest)) := by
            unfold scanSign
            split
            · rename_i same
              cases same
              cases isDigit
            · rename_i same
              cases same
              cases isDigit
            · rfl
          unfold scanExponentDigits
          rw [List.nil_append, List.cons_append, unsigned]
          exact le_scanRun areDigits rest
    · exact Nat.succ_le_succ (le_scanRun areDigits rest)
    · exact Nat.succ_le_succ (le_scanRun areDigits rest)
  rcases exponent with ⟨letter, sign, others, rfl | rfl, isSign, areDigits⟩
  · exact Nat.succ_le_succ digits
  · exact Nat.succ_le_succ digits

/-- A number that begins with a digit. -/
theorem scanNumber_whole (whole : Digits) (rest : List Char) :
    scanNumber (whole.digits ++ rest) =
      let digits := scanRun Char.isDigit (whole.digits ++ rest)
      let fraction := scanFraction digits.2
      let exponent := scanExponent fraction.2
      (digits.1 ++ fraction.1 ++ exponent.1, exponent.2) := by
  have notHash : forall others, whole.digits ++ rest ≠ '#' :: others := by
    rcases whole with ⟨_ | ⟨first, digits⟩, areDigits, nonempty⟩
    · exact absurd rfl nonempty
    · rintro others ⟨⟩
      cases List.all_eq_true.mp areDigits '#' (by simp)
  unfold scanNumber
  split
  · rename_i same
    exact absurd same (notHash _)
  · rename_i same
    exact absurd same (notHash _)
  · rename_i same
    exact absurd same (notHash _)
  · rfl

theorem Exponent.head_notDigit (exponent : Exponent) (rest : List Char) :
    (exponent.text ++ rest).head?.any Char.isDigit = false := by
  rcases exponent with ⟨letter, sign, digits, rfl | rfl, isSign, areDigits⟩ <;> rfl

/-- No number at the start of a text is longer than the one that is scanned. -/
theorem le_scanNumber (token : NumericToken) (rest : List Char) :
    token.text.length ≤ (scanNumber (token.text ++ rest)).1.length := by
  cases token with
  | decimal whole =>
      change whole.digits.length ≤ (scanNumber (whole.digits ++ rest)).1.length
      have taken := le_scanRun whole.areDigits rest
      rw [scanNumber_whole]
      simp only [List.length_append]
      omega
  | hexadecimal letter isLetter digits areDigits =>
      rcases isLetter with rfl | rfl
      · exact Nat.succ_le_succ (Nat.succ_le_succ (le_scanRun areDigits rest))
      · exact Nat.succ_le_succ (Nat.succ_le_succ (le_scanRun areDigits rest))
  | octal digits areDigits =>
      change digits.length + 1 ≤ (scanNumber ('#' :: (digits ++ rest))).1.length
      cases digits with
      | nil =>
          unfold scanNumber
          split
          · exact Nat.succ_le_succ (Nat.zero_le _)
          · exact Nat.succ_le_succ (Nat.zero_le _)
          · exact Nat.succ_le_succ (Nat.zero_le _)
          · rename_i notHash
            exact absurd rfl (notHash _)
      | cons first others =>
          have isDigit := List.all_eq_true.mp areDigits first (by simp)
          unfold scanNumber
          split
          · rename_i same
            cases same
            cases isDigit
          · rename_i same
            cases same
            cases isDigit
          · rename_i same
            cases same
            exact Nat.succ_le_succ (le_scanRun areDigits rest)
          · rename_i notHash
            exact absurd rfl (notHash _)
  | fraction whole digits areDigits exponent =>
      have run := scanRun_append whole.areDigits
        (show ('.' :: (digits ++ NumericToken.exponentText exponent) ++ rest).head?.any
          Char.isDigit = false from rfl)
      have text : (NumericToken.fraction whole digits areDigits exponent).text ++ rest =
          whole.digits ++ ('.' :: (digits ++ NumericToken.exponentText exponent) ++ rest) :=
        List.append_assoc _ _ _
      rw [text, scanNumber_whole, run]
      simp only [NumericToken.text, List.length_append, List.length_cons]
      rw [List.cons_append, List.append_assoc]
      cases exponent with
      | none =>
          have taken := le_scanRun areDigits (NumericToken.exponentText none ++ rest)
          simp only [scanFraction, NumericToken.exponentText, List.length_cons,
            List.length_nil] at taken ⊢
          omega
      | some exponent =>
          have digitRun := scanRun_append areDigits (exponent.head_notDigit rest)
          have taken := le_scanExponent exponent rest
          simp only [scanFraction, NumericToken.exponentText, digitRun, List.length_cons]
          omega
  | scaled whole exponent =>
      have run := scanRun_append whole.areDigits (exponent.head_notDigit rest)
      have text : (NumericToken.scaled whole exponent).text ++ rest =
          whole.digits ++ (exponent.text ++ rest) := List.append_assoc _ _ _
      have plain : scanFraction (exponent.text ++ rest) = ([], exponent.text ++ rest) := by
        rcases exponent with ⟨letter, sign, digits, rfl | rfl, isSign, areDigits⟩ <;> rfl
      have taken := le_scanExponent exponent rest
      rw [text, scanNumber_whole, run]
      simp only [NumericToken.text, plain, List.append_nil, List.length_append]
      omega

/-- The text of a scanned number and what is left are the input. -/
theorem scanNumber_joined (input : List Char) :
    (scanNumber input).1 ++ (scanNumber input).2 = input := by
  have run : forall (accepts : Char -> Bool) (text : List Char),
      (scanRun accepts text).1 ++ (scanRun accepts text).2 = text :=
    fun _ _ => List.takeWhile_append_dropWhile
  have fraction : forall text, (scanFraction text).1 ++ (scanFraction text).2 = text := by
    intro text
    unfold scanFraction
    split
    · exact congrArg ('.' :: ·) (run _ _)
    · rfl
  have sign : forall text, (scanSign text).1 ++ (scanSign text).2 = text := by
    intro text
    unfold scanSign
    split <;> rfl
  have digits : forall text,
      (scanExponentDigits text).1 ++ (scanExponentDigits text).2 = text := by
    intro text
    unfold scanExponentDigits
    simp only [List.append_assoc, run, sign]
  have exponent : forall text, (scanExponent text).1 ++ (scanExponent text).2 = text := by
    intro text
    unfold scanExponent
    split
    · exact congrArg ('e' :: ·) (digits _)
    · exact congrArg ('E' :: ·) (digits _)
    · rfl
  unfold scanNumber
  split
  · exact congrArg ('#' :: 'X' :: ·) (run _ _)
  · exact congrArg ('#' :: 'x' :: ·) (run _ _)
  · exact congrArg ('#' :: ·) (run _ _)
  · simp only [List.append_assoc, exponent, fraction, run]

end Numbers

section Classes

/-! ## The first character of a lexeme -/

variable {char : Char} {was : Bool}

theorem isAlpha_toNat (alpha : char.isAlpha = true) :
    65 ≤ char.toNat ∧ char.toNat ≤ 90 ∨ 97 ≤ char.toNat ∧ char.toNat ≤ 122 := by
  unfold Char.isAlpha Char.isUpper Char.isLower at alpha
  simp only [Bool.or_eq_true, Bool.and_eq_true, decide_eq_true_eq, ge_iff_le,
    UInt32.le_iff_toNat_le] at alpha
  exact alpha

theorem startsWord_notDigit (starts : startsWord char = true) : char.isDigit = false := by
  rw [Bool.eq_false_iff]
  intro digit
  have bounds := Char.isDigit_iff_toNat.mp digit
  rcases Bool.or_eq_true_iff.mp starts with alpha | line
  · have letter := isAlpha_toNat alpha
    have nine : '9'.toNat = 57 := rfl
    omega
  · rw [beq_iff_eq.mp line] at digit
    cases digit

theorem startsWord_notNumber (starts : startsWord char = true) (rest : List Char) :
    startsNumber (char :: rest) = false := by
  apply Bool.or_eq_false_iff.mpr
  refine ⟨startsWord_notDigit starts, ?_⟩
  apply beq_eq_false_iff_ne.mpr
  rintro rfl
  cases starts

/-- The characters that symbols begin with. -/
def symbolChars : List Char :=
  ['{', '}', '$', '(', ')', ',', ';', '@', '!', '%', '&', '|', '+', '*', '/', ':', '~', '<',
    '>', '=', '-']

theorem mem_symbolChars {operator : List Char × TokenType}
    (member : operator ∈ symbols was char) : char ∈ symbolChars := by
  unfold symbols at member
  split at member
  · rename_i same
    subst same
    decide
  split at member
  · rename_i same
    subst same
    decide
  split at member
  · rename_i same
    subst same
    decide
  split at member
  · cases member
  · rename_i notHash
    unfold operators at member
    split at member
    all_goals first
      | decide
      | exact absurd rfl notHash
      | cases member

/-- The characters that symbols begin with begin nothing else. -/
theorem symbols_first {operator : List Char × TokenType} (member : operator ∈ symbols was char)
    (rest : List Char) :
    startsWord char = false ∧ startsNumber (char :: rest) = false ∧ char ≠ '"' ∧ char ≠ '\'' := by
  have each : symbolChars.all fun char =>
      !startsWord char && !(char.isDigit || char == '#') && char != '"' && char != '\'' := by
    decide
  have first := List.all_eq_true.mp each char (mem_symbolChars member)
  simp only [Bool.and_eq_true, Bool.not_eq_true', bne_iff_ne] at first
  exact ⟨first.1.1.1, first.1.1.2, first.1.2, first.2⟩

theorem symbols_type {operator : List Char × TokenType}
    (member : operator ∈ symbols was char) : operator.2 ≠ .error ∧ operator.2 ≠ .eof := by
  have each : (symbols was char).all fun operator =>
      operator.2 != .error && operator.2 != .eof := by
    unfold symbols
    split
    · rfl
    split
    · rfl
    split
    · rfl
    split
    · rfl
    · unfold operators
      cases was <;> split <;> rfl
  have both := List.all_eq_true.mp each operator member
  simpa only [Bool.and_eq_true, bne_iff_ne] using both

/-- A lexeme at the start of a text, by the first character. -/
theorem Lexeme.first {text rest behind : List Char} {reading : Reading}
    (lexeme : Lexeme was text reading) (same : text ++ rest = char :: behind) :
    (startsWord char = true ∧ IsWord text ∧ reading = ⟨wordType text, text, true⟩) ∨
    (startsNumber (char :: behind) = true ∧ exists token : NumericToken, text = token.text ∧
      reading = ⟨.numberLiteral, token.text, true⟩) ∨
    (char = '"' ∧ exists body value, StringBody body value ∧ text = '"' :: (body ++ ['"']) ∧
      reading = ⟨.stringLiteral, value, true⟩) ∨
    (char = '\'' ∧ exists body value, CharBody body value ∧ text = '\'' :: (body ++ ['\'']) ∧
      reading = ⟨.charLiteral, [value], true⟩) ∨
    (exists cont type, (cont, type) ∈ symbols was char ∧ text = char :: cont ∧
      reading = ⟨type, [], false⟩) := by
  cases lexeme with
  | word isWord =>
      cases text with
      | nil => cases isWord
      | cons first text =>
          cases same
          exact Or.inl ⟨isWord.1, isWord, rfl⟩
  | number token =>
      refine Or.inr (Or.inl ⟨?_, token, rfl, rfl⟩)
      rw [<- same]
      exact token.starts rest
  | string body =>
      cases same
      exact Or.inr (Or.inr (Or.inl ⟨rfl, _, _, body, rfl, rfl⟩))
  | character body =>
      cases same
      exact Or.inr (Or.inr (Or.inr (Or.inl ⟨rfl, _, _, body, rfl, rfl⟩)))
  | symbol member =>
      cases same
      exact Or.inr (Or.inr (Or.inr (Or.inr ⟨_, _, member, rfl, rfl⟩)))

end Classes

section Strings

/-! ## Strings and characters -/

theorem scanStringBody_plain {char : Char} (notQuote : char ≠ '"') (notStar : char ≠ '*')
    (rest : List Char) :
    scanStringBody (char :: rest) =
      (char :: (scanStringBody rest).1, (scanStringBody rest).2) := by
  conv_lhs => unfold scanStringBody
  rw [if_neg notQuote, if_neg notStar]

theorem scanStringBody_quote (rest : List Char) :
    scanStringBody ('"' :: rest) = ([], '"' :: rest) := by
  conv_lhs => unfold scanStringBody
  rw [if_pos rfl]

theorem scanStringBody_escape {char meant : Char} (escape : stringEscape char = some meant)
    (rest : List Char) :
    scanStringBody ('*' :: char :: rest) =
      (meant :: (scanStringBody rest).1, (scanStringBody rest).2) := by
  have notQuote : '*' ≠ '"' := by decide
  conv_lhs => unfold scanStringBody
  rw [if_neg notQuote, if_pos rfl]
  simp only [escape]

theorem scanStringBody_star {char : Char} (plain : stringEscape char = none)
    (rest : List Char) :
    scanStringBody ('*' :: char :: rest) =
      ('*' :: (scanStringBody (char :: rest)).1, (scanStringBody (char :: rest)).2) := by
  have notQuote : '*' ≠ '"' := by decide
  conv_lhs => unfold scanStringBody
  rw [if_neg notQuote, if_pos rfl]
  simp only [plain]

/-- The loop reads a body up to its quote. -/
theorem scanStringBody_body {body value : List Char} (isBody : StringBody body value)
    (rest : List Char) : scanStringBody (body ++ '"' :: rest) = (value, '"' :: rest) := by
  induction isBody with
  | nothing => exact scanStringBody_quote rest
  | escape isEscape _ hypothesis =>
      rw [List.cons_append, List.cons_append, scanStringBody_escape isEscape, hypothesis]
  | star isPlain _ hypothesis =>
      rw [List.cons_append, List.cons_append, scanStringBody_star isPlain,
        <- List.cons_append, hypothesis]
  | plain notQuote notStar _ hypothesis =>
      rw [List.cons_append, scanStringBody_plain notQuote notStar, hypothesis]

/-- The loop stops at the end of the text or behind a body. -/
theorem scanStringBody_stops (input : List Char) :
    (scanStringBody input).2 = [] ∨ exists body rest,
      StringBody body (scanStringBody input).1 ∧ (scanStringBody input).2 = '"' :: rest ∧
        body ++ '"' :: rest = input := by
  induction input using scanStringBody.induct with
  | case1 => exact Or.inl rfl
  | case2 rest =>
      refine Or.inr ⟨[], rest, ?_⟩
      rw [scanStringBody_quote]
      exact ⟨.nothing, rfl, rfl⟩
  | case3 => exact Or.inl rfl
  | case4 char rest meant escape _ hypothesis =>
      rw [scanStringBody_escape escape]
      rcases hypothesis with ends | ⟨body, behind, isBody, stops, same⟩
      · exact Or.inl ends
      · exact Or.inr ⟨'*' :: char :: body, behind, .escape escape isBody, stops,
          congrArg ('*' :: char :: ·) same⟩
  | case5 char rest plain _ hypothesis =>
      rw [scanStringBody_star plain]
      rcases hypothesis with ends | ⟨body, behind, isBody, stops, same⟩
      · exact Or.inl ends
      · cases body with
        | nil =>
            cases same
            cases plain
        | cons first body =>
            cases same
            exact Or.inr ⟨'*' :: char :: body, behind, .star plain isBody, stops, rfl⟩
  | case6 char rest notQuote notStar hypothesis =>
      rw [scanStringBody_plain notQuote notStar]
      rcases hypothesis with ends | ⟨body, behind, isBody, stops, same⟩
      · exact Or.inl ends
      · exact Or.inr ⟨char :: body, behind, .plain notQuote notStar isBody, stops,
          congrArg (char :: ·) same⟩

theorem scanChar_body {body : List Char} {value : Char} (isBody : CharBody body value)
    (rest : List Char) :
    scanChar (body ++ '\'' :: rest) =
      { type := .charLiteral, value := [value], rest := rest, keepsColumn := true } := by
  cases isBody with
  | newline isNewline =>
      rcases isNewline with rfl | rfl <;> rfl
  | escape notNewline =>
      have read : scanCharBody ('*' :: value :: '\'' :: rest) = (value, '\'' :: rest) :=
        if_neg notNewline
      change scanChar ('*' :: value :: '\'' :: rest) = _
      unfold scanChar
      split
      · rename_i same
        cases same
      · simp only [read]
  | plain notStar notQuote =>
      have read : scanCharBody (value :: '\'' :: rest) = (value, '\'' :: rest) := by
        unfold scanCharBody
        split
        · rename_i same
          cases same
        · rename_i same
          cases same
        · rename_i same
          cases same
          exact absurd rfl notStar
        · rename_i same
          cases same
          rfl
      change scanChar (value :: '\'' :: rest) = _
      unfold scanChar
      split
      · rename_i same
        cases same
        exact absurd rfl notQuote
      · simp only [read]

/-- A character is an error or a body up to its quote. -/
theorem scanChar_stops (input : List Char) :
    (scanChar input).type = .error ∨ exists body value rest, CharBody body value ∧
      body ++ '\'' :: rest = input := by
  unfold scanChar
  split
  · exact Or.inl rfl
  · rename_i notQuote
    dsimp only
    split
    · rename_i rest ends
      refine Or.inr ?_
      unfold scanCharBody at ends
      split at ends
      · cases ends
      · cases ends
      · rename_i char behind
        by_cases isNewline : char = 'n' ∨ char = 'N'
        · rw [if_pos isNewline] at ends
          cases ends
          exact ⟨['*', char], '\n', rest, .newline isNewline, rfl⟩
        · rw [if_neg isNewline] at ends
          cases ends
          exact ⟨['*', char], char, rest, .escape isNewline, rfl⟩
      · rename_i char behind notStar notEscape
        cases ends
        refine ⟨[char], char, rest, .plain ?_ ?_, rfl⟩
        · rintro rfl
          exact notEscape _ _ rfl rfl
        · rintro rfl
          exact notQuote _ rfl
    · exact Or.inl rfl

end Strings

section Finding

/-! ## The longest lexeme -/

variable {char : Char} {was : Bool}

theorem prefix_split {text rest other behind : List Char} (same : other ++ behind = text ++ rest)
    (le : other.length ≤ text.length) : other.length < text.length ∨ other = text := by
  rcases Nat.lt_or_eq_of_le le with less | equal
  · exact Or.inl less
  · exact Or.inr (List.append_inj same equal).1

theorem wordType_type (word : List Char) :
    wordType word ≠ .error ∧ wordType word ≠ .eof := by
  have each : keywords.all fun keyword => keyword.2 != .error && keyword.2 != .eof := by decide
  unfold wordType
  split
  · rename_i keyword found
    have both := List.all_eq_true.mp each keyword (List.mem_of_find?_eq_some found)
    simpa only [Bool.and_eq_true, bne_iff_ne] using both
  · exact ⟨TokenType.noConfusion, TokenType.noConfusion⟩

theorem isWord_all {text : List Char} (isWord : IsWord text) : text.all isWordChar = true := by
  cases text with
  | nil => rfl
  | cons char rest =>
      rw [List.all_cons, isWord.2, Bool.and_true]
      rcases Bool.or_eq_true_iff.mp isWord.1 with alpha | line
      · exact Bool.or_eq_true_iff.mpr (Or.inl (Bool.or_eq_true_iff.mpr (Or.inl alpha)))
      · exact Bool.or_eq_true_iff.mpr (Or.inr line)

theorem finds_word (starts : startsWord char = true) (rest : List Char) :
    Finds was (char :: rest) (scanIdentifierOrKeyword (char :: rest)) := by
  have first : isWordChar char = true := by
    simpa using (isWord_all (show IsWord [char] from ⟨starts, rfl⟩))
  have taken : (scanRun isWordChar (char :: rest)).1 =
      char :: (scanRun isWordChar rest).1 := List.takeWhile_cons_of_pos first
  have joined : (scanRun isWordChar (char :: rest)).1 ++ (scanRun isWordChar (char :: rest)).2 =
      char :: rest := List.takeWhile_append_dropWhile
  refine Or.inr ⟨(wordType_type _).1, (scanRun isWordChar (char :: rest)).1, joined, .word ?_, ?_⟩
  · rw [taken]
    exact ⟨starts, (scanRun_all rest).1⟩
  · intro other behind reading same lexeme
    rcases lexeme.first same with ⟨_, isWord, rfl⟩ | ⟨isNumber, _⟩ | ⟨rfl, _⟩ | ⟨rfl, _⟩ |
      ⟨_, _, member, _⟩
    · have le := le_scanRun (isWord_all isWord) behind
      rw [same] at le
      rcases prefix_split (same.trans joined.symm) le with less | rfl
      · exact Or.inl less
      · exact Or.inr ⟨rfl, rfl⟩
    · rw [startsWord_notNumber starts] at isNumber
      cases isNumber
    · cases starts
    · cases starts
    · rw [(symbols_first member []).1] at starts
      cases starts

theorem finds_number {rest : List Char} (starts : startsNumber (char :: rest) = true) :
    Finds was (char :: rest) (scanNumberToken (char :: rest)) := by
  rcases scanNumber_text starts with ⟨token, produced⟩
  have joined := scanNumber_joined (char :: rest)
  refine Or.inr ⟨TokenType.noConfusion, (scanNumber (char :: rest)).1, joined, ?_, ?_⟩
  · change Lexeme was _ ⟨.numberLiteral, (scanNumber (char :: rest)).1, true⟩
    rw [produced]
    exact .number token
  · intro other behind reading same lexeme
    rcases lexeme.first same with ⟨isWord, _⟩ | ⟨_, number, rfl, rfl⟩ | ⟨rfl, _⟩ | ⟨rfl, _⟩ |
      ⟨_, _, member, _⟩
    · rw [startsWord_notNumber isWord] at starts
      cases starts
    · have le := le_scanNumber number behind
      rw [same] at le
      rcases prefix_split (same.trans joined.symm) le with less | equal
      · exact Or.inl less
      · refine Or.inr ⟨equal, ?_⟩
        rw [equal]
        rfl
    · cases starts
    · cases starts
    · rw [(symbols_first member rest).2.1] at starts
      cases starts

theorem finds_string (rest : List Char) : Finds was ('"' :: rest) (scanString rest) := by
  have only : forall {other behind reading}, other ++ behind = '"' :: rest ->
      Lexeme was other reading -> exists body value, StringBody body value ∧
        other = '"' :: (body ++ ['"']) ∧ reading = ⟨.stringLiteral, value, true⟩ := by
    intro other behind reading same lexeme
    rcases lexeme.first same with ⟨starts, _⟩ | ⟨starts, _⟩ | ⟨_, string⟩ | ⟨quote, _⟩ |
      ⟨_, _, member, _⟩
    · cases starts
    · cases starts
    · exact string
    · cases quote
    · exact absurd rfl (symbols_first member []).2.2.1
  have scanned : forall {body value behind}, StringBody body value ->
      '"' :: (body ++ ['"']) ++ behind = '"' :: rest ->
        scanStringBody rest = (value, '"' :: behind) := by
    intro body value behind isBody same
    have cut : rest = body ++ '"' :: behind := by simpa using (List.cons.inj same).2.symm
    rw [cut]
    exact scanStringBody_body isBody behind
  unfold scanString
  dsimp only
  rcases scanStringBody_stops rest with ends | ⟨body, behind, isBody, stops, joined⟩
  · rw [ends]
    refine Or.inl ⟨rfl, fun same lexeme => ?_⟩
    rcases only same lexeme with ⟨body, value, isBody, rfl, rfl⟩
    rw [scanned isBody same] at ends
    cases ends
  · rw [stops]
    refine Or.inr ⟨TokenType.noConfusion, '"' :: (body ++ ['"']), ?_, .string isBody, ?_⟩
    · simpa using joined
    · intro other others reading same lexeme
      rcases only same lexeme with ⟨again, value, isAgain, rfl, rfl⟩
      have read := scanned isAgain same
      rw [read] at stops isBody ⊢
      cases stops
      refine Or.inr ⟨?_, rfl⟩
      have equal : '"' :: (again ++ ['"']) ++ behind = '"' :: (body ++ ['"']) ++ behind := by
        rw [same]
        simpa using joined.symm
      exact List.append_cancel_right equal

theorem finds_character (rest : List Char) : Finds was ('\'' :: rest) (scanChar rest) := by
  have only : forall {other behind reading}, other ++ behind = '\'' :: rest ->
      Lexeme was other reading -> exists body value, CharBody body value ∧
        other = '\'' :: (body ++ ['\'']) ∧ reading = ⟨.charLiteral, [value], true⟩ := by
    intro other behind reading same lexeme
    rcases lexeme.first same with ⟨starts, _⟩ | ⟨starts, _⟩ | ⟨quote, _⟩ | ⟨_, character⟩ |
      ⟨_, _, member, _⟩
    · cases starts
    · cases starts
    · cases quote
    · exact character
    · exact absurd rfl (symbols_first member []).2.2.2
  have scanned : forall {body value behind}, CharBody body value ->
      '\'' :: (body ++ ['\'']) ++ behind = '\'' :: rest ->
        scanChar rest =
          { type := .charLiteral, value := [value], rest := behind, keepsColumn := true } := by
    intro body value behind isBody same
    have cut : rest = body ++ '\'' :: behind := by simpa using (List.cons.inj same).2.symm
    rw [cut]
    exact scanChar_body isBody behind
  by_cases failed : (scanChar rest).type = .error
  · refine Or.inl ⟨failed, fun same lexeme => ?_⟩
    rcases only same lexeme with ⟨body, value, isBody, rfl, rfl⟩
    rw [scanned isBody same] at failed
    cases failed
  · rcases scanChar_stops rest with error | ⟨body, value, behind, isBody, joined⟩
    · exact absurd error failed
    · have cut : '\'' :: (body ++ ['\'']) ++ behind = '\'' :: rest := by simpa using joined
      rw [scanned isBody cut]
      refine Or.inr ⟨TokenType.noConfusion, _, cut, .character isBody, ?_⟩
      intro other others reading same lexeme
      rcases only same lexeme with ⟨again, second, isAgain, rfl, rfl⟩
      have read := (scanned isBody cut).symm.trans (scanned isAgain same)
      rw [Scan.mk.injEq] at read
      rcases read with ⟨_, sameValue, rfl, _⟩
      rw [sameValue]
      exact Or.inr ⟨List.append_cancel_right (same.trans cut.symm), rfl⟩

/-- No operator of a character is behind one that begins it. -/
theorem symbols_ordered (was : Bool) (char : Char) :
    (symbols was char).Pairwise fun first second => ¬ first.1 <+: second.1 := by
  unfold symbols
  split
  · exact List.pairwise_singleton _ _
  split
  · exact List.pairwise_singleton _ _
  split
  · decide
  split
  · exact .nil
  · unfold operators
    cases was <;> split <;> decide

/-- The scan of a symbol is the first of them that the text continues with. -/
theorem finds_symbol (notWord : startsWord char = false) {rest : List Char}
    (notNumber : startsNumber (char :: rest) = false) (notQuote : char ≠ '"')
    (notApostrophe : char ≠ '\'') {scan : Scan}
    (scans : match (symbols was char).find? fun operator => operator.1.isPrefixOf rest with
      | some operator => scan =
          { type := operator.2, value := [], rest := rest.drop operator.1.length
            keepsColumn := false }
      | none => scan.type = .error) :
    Finds was (char :: rest) scan := by
  have only : forall {other behind reading}, other ++ behind = char :: rest ->
      Lexeme was other reading -> exists cont type, (cont, type) ∈ symbols was char ∧
        cont <+: rest ∧ other = char :: cont ∧ reading = ⟨type, [], false⟩ := by
    intro other behind reading same lexeme
    rcases lexeme.first same with ⟨starts, _⟩ | ⟨starts, _⟩ | ⟨quote, _⟩ | ⟨quote, _⟩ |
      ⟨cont, type, member, rfl, isSymbol⟩
    · rw [notWord] at starts
      cases starts
    · rw [notNumber] at starts
      cases starts
    · exact absurd quote notQuote
    · exact absurd quote notApostrophe
    · exact ⟨cont, type, member, ⟨behind, (List.cons.inj same).2⟩, rfl, isSymbol⟩
  cases found : (symbols was char).find? fun operator => operator.1.isPrefixOf rest with
  | none =>
      rw [found] at scans
      refine Or.inl ⟨scans, fun same lexeme => ?_⟩
      rcases only same lexeme with ⟨cont, type, member, isPrefix, _⟩
      have refused := List.find?_eq_none.mp found _ member
      exact refused (List.isPrefixOf_iff_prefix.mpr isPrefix)
  | some operator =>
      rw [found] at scans
      subst scans
      rcases List.find?_eq_some_iff_append.mp found with ⟨accepted, earlier, later, split, refused⟩
      have isPrefix := List.isPrefixOf_iff_prefix.mp accepted
      have member : operator ∈ symbols was char := by
        rw [split]
        exact List.mem_append_right _ (List.mem_cons_self)
      have joined : char :: operator.1 ++ rest.drop operator.1.length = char :: rest :=
        congrArg (char :: ·) (List.prefix_append_drop isPrefix).symm
      refine Or.inr ⟨(symbols_type member).1, char :: operator.1, joined, .symbol member, ?_⟩
      intro other behind reading same lexeme
      rcases only same lexeme with ⟨cont, type, isMember, alsoPrefix, rfl, rfl⟩
      have ordered := symbols_ordered was char
      rw [split] at isMember ordered
      rcases List.mem_append.mp isMember with before | behind
      · have refuses := refused _ before
        rw [List.isPrefixOf_iff_prefix.mpr alsoPrefix] at refuses
        cases refuses
      · rcases List.mem_cons.mp behind with same | after
        · subst same
          exact Or.inr ⟨rfl, rfl⟩
        · have notLonger := (List.pairwise_cons.mp (List.pairwise_append.mp ordered).2.1).1 _ after
          rcases List.prefix_or_prefix_of_prefix isPrefix alsoPrefix with longer | shorter
          · exact absurd longer notLonger
          · refine Or.inl (Nat.succ_lt_succ (Nat.lt_of_le_of_ne shorter.length_le ?_))
            intro sameLength
            rw [shorter.eq_of_length sameLength] at notLonger
            exact notLonger (List.prefix_refl _)

end Finding

section Tokens

/-! ## Tokens -/

variable {char : Char} {was : Bool}

theorem scanOperator_symbol (notWord : startsWord char = false) (rest : List Char) :
    scanOperator was char rest = scanSymbol was char rest := by
  apply if_neg
  rintro (rfl | rfl) <;> cases notWord

/-- In front of anything that is not a word, a number or a literal the lexer looks for the
symbols of the character. -/
theorem scanToken_symbols (notWord : startsWord char = false) {rest : List Char}
    (notNumber : startsNumber (char :: rest) = false) (notQuote : char ≠ '"')
    (notApostrophe : char ≠ '\'') :
    match (symbols was char).find? fun operator => operator.1.isPrefixOf rest with
    | some operator => scanToken was char rest =
        { type := operator.2, value := [], rest := rest.drop operator.1.length
          keepsColumn := false }
    | none => (scanToken was char rest).type = .error := by
  unfold scanToken symbols
  by_cases opening : char = '{'
  · subst opening
    rfl
  by_cases closing : char = '}'
  · subst closing
    rfl
  by_cases dollar : char = '$'
  · subst dollar
    cases rest with
    | nil => rfl
    | cons second behind =>
        by_cases opens : second = '('
        · subst opens
          rfl
        by_cases closes : second = ')'
        · subst closes
          rfl
        have noOpening : ('(' == second) = false := beq_eq_false_iff_ne.mpr (Ne.symm opens)
        have noClosing : (')' == second) = false := beq_eq_false_iff_ne.mpr (Ne.symm closes)
        have found : ([(['('], TokenType.leftBrace), ([')'], .rightBrace)].find? fun operator =>
            operator.1.isPrefixOf (second :: behind)) = none := by
          simp only [List.find?, List.isPrefixOf, noOpening, noClosing, Bool.false_and]
        have refused : (scanSymbol was '$' (second :: behind)).type = .error := by
          unfold scanSymbol operators
          simp only [List.find?, List.isPrefixOf, noOpening, Bool.false_and]
          rfl
        simp only [if_neg opening, if_neg closing, if_true, found]
        rw [if_neg, if_neg, if_neg, if_neg, if_neg, scanOperator_symbol rfl]
        · exact refused
        all_goals simp [opens, closes, startsWord, startsNumber]
  by_cases hash : char = '#'
  · subst hash
    cases notNumber
  simp only [if_neg opening, if_neg closing, if_neg hash, dollar, false_and,
    if_false, notWord, notNumber, Bool.false_eq_true, if_neg notQuote, if_neg notApostrophe,
    scanOperator_symbol notWord]
  unfold scanSymbol
  split
  · rename_i operator found
    simp only [found]
  · rename_i found
    simp only [found]
    rfl

/-- `get_next_token` finds the longest lexeme in front of it. -/
theorem finds_token (was : Bool) (char : Char) (rest : List Char) :
    Finds was (char :: rest) (scanToken was char rest) := by
  cases isWord : startsWord char with
  | true =>
      have found := @finds_word char was isWord rest
      unfold scanToken
      rw [if_neg, if_neg, if_neg, if_neg, if_pos isWord]
      · exact found
      · rintro rfl
        cases isWord
      · rintro rfl
        cases isWord
      · rintro ⟨rfl, _⟩
        cases isWord
      · rintro ⟨rfl, _⟩
        cases isWord
  | false =>
  cases isNumber : startsNumber (char :: rest) with
  | true =>
      have found := @finds_number char was rest isNumber
      unfold scanToken
      rw [if_neg, if_neg, if_neg, if_neg, if_neg, if_pos isNumber]
      · exact found
      · simp [isWord]
      · rintro rfl
        cases isNumber
      · rintro rfl
        cases isNumber
      · rintro ⟨rfl, _⟩
        cases isNumber
      · rintro ⟨rfl, _⟩
        cases isNumber
  | false =>
  by_cases isQuote : char = '"'
  · subst isQuote
    exact finds_string rest
  by_cases isApostrophe : char = '\''
  · subst isApostrophe
    exact finds_character rest
  exact finds_symbol isWord isNumber isQuote isApostrophe
    (scanToken_symbols isWord isNumber isQuote isApostrophe)

theorem Lexeme.nonempty {text : List Char} {reading : Reading} (lexeme : Lexeme was text reading) :
    text ≠ [] := by
  cases lexeme with
  | word isWord =>
      rintro rfl
      exact isWord
  | number token =>
      intro empty
      have starts := token.starts []
      rw [empty] at starts
      cases starts
  | string _ => exact List.cons_ne_nil _ _
  | character _ => exact List.cons_ne_nil _ _
  | symbol _ => exact List.cons_ne_nil _ _

theorem scanCharBody_suffix (input : List Char) : (scanCharBody input).2 <:+ input := by
  unfold scanCharBody
  split
  · exact List.suffix_refl _
  · exact List.suffix_cons _ _
  · split
    · exact (List.suffix_cons _ _).trans (List.suffix_cons _ _)
    · exact (List.suffix_cons _ _).trans (List.suffix_cons _ _)
  · exact List.suffix_cons _ _

theorem scanChar_suffix (input : List Char) : (scanChar input).rest <:+ input := by
  unfold scanChar
  split
  · exact List.suffix_refl _
  · dsimp only
    split
    · rename_i rest ends
      have suffix := scanCharBody_suffix input
      rw [ends] at suffix
      exact (List.suffix_cons _ _).trans suffix
    · exact scanCharBody_suffix input

theorem scanSymbol_suffix (was : Bool) (char : Char) (rest : List Char) :
    (scanSymbol was char rest).rest <:+ rest := by
  unfold scanSymbol
  split
  · exact List.drop_suffix _ _
  · exact List.suffix_refl _

/-- Every token passes a character. -/
theorem scanToken_passes (was : Bool) (char : Char) (rest : List Char) :
    exists passed, passed ≠ [] ∧ passed ++ (scanToken was char rest).rest = char :: rest := by
  have behind : (scanToken was char rest).rest <:+ rest -> exists passed, passed ≠ [] ∧
      passed ++ (scanToken was char rest).rest = char :: rest := by
    rintro ⟨before, same⟩
    exact ⟨char :: before, List.cons_ne_nil _ _, congrArg (char :: ·) same⟩
  rcases finds_token was char rest with ⟨failed, _⟩ | ⟨_, text, joined, lexeme, _⟩
  · apply behind
    unfold scanToken at failed ⊢
    split_ifs at failed ⊢
    · exact absurd failed (wordType_type _).1
    · cases failed
    · rename_i isQuote
      unfold scanString at failed ⊢
      dsimp only at failed ⊢
      split
      · exact List.nil_suffix
      · rename_i stops
        rw [stops] at failed
        cases failed
    · exact scanChar_suffix rest
    · rename_i notWord _ _ _
      rw [scanOperator_symbol (Bool.eq_false_of_not_eq_true notWord)]
      exact scanSymbol_suffix was char rest
  · exact ⟨text, lexeme.nonempty, joined⟩

end Tokens

end Parsing
end NewBcpl
