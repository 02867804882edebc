import NewBcpl.Parsing.ScannedLexemes

namespace NewBcpl
namespace Parsing

open Foundations.LongestMatch

/-!
# The tokens of a source

The lexer cuts its source by the rule of the longest match, and each token has the
position that its piece has in the source.
-/

section Skipping

/-! ## Blanks and comments -/

theorem skipBlockComment_length (input : List Char) :
    (skipBlockComment input).length ≤ input.length := by
  induction input with
  | nil => exact Nat.le_refl _
  | cons char rest hypothesis =>
      unfold skipBlockComment
      split
      · exact Nat.le_succ_of_le (List.tail_suffix rest).length_le
      · exact Nat.le_succ_of_le hypothesis

theorem skipRounds_succ {rounds : Nat} {input : List Char} (enough : input.length ≤ rounds) :
    skipRounds (rounds + 1) input = skipRounds rounds input := by
  induction rounds generalizing input with
  | zero =>
      rw [List.eq_nil_of_length_eq_zero (Nat.le_zero.mp enough)]
      rfl
  | succ rounds hypothesis =>
      cases input with
      | nil => rfl
      | cons char rest =>
          rw [List.length_cons] at enough
          have line := (List.dropWhile_suffix (l := rest) (· != '\n')).length_le
          have block := skipBlockComment_length rest.tail
          have tail := (List.tail_suffix rest).length_le
          unfold skipRounds
          split
          · exact hypothesis (by omega)
          split
          · exact hypothesis (by omega)
          split
          · exact hypothesis (by omega)
          · rfl

/-- As many rounds as there are characters are enough. -/
theorem skipRounds_enough {rounds : Nat} {input : List Char} (enough : input.length ≤ rounds) :
    skipRounds rounds input = skipWhitespaceAndComments input := by
  induction rounds, enough using Nat.le_induction with
  | base => rfl
  | succ rounds le hypothesis => rw [skipRounds_succ le, hypothesis]

/-- The text begins with a blank or a comment. -/
def startsGap : List Char -> Bool
  | [] => false
  | char :: rest =>
      isSpace char || char == '/' && (rest.head? == some '/' || rest.head? == some '*')

/-- What is behind the blank or the comment that a text begins with. -/
def afterGap : List Char -> List Char
  | [] => []
  | char :: rest =>
      if isSpace char then rest
      else if rest.head? = some '/' then rest.dropWhile (· != '\n')
      else skipBlockComment rest.tail

theorem skip_gap {input : List Char} (starts : startsGap input = true) :
    skipWhitespaceAndComments input = skipWhitespaceAndComments (afterGap input) := by
  cases input with
  | nil => cases starts
  | cons char rest =>
      have line := (List.dropWhile_suffix (l := rest) (· != '\n')).length_le
      have block := skipBlockComment_length rest.tail
      have tail := (List.tail_suffix rest).length_le
      unfold startsGap at starts
      unfold afterGap
      change skipRounds (rest.length + 1) (char :: rest) = _
      unfold skipRounds
      cases isBlank : isSpace char with
      | true =>
          simp only [isBlank, if_true]
          exact skipRounds_enough (Nat.le_refl _)
      | false =>
          simp only [isBlank, Bool.false_or, Bool.and_eq_true, Bool.or_eq_true,
            beq_iff_eq] at starts
          rcases starts with ⟨rfl, isLine | isBlock⟩
          · simp only [isLine, Bool.false_eq_true, if_false, if_true, and_self]
            exact skipRounds_enough line
          · simp only [isBlock, Bool.false_eq_true, if_false, if_true, and_self]
            exact skipRounds_enough (by omega)

theorem skip_stops {input : List Char} (starts : startsGap input = false) :
    skipWhitespaceAndComments input = input := by
  cases input with
  | nil => rfl
  | cons char rest =>
      unfold startsGap at starts
      change skipRounds (rest.length + 1) (char :: rest) = _
      unfold skipRounds
      simp only [Bool.or_eq_false_iff, Bool.and_eq_false_iff, beq_eq_false_iff_ne] at starts
      rcases starts with ⟨notBlank, notComment⟩
      rw [if_neg (by simp [notBlank]), if_neg, if_neg]
      · rintro ⟨rfl, isBlock⟩
        rcases notComment with slash | both
        · exact slash rfl
        · exact both.2 isBlock
      · rintro ⟨rfl, isLine⟩
        rcases notComment with slash | both
        · exact slash rfl
        · exact both.1 isLine

theorem skipBlockComment_closed {body : List Char} (isOpen : ¬ ['*', '/'] <:+: body ++ ['*'])
    (rest : List Char) : skipBlockComment (body ++ '*' :: '/' :: rest) = rest := by
  induction body with
  | nil => rfl
  | cons char body hypothesis =>
      rw [List.cons_append, List.infix_cons_iff, not_or] at isOpen
      rw [List.cons_append, skipBlockComment, if_neg]
      · exact hypothesis isOpen.2
      · rintro ⟨rfl, closes⟩
        cases body with
        | nil => cases closes
        | cons second body =>
            cases closes
            exact isOpen.1 ⟨body ++ ['*'], rfl⟩

theorem skipBlockComment_open {body : List Char} (isOpen : ¬ ['*', '/'] <:+: body) :
    skipBlockComment body = [] := by
  induction body with
  | nil => rfl
  | cons char body hypothesis =>
      rw [List.infix_cons_iff, not_or] at isOpen
      rw [skipBlockComment, if_neg]
      · exact hypothesis isOpen.2
      · rintro ⟨rfl, closes⟩
        cases body with
        | nil => cases closes
        | cons second body =>
            cases closes
            exact isOpen.1 ⟨body, rfl⟩

/-- A comment is closed at the first place where it can be, or nowhere. -/
theorem closed_or_open (input : List Char) :
    (exists body rest, input = body ++ '*' :: '/' :: rest ∧ ¬ ['*', '/'] <:+: body ++ ['*']) ∨
      ¬ ['*', '/'] <:+: input := by
  induction input with
  | nil => exact Or.inr (by simp)
  | cons char input hypothesis =>
      by_cases closes : ['*', '/'] <+: char :: input
      · rcases closes with ⟨rest, same⟩
        refine Or.inl ⟨[], rest, same.symm, fun inside => ?_⟩
        exact absurd inside.length_le (by decide)
      · rcases hypothesis with ⟨body, rest, rfl, isOpen⟩ | isOpen
        · refine Or.inl ⟨char :: body, rest, rfl, ?_⟩
          rw [List.cons_append, List.infix_cons_iff, not_or]
          refine ⟨?_, isOpen⟩
          rintro ⟨behind, same⟩
          apply closes
          rcases body with _ | ⟨second, body⟩
          · cases same
          · rw [List.cons_append, List.cons_append, List.cons_append, List.cons.injEq,
              List.cons.injEq] at same
            rw [<- same.1, <- same.2.1]
            exact ⟨_, rfl⟩
        · refine Or.inr ?_
          rw [List.infix_cons_iff, not_or]
          exact ⟨closes, isOpen⟩

variable {text rest : List Char}

/-- What is behind a gap is determined by the text that begins with it. -/
theorem Gap.after (gap : Gap text rest) :
    startsGap (text ++ rest) = true ∧ afterGap (text ++ rest) = rest ∧ text ≠ [] := by
  cases gap with
  | blank isBlank =>
      refine ⟨Bool.or_eq_true_iff.mpr (Or.inl isBlank), ?_, List.cons_ne_nil _ _⟩
      exact if_pos isBlank
  | @line body rest inLine stops =>
      refine ⟨rfl, ?_, List.cons_ne_nil _ _⟩
      change (body ++ rest).dropWhile (· != '\n') = rest
      rw [List.dropWhile_append_of_pos]
      · cases rest with
        | nil => rfl
        | cons first rest =>
            apply List.dropWhile_cons_of_neg
            rw [List.head?_cons, Option.all_some] at stops
            rw [beq_iff_eq.mp stops]
            decide
      · rintro char member
        apply bne_iff_ne.mpr
        rintro rfl
        exact inLine member
  | @block body rest isOpen =>
      refine ⟨rfl, ?_, List.cons_ne_nil _ _⟩
      change skipBlockComment (body ++ ['*', '/'] ++ rest) = rest
      rw [List.append_assoc]
      exact skipBlockComment_closed isOpen rest
  | @unclosed body isOpen =>
      refine ⟨rfl, ?_, List.cons_ne_nil _ _⟩
      change skipBlockComment (body ++ []) = []
      rw [List.append_nil]
      exact skipBlockComment_open isOpen

/-- A text that begins with a blank or a comment begins with a gap. -/
theorem exists_gap {input : List Char} (starts : startsGap input = true) :
    exists text rest, text ++ rest = input ∧ Gap text rest := by
  cases input with
  | nil => cases starts
  | cons char rest =>
      rcases Bool.or_eq_true_iff.mp starts with isBlank | isComment
      · exact ⟨[char], rest, rfl, .blank isBlank⟩
      rw [Bool.and_eq_true, Bool.or_eq_true, beq_iff_eq, beq_iff_eq, beq_iff_eq] at isComment
      rcases isComment with ⟨rfl, isLine | isBlock⟩
      · cases rest with
        | nil => cases isLine
        | cons second rest =>
            cases isLine
            refine ⟨'/' :: '/' :: rest.takeWhile (· != '\n'), rest.dropWhile (· != '\n'),
              congrArg ('/' :: '/' :: ·) List.takeWhile_append_dropWhile, .line ?_ ?_⟩
            · intro member
              exact absurd (List.mem_takeWhile_imp member) (by decide)
            · have stops := List.head?_dropWhile_not (· != '\n') rest
              cases first : (rest.dropWhile (· != '\n')).head? with
              | none => rfl
              | some char =>
                  rw [first] at stops
                  simpa using stops
      · cases rest with
        | nil => cases isBlock
        | cons second rest =>
            cases isBlock
            rcases closed_or_open rest with ⟨body, behind, rfl, isOpen⟩ | isOpen
            · refine ⟨'/' :: '*' :: (body ++ ['*', '/']), behind, ?_, .block isOpen⟩
              simp
            · exact ⟨'/' :: '*' :: rest, [], by simp, .unclosed isOpen⟩

/-- No lexeme begins with a blank. -/
theorem Lexeme.notBlank {was : Bool} {reading : Reading} {char : Char} {behind : List Char}
    (lexeme : Lexeme was text reading) (same : text ++ rest = char :: behind) :
    isSpace char = false := by
  rw [Bool.eq_false_iff]
  intro isBlank
  have listed : char ∈ [' ', '\t', '\n', '\x0b', '\x0c', '\r'] := by
    simpa [isSpace, or_assoc] using isBlank
  have other : startsWord char = false ∧ startsNumber (char :: behind) = false ∧ char ≠ '"' ∧
      char ≠ '\'' ∧ char ∉ symbolChars := by
    have each : [' ', '\t', '\n', '\x0b', '\x0c', '\r'].all fun char =>
        !startsWord char && !(char.isDigit || char == '#') && char != '"' && char != '\'' &&
          !symbolChars.contains char := by decide
    have first := List.all_eq_true.mp each char listed
    simp only [Bool.and_eq_true, Bool.not_eq_true', bne_iff_ne, List.contains_eq_mem,
      decide_eq_false_iff_not] at first
    exact ⟨first.1.1.1.1, first.1.1.1.2, first.1.1.2, first.1.2, first.2⟩
  rcases lexeme.first same with ⟨starts, _⟩ | ⟨starts, _⟩ | ⟨isQuote, _⟩ | ⟨isQuote, _⟩ |
    ⟨_, _, member, _⟩
  · rw [other.1] at starts
    cases starts
  · rw [other.2.1] at starts
    cases starts
  · exact other.2.2.1 isQuote
  · exact other.2.2.2.1 isQuote
  · exact other.2.2.2.2 (mem_symbolChars member)

/-- Where a comment begins, the lexeme in front of it is one slash. -/
theorem Lexeme.slash {was : Bool} {reading : Reading} {second : Char} {behind : List Char}
    (lexeme : Lexeme was text reading) (same : text ++ rest = '/' :: second :: behind)
    (notHash : second ≠ '#') : text.length = 1 := by
  rcases lexeme.first same with ⟨starts, _⟩ | ⟨starts, _⟩ | ⟨isQuote, _⟩ | ⟨isQuote, _⟩ |
    ⟨cont, type, member, rfl, _⟩
  · cases starts
  · cases starts
  · cases isQuote
  · cases isQuote
  · have listed : (cont, type) ∈ [(['#'], TokenType.floatDivide), ([], .divide)] := member
    rcases List.mem_cons.mp listed with isFloat | isPlain
    · cases isFloat
      exact absurd (List.cons.inj (List.cons.inj same).2).1.symm notHash
    · cases List.mem_singleton.mp isPlain
      rfl

/-- A lexeme is shorter than a gap of the same text. -/
theorem Gap.lexeme_shorter {was : Bool} {other behind : List Char} {reading : Reading}
    (gap : Gap text rest) (lexeme : Lexeme was other reading)
    (same : other ++ behind = text ++ rest) : other.length < text.length := by
  cases gap with
  | blank isBlank =>
      have notBlank := lexeme.notBlank same
      rw [isBlank] at notBlank
      cases notBlank
  | line _ _ =>
      rw [lexeme.slash same (by decide)]
      exact Nat.succ_lt_succ (Nat.zero_lt_succ _)
  | block _ =>
      rw [lexeme.slash same (by decide)]
      exact Nat.succ_lt_succ (Nat.zero_lt_succ _)
  | unclosed _ =>
      rw [lexeme.slash same (by decide)]
      exact Nat.succ_lt_succ (Nat.zero_lt_succ _)

/-- A blank or a comment is taken as a whole. -/
theorem Gap.longest (was : Bool) (gap : Gap text rest) :
    Longest lexicon was text rest none := by
  refine ⟨gap.after.2.2, gap, ?_⟩
  intro other behind kind same isPiece
  cases kind with
  | none =>
      have sameRest : behind = rest := by
        rw [<- (Gap.after isPiece).2.1, <- gap.after.2.1, same]
      rw [sameRest] at same
      exact Nat.le_of_eq (congrArg List.length (List.append_cancel_right same))
  | some reading => exact Nat.le_of_lt (gap.lexeme_shorter isPiece same)

theorem Lexeme.notEnd {was : Bool} {reading : Reading} (lexeme : Lexeme was text reading) :
    reading.type ≠ .eof := by
  cases lexeme with
  | word _ => exact (wordType_type _).2
  | number _ => exact TokenType.noConfusion
  | string _ => exact TokenType.noConfusion
  | character _ => exact TokenType.noConfusion
  | symbol member => exact (symbols_type member).2

/-- A text has one reading. -/
theorem Lexeme.unique {was : Bool} {reading other : Reading} (lexeme : Lexeme was text reading)
    (again : Lexeme was text other) : reading = other := by
  cases whole : text with
  | nil => exact absurd whole lexeme.nonempty
  | cons char others =>
      have same : text ++ [] = char :: others := by rw [List.append_nil, whole]
      rcases finds_token was char others with ⟨_, refused⟩ | ⟨_, found, joined, _, best⟩
      · exact absurd lexeme (refused same)
      · have short : found.length ≤ text.length := by
          have lengths := congrArg List.length (joined.trans same.symm)
          rw [List.length_append, List.append_nil] at lengths
          omega
        rcases best same lexeme with less | ⟨_, first⟩
        · exact absurd less (Nat.not_lt.mpr short)
        rcases best same again with less | ⟨_, second⟩
        · exact absurd less (Nat.not_lt.mpr short)
        rw [first, second]

theorem lexicon_functional : lexicon.Functional := by
  intro was text rest kind other isPiece again
  cases kind with
  | none =>
      cases other with
      | none => rfl
      | some reading => exact absurd (Gap.lexeme_shorter isPiece again rfl) (Nat.lt_irrefl _)
  | some reading =>
      cases other with
      | none => exact absurd (Gap.lexeme_shorter again isPiece rfl) (Nat.lt_irrefl _)
      | some _ => exact congrArg some (Lexeme.unique isPiece again)

/-- In front of a longest lexeme nothing is skipped. -/
theorem notGap_of_longest {was : Bool} {reading : Reading}
    (longest : Longest lexicon was text rest (some reading)) :
    startsGap (text ++ rest) = false := by
  rw [Bool.eq_false_iff]
  intro starts
  rcases exists_gap starts with ⟨gapText, behind, same, gap⟩
  have none_some := ((gap.longest was).unique lexicon_functional longest same).2.2
  cases none_some

/-- Where no gap begins, the longest lexeme is the longest piece. -/
theorem longest_lexeme {was : Bool} {reading : Reading} {input : List Char}
    (starts : startsGap input = false) (joined : text ++ rest = input)
    (lexeme : Lexeme was text reading)
    (longest : forall {other behind otherReading}, other ++ behind = input ->
      Lexeme was other otherReading -> other.length ≤ text.length) :
    Longest lexicon was text rest (some reading) := by
  refine ⟨lexeme.nonempty, lexeme, ?_⟩
  intro other behind kind same isPiece
  cases kind with
  | none =>
      rw [<- joined, <- same, (Gap.after isPiece).1] at starts
      cases starts
  | some _ => exact longest (same.trans joined) isPiece

end Skipping

section Positions

/-! ## Positions -/

namespace LexerState

/-- The lexer behind a text that it has passed. -/
def behind (before rest : List Char) (lastTokenWasValue : Bool) : LexerState :=
  { rest := rest, line := lineBehind before, column := columnBehind before
    lastTokenWasValue := lastTokenWasValue }

variable {before rest : List Char} {was : Bool}

theorem lineBehind_snoc (before : List Char) (char : Char) :
    lineBehind (before ++ [char]) =
      if char = '\n' then lineBehind before + 1 else lineBehind before := by
  unfold lineBehind
  rw [List.count_append, List.count_singleton]
  by_cases newline : char = '\n'
  · rw [if_pos newline, if_pos (beq_iff_eq.mpr newline), Nat.add_assoc]
  · rw [if_neg newline, if_neg (fun same => newline (beq_iff_eq.mp same)), Nat.add_zero]

theorem columnBehind_snoc (before : List Char) (char : Char) :
    columnBehind (before ++ [char]) =
      if char = '\n' then 1 else columnBehind before + 1 := by
  unfold columnBehind
  rw [List.reverse_append, List.reverse_singleton, List.singleton_append]
  by_cases newline : char = '\n'
  · rw [if_pos newline, newline]
    rfl
  · have passes : (char != '\n') = true := bne_iff_ne.mpr newline
    simp only [if_neg newline, List.takeWhile_cons, passes, if_true, List.length_cons,
      Nat.add_assoc]

theorem advance_behind (char : Char) :
    (behind before (char :: rest) was).advance = behind (before ++ [char]) rest was := by
  change (if char = '\n' then _ else _) = _
  unfold behind
  rw [lineBehind_snoc, columnBehind_snoc]
  by_cases newline : char = '\n'
  · rw [if_pos newline, if_pos newline, if_pos newline]
  · rw [if_neg newline, if_neg newline, if_neg newline]

theorem upTo_behind (text : List Char) :
    (behind before (text ++ rest) was).upTo rest = behind (before ++ text) rest was := by
  have advances : forall before,
      (behind before (text ++ rest) was).advances text.length =
        behind (before ++ text) rest was := by
    induction text with
    | nil =>
        intro before
        rw [List.append_nil]
        rfl
    | cons char text hypothesis =>
        intro before
        rw [List.cons_append, List.length_cons, advances, advance_behind, hypothesis,
          List.append_assoc, List.singleton_append]
  unfold upTo
  rw [show (behind before (text ++ rest) was).rest.length - rest.length = text.length by
    change (text ++ rest).length - rest.length = text.length
    rw [List.length_append, Nat.add_sub_cancel]]
  exact advances before

end LexerState

end Positions

section Runs

/-! ## Runs -/

namespace LexerState

variable {before text rest input : List Char} {was : Bool}

/-- In front of a gap the lexer gives the token behind the gap. -/
theorem getNextToken_skips (before : List Char) (input : List Char) (was : Bool) :
    exists passed, passed ++ skipWhitespaceAndComments input = input ∧
      (behind before input was).getNextToken =
        (behind (before ++ passed) (skipWhitespaceAndComments input) was).takeToken := by
  have suffix : forall size (input : List Char), input.length ≤ size ->
      exists passed, passed ++ skipWhitespaceAndComments input = input := by
    intro size
    induction size with
    | zero =>
        intro input short
        rw [List.eq_nil_of_length_eq_zero (Nat.le_zero.mp short)]
        exact ⟨[], rfl⟩
    | succ size hypothesis =>
        intro input short
        cases starts : startsGap input with
        | false => exact ⟨[], skip_stops starts⟩
        | true =>
            rcases exists_gap starts with ⟨text, rest, rfl, gap⟩
            have nonempty := List.length_pos_iff.mpr gap.after.2.2
            rw [List.length_append] at short
            rcases hypothesis rest (by omega) with ⟨passed, same⟩
            refine ⟨text ++ passed, ?_⟩
            rw [skip_gap starts, gap.after.2.1, List.append_assoc, same]
  rcases suffix _ input (Nat.le_refl _) with ⟨passed, same⟩
  refine ⟨passed, same, ?_⟩
  have start := @upTo_behind before (skipWhitespaceAndComments input) was passed
  rw [same] at start
  change takeToken ((behind before input was).upTo (skipWhitespaceAndComments input)) = _
  rw [start]

theorem getNextToken_gap (gap : Gap text rest) :
    (behind before (text ++ rest) was).getNextToken =
      (behind (before ++ text) rest was).getNextToken := by
  rcases getNextToken_skips before (text ++ rest) was with ⟨passed, same, taken⟩
  rcases getNextToken_skips (before ++ text) rest was with ⟨others, sameRest, takenBehind⟩
  have skipped : skipWhitespaceAndComments (text ++ rest) = skipWhitespaceAndComments rest := by
    rw [skip_gap gap.after.1, gap.after.2.1]
  rw [skipped] at same taken
  have all : passed = text ++ others := by
    refine @List.append_cancel_right _ _ (skipWhitespaceAndComments rest) _ ?_
    rw [same, List.append_assoc, sameRest]
  rw [taken, takenBehind, all, List.append_assoc]

theorem getNextToken_stops (starts : startsGap input = false) :
    (behind before input was).getNextToken = (behind before input was).takeToken := by
  rcases getNextToken_skips before input was with ⟨passed, same, taken⟩
  rw [skip_stops starts] at same taken
  rw [taken, List.append_left_eq_self.mp same, List.append_nil]

/-- The token in front of a character, and the lexer behind it. -/
theorem takeToken_scan {char : Char} (joined : text ++ (scanToken was char rest).rest =
    char :: rest) :
    (behind before (char :: rest) was).takeToken =
      ({ type := (scanToken was char rest).type, value := (scanToken was char rest).value
         line := lineBehind (before ++ text)
         column :=
           if (scanToken was char rest).keepsColumn then columnBehind before
           else columnBehind (before ++ text) },
        behind (before ++ text) (scanToken was char rest).rest
          (isValue (scanToken was char rest).type)) := by
  have final := @upTo_behind before (scanToken was char rest).rest was text
  rw [joined] at final
  have context : (behind before (char :: rest) was).lastTokenWasValue = was := rfl
  have stands : (behind before (char :: rest) was).rest = char :: rest := rfl
  unfold takeToken
  rw [stands]
  dsimp only
  rw [context, final]
  rfl

/-- The token at the end of a text. -/
def endOf (source : List Char) : Token :=
  { type := .eof, value := [], line := lineBehind source, column := columnBehind source }

theorem tokens_gap (gap : Gap text rest) (rounds : Nat) :
    (behind before (text ++ rest) was).tokens rounds =
      (behind (before ++ text) rest was).tokens rounds := by
  cases rounds <;> (unfold tokens; rw [getNextToken_gap gap])

theorem tokens_succ {state next : LexerState} {token : Token}
    (gives : state.getNextToken = (token, next)) (notEnd : token.type ≠ .eof) (rounds : Nat) :
    state.tokens (rounds + 1) = (token :: (next.tokens rounds).1, (next.tokens rounds).2) := by
  conv_lhs => unfold tokens
  simp only [gives, if_neg notEnd]

/-- The token of a longest lexeme, and the lexer behind it. -/
theorem getNextToken_lexeme {reading : Reading}
    (longest : Longest lexicon was text rest (some reading)) :
    exists token, tokenOf ⟨before, text, some reading⟩ = some token ∧
      token.type ≠ .error ∧ token.type ≠ .eof ∧
        (behind before (text ++ rest) was).getNextToken =
          (token, behind (before ++ text) rest (isValue reading.type)) := by
  rw [getNextToken_stops (notGap_of_longest longest)]
  have lexeme : Lexeme was text reading := longest.isPiece
  cases whole : text ++ rest with
  | nil => exact absurd (List.append_eq_nil_iff.mp whole).1 longest.nonempty
  | cons char others =>
      rcases finds_token was char others with ⟨_, refused⟩ | ⟨notError, found, joined, best, all⟩
      · exact absurd lexeme (refused whole)
      rcases all whole lexeme with less | ⟨rfl, rfl⟩
      · have isPiece : lexicon.IsPiece was found (scanToken was char others).rest (some _) := best
        have le := longest.longest (joined.trans whole.symm) isPiece
        exact absurd less (Nat.not_lt.mpr le)
      · have behindText : rest = (scanToken was char others).rest :=
          List.append_cancel_left (whole.trans joined.symm)
        rw [takeToken_scan joined, behindText]
        exact ⟨_, rfl, notError, lexeme.notEnd, rfl⟩

/-- The lexer gives the tokens of the pieces of a cut text. -/
theorem tokens_of_cuts {pieces : List (Foundations.LongestMatch.Piece Char (Option Reading))}
    (cuts : Cuts lexicon was before input pieces) {rounds : Nat}
    (enough : input.length < rounds) :
    (behind before input was).tokens rounds =
        (pieces.filterMap tokenOf, endOf (before ++ input)) ∧
      forall token, token ∈ pieces.filterMap tokenOf -> token.type ≠ .error := by
  induction cuts generalizing rounds with
  | nothing =>
      rw [List.append_nil]
      cases rounds with
      | zero => cases enough
      | succ rounds => exact ⟨rfl, fun _ member => absurd member List.not_mem_nil⟩
  | @piece was before text rest kind pieces longest cuts hypothesis =>
      have nonempty := List.length_pos_iff.mpr longest.nonempty
      rw [List.length_append] at enough
      rw [<- List.append_assoc]
      cases kind with
      | none =>
          rw [tokens_gap longest.isPiece]
          exact hypothesis (by omega)
      | some reading =>
          rcases @getNextToken_lexeme before text rest was reading longest with
            ⟨token, isToken, notError, notEnd, gives⟩
          cases rounds with
          | zero => cases enough
          | succ rounds =>
              have others := @hypothesis rounds (by omega)
              rw [List.filterMap_cons_some isToken, tokens_succ gives notEnd]
              constructor
              · exact congrArg (fun run : List Token × Token => (token :: run.1, run.2)) others.1
              · intro other member
                rcases List.mem_cons.mp member with rfl | inOthers
                · exact notError
                · exact others.2 other inOthers

/-- The lexer comes to the end of every text, with at most one token for each character, and
cuts it into pieces where no token has an error. -/
theorem tokens_read : forall size (input : List Char), input.length ≤ size ->
    forall (before : List Char) (was : Bool) {rounds : Nat}, input.length < rounds ->
      ((behind before input was).tokens rounds).2 = endOf (before ++ input) ∧
        ((behind before input was).tokens rounds).1.length ≤ input.length ∧
          ((forall token, token ∈ ((behind before input was).tokens rounds).1 ->
            token.type ≠ .error) -> exists pieces, Cuts lexicon was before input pieces) := by
  intro size
  induction size with
  | zero =>
      intro input short before was rounds enough
      rw [List.eq_nil_of_length_eq_zero (Nat.le_zero.mp short)] at enough ⊢
      rw [List.append_nil]
      cases rounds with
      | zero => cases enough
      | succ rounds => exact ⟨rfl, Nat.le_refl _, fun _ => ⟨[], .nothing⟩⟩
  | succ size hypothesis =>
      intro input short before was rounds enough
      cases starts : startsGap input with
      | true =>
          rcases exists_gap starts with ⟨text, rest, rfl, gap⟩
          have nonempty := List.length_pos_iff.mpr gap.after.2.2
          rw [List.length_append] at short enough ⊢
          rw [tokens_gap gap, <- List.append_assoc]
          rcases @hypothesis rest (by omega) (before ++ text) was rounds (by omega)
            with ⟨ends, few, cut⟩
          refine ⟨ends, by omega, fun clean => ?_⟩
          rcases cut clean with ⟨pieces, cuts⟩
          exact ⟨_, .piece (gap.longest was) cuts⟩
      | false =>
      cases rounds with
      | zero => cases enough
      | succ rounds =>
      cases input with
      | nil =>
          rw [List.append_nil]
          exact ⟨rfl, Nat.le_refl _, fun _ => ⟨[], .nothing⟩⟩
      | cons char others =>
          rcases scanToken_passes was char others with ⟨text, passes, joined⟩
          have nonempty := List.length_pos_iff.mpr passes
          have found := finds_token was char others
          have gives := @getNextToken_stops before (char :: others) was starts
          rw [takeToken_scan joined] at gives
          have notEnd : (scanToken was char others).type ≠ .eof := by
            rcases found with ⟨failed, _⟩ | ⟨_, _, _, best, _⟩
            · rw [failed]
              exact TokenType.noConfusion
            · exact best.notEnd
          rw [tokens_succ gives notEnd]
          rw [<- joined] at short enough ⊢
          rw [List.length_append] at short enough ⊢
          rw [<- List.append_assoc, List.length_cons]
          rcases @hypothesis (scanToken was char others).rest (by omega) (before ++ text)
            (isValue (scanToken was char others).type) rounds (by omega) with ⟨ends, few, cut⟩
          refine ⟨ends, by omega, fun clean => ?_⟩
          rcases found with ⟨failed, _⟩ | ⟨_, other, again, best, all⟩
          · exact absurd failed (clean _ List.mem_cons_self)
          · rcases List.append_cancel_right (joined.trans again.symm) with rfl
            have longest := longest_lexeme starts joined best fun same lexeme =>
              (all same lexeme).elim Nat.le_of_lt fun equal => by rw [equal.1]
            rcases cut (fun token member => clean token (List.mem_cons_of_mem _ member)) with
              ⟨pieces, cuts⟩
            exact ⟨_, .piece longest cuts⟩

theorem tokens_inside (rounds : Nat) (state : LexerState) :
    forall token, token ∈ (state.tokens rounds).1 -> token.type ≠ .eof := by
  induction rounds generalizing state with
  | zero => exact fun _ member => absurd member List.not_mem_nil
  | succ rounds hypothesis =>
      intro token member
      unfold tokens at member
      by_cases ended : state.getNextToken.1.type = .eof
      · simp only [if_pos ended] at member
        exact absurd member List.not_mem_nil
      · simp only [if_neg ended] at member
        rcases List.mem_cons.mp member with rfl | inOthers
        · exact ended
        · exact hypothesis _ _ inOthers

end LexerState

/-- Without an error, the lexer gives the tokens of the one way to cut the source by the
longest match, each with the position of its piece; and it gives an error where there is
no such way. -/
theorem lexed_iff (source : List Char) (tokens : List Token) (ending : Token) :
    (lexed source = (tokens, ending) ∧ forall token, token ∈ tokens -> token.type ≠ .error) <->
      exists pieces, Cuts lexicon false [] source pieces ∧ tokens = pieces.filterMap tokenOf ∧
        ending = LexerState.endOf source := by
  constructor
  · rintro ⟨gives, clean⟩
    have given : (LexerState.behind [] source false).tokens (source.length + 1) =
        (tokens, ending) := gives
    have noErrors : forall token,
        token ∈ ((LexerState.behind [] source false).tokens (source.length + 1)).1 ->
          token.type ≠ .error := by
      rw [given]
      exact clean
    rcases (LexerState.tokens_read _ source (Nat.le_refl _) [] false
      (Nat.lt_succ_self _)).2.2 noErrors with ⟨pieces, cuts⟩
    have run := (LexerState.tokens_of_cuts cuts (Nat.lt_succ_self _)).1
    rw [given] at run
    exact ⟨pieces, cuts, (Prod.mk.inj run).1, (Prod.mk.inj run).2⟩
  · rintro ⟨pieces, cuts, rfl, rfl⟩
    exact LexerState.tokens_of_cuts cuts (Nat.lt_succ_self _)

end Runs

end Parsing
end NewBcpl
