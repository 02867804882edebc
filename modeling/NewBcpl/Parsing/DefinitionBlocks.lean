import NewBcpl.Parsing.NumberNotations
import NewBcpl.Parsing.TokenReading

namespace NewBcpl
namespace Parsing

open Parse
open TokenType (noConfusion)

/-!
# Blocks of definitions

`MANIFEST`, `STATIC` and `GLOBAL` blocks with any number of definitions, as lists of
tokens, and the declaration that the parser makes of each. The first two kinds keep
the first definition and skip to a closing brace; the third reads them all.
-/

section Blocks

variable (rounding : Rounding)

/-- The keyword and the braces of a block. -/
structure Frame (type : TokenType) where
  keyword : Token
  opening : Token
  closing : Token
  isKeyword : keyword.type = type
  isOpening : opening.type = .leftBrace
  isClosing : closing.type = .rightBrace

/-- A token that separates definitions. -/
structure Separator where
  token : Token
  isSeparator : token.type = .semicolon ∨ token.type = .comma

/-- A name with a number: a definition of a `MANIFEST` block, where the mark is an
equals sign, or of a `GLOBAL` block, where it is a colon. -/
structure NumberDefinition (mark : TokenType) where
  name : Token
  marker : Token
  value : Token
  separator : Separator
  number : NumericToken
  isName : name.type = .identifier
  isMarker : marker.type = mark
  isNumber : value.type = .numberLiteral
  valueText : value.value = number.text

namespace NumberDefinition

variable {mark : TokenType}

/-- Definitions with their separators, which stand between two definitions. -/
def tokens : List (NumberDefinition mark) -> List Token
  | [] => []
  | [definition] => [definition.name, definition.marker, definition.value]
  | definition :: rest =>
      definition.name :: definition.marker :: definition.value ::
        definition.separator.token :: tokens rest

/-- The name that is defined and the literal that its number denotes. -/
def meaning (definition : NumberDefinition mark) : List Char × Option Expression :=
  (definition.name.value, definition.number.denotes rounding)

/-- The number is a decimal integer below a bound. -/
def DecimalBelow (bound : Nat) (definition : NumberDefinition mark) : Prop :=
  exists whole, definition.number = .decimal whole ∧ decimalValue whole.digits < bound

end NumberDefinition

/-- What can follow an initializer in a `STATIC` block: a separator, the next name
or the closing brace. -/
def EndsInitializer (tokens : List Token) : Prop :=
  nextType tokens = .semicolon ∨ nextType tokens = .identifier ∨
    nextType tokens = .rightBrace

/-- An initializer: tokens that `parse_expression` reads as a tree, without an
error and up to what follows. -/
structure Initializer where
  tokens : List Token
  tree : Expression
  plain : forall token, token ∈ tokens -> token.type ≠ .error ∧ token.type ≠ .eof
  reads : exists bound, forall rounds, bound ≤ rounds ->
    forall (state : ParserState) (previous : Token) (after : List Token),
      EndsInitializer after ->
        exists last, (callees rounding Observer.none rounds).expression 0
          (state.facing previous (tokens ++ after)) =
            .done (some tree) (state.facing last after)

/-- A definition of a `STATIC` block. A separator is optional. -/
structure StaticDefinition where
  name : Token
  marker : Token
  initializer : Initializer rounding
  separators : List Token
  isName : name.type = .identifier
  isMarker : marker.type = .equal
  areSeparators : forall token, token ∈ separators -> token.type = .semicolon

namespace StaticDefinition

variable {rounding}

def tokens : List (StaticDefinition rounding) -> List Token
  | [] => []
  | definition :: rest =>
      definition.name :: definition.marker ::
        (definition.initializer.tokens ++ (definition.separators ++ tokens rest))

def meaning (definition : StaticDefinition rounding) : List Char × Option Expression :=
  (definition.name.value, some definition.initializer.tree)

end StaticDefinition

/-- A block of definitions. -/
inductive Block where
  | manifest (frame : Frame .manifestKeyword) (definitions : List (NumberDefinition .equal))
  | static (frame : Frame .staticKeyword) (definitions : List (StaticDefinition rounding))
  | globals (frame : Frame .globalKeyword) (definitions : List (NumberDefinition .colon))

namespace Block

variable {rounding}

/-- The tokens of a block in front of other tokens. -/
def before (after : List Token) : Block rounding -> List Token
  | manifest frame definitions =>
      frame.keyword :: frame.opening ::
        (NumberDefinition.tokens definitions ++ frame.closing :: after)
  | static frame definitions =>
      frame.keyword :: frame.opening ::
        (StaticDefinition.tokens definitions ++ frame.closing :: after)
  | globals frame definitions =>
      frame.keyword :: frame.opening ::
        (NumberDefinition.tokens definitions ++ frame.closing :: after)

/-- The names and values that a block defines, in order. -/
def meaning : Block rounding -> List (List Char × Option Expression)
  | manifest _ definitions | globals _ definitions =>
      definitions.map (NumberDefinition.meaning rounding)
  | static _ definitions => definitions.map StaticDefinition.meaning

/-- The blocks that are kept or reported: `MANIFEST` with at most one definition,
which is a decimal integer below `2 ^ 63`, `STATIC` with at most one definition, and
`GLOBAL` with decimal offsets below `2 ^ 31`. -/
def Fits : Block rounding -> Prop
  | manifest _ definitions =>
      definitions.length ≤ 1 ∧
        forall definition, definition ∈ definitions -> definition.DecimalBelow (2 ^ 63)
  | static _ definitions => definitions.length ≤ 1
  | globals _ definitions =>
      forall definition, definition ∈ definitions -> definition.DecimalBelow (2 ^ 31)

end Block

/-- The names and values that a declaration declares. -/
def declared : Declaration -> List (List Char × Option Expression)
  | .manifestDeclaration name value => [(name, some (.integerLiteral value))]
  | .staticDeclaration name initializer => [(name, initializer)]
  | .globalDeclaration globals =>
      globals.map fun entry => (entry.1, some (.integerLiteral entry.2))
  | _ => []

/-- The declaration has all the definitions of a block, or an error is reported. -/
def Keeps (meaning : List (List Char × Option Expression)) (errors : List String) :
    Outcome (Option Declaration) -> Prop
  | .done (some declaration) final => declared declaration = meaning ∨ final.errors ≠ errors
  | .done none final | .thrown final => final.errors ≠ errors
  | .escaped _ _ | .halted _ _ | .exhausted => False

end Blocks

section Skipping

/-- The tokens of a definition are neither lexical errors nor the end. -/
def Plain (tokens : List Token) : Prop :=
  forall token, token ∈ tokens -> token.type ≠ .error ∧ token.type ≠ .eof

theorem Plain.legible {tokens after : List Token} (plain : Plain tokens)
    (legible : Legible after) : Legible (tokens ++ after) := by
  cases tokens with
  | nil => exact legible
  | cons token tokens => exact (plain token (List.mem_cons_self ..)).1

theorem legible_of_type {tokens : List Token} {type : TokenType}
    (isType : nextType tokens = type) (noError : type ≠ .error) : Legible tokens := by
  unfold Legible
  rw [isType]
  exact noError

/-- The skipping loop stops at a closing brace without an error. -/
theorem skipToBrace_facing {closing : Token} (isClosing : closing.type = .rightBrace)
    {after : List Token} (legible : Legible after) (state : ParserState)
    {tokens : List Token} (plain : Plain tokens) {rounds : Nat}
    (enough : tokens.length < rounds) (previous : Token) :
    exists last brace rest, brace.type = .rightBrace ∧ Legible rest ∧
      skipToBrace rounds (state.facing previous (tokens ++ closing :: after)) =
        .done () (state.facing last (brace :: rest)) := by
  induction tokens generalizing rounds previous with
  | nil =>
      cases rounds with
      | zero => omega
      | succ rounds =>
          refine ⟨previous, closing, after, isClosing, legible, ?_⟩
          have stops : (state.facing previous (closing :: after)).check .rightBrace = true :=
            facing_check_self state previous closing after isClosing noConfusion
          unfold skipToBrace
          rw [bind_done (show look _ = _ from rfl)]
          simp [stops]
          rfl
  | cons token tokens hypothesis =>
      cases rounds with
      | zero => simp at enough
      | succ rounds =>
          have restPlain : Plain tokens := fun other member =>
            plain other (List.mem_cons_of_mem _ member)
          have restLegible : Legible (tokens ++ closing :: after) :=
            restPlain.legible (legible_of_type isClosing noConfusion)
          by_cases brace : token.type = .rightBrace
          · refine ⟨previous, token, tokens ++ closing :: after, brace, restLegible, ?_⟩
            have stops : (state.facing previous
                (token :: (tokens ++ closing :: after))).check .rightBrace = true :=
              facing_check_self state previous token _ brace noConfusion
            unfold skipToBrace
            rw [bind_done (show look _ = _ from rfl)]
            simp [stops]
            rfl
          · have later := hypothesis restPlain (show tokens.length < rounds by
              simp only [List.length_cons] at enough
              omega) token
            rcases later with ⟨last, found, rest, isBrace, foundLegible, skipped⟩
            refine ⟨last, found, rest, isBrace, foundLegible, ?_⟩
            have continues : (state.facing previous
                (token :: (tokens ++ closing :: after))).check .rightBrace = false :=
              facing_check_other state previous _ brace
            have notEnd : (state.facing previous
                (token :: (tokens ++ closing :: after))).isAtEnd = false := by
              rw [facing_isAtEnd]
              simpa [nextType] using (plain token (List.mem_cons_self ..)).2
            unfold skipToBrace
            rw [bind_done (show look _ = _ from rfl)]
            simp only [List.cons_append, continues, notEnd, Bool.or_self]
            exact (bind_done (advance_facing restLegible)).trans skipped

end Skipping

section Numbers

variable (rounding : Rounding) {mark : TokenType}

theorem toSigned_whole (bits : Nat) (whole : Digits) {rest : List Char}
    (stops : rest.head?.any Char.isDigit = false) :
    toSigned bits (whole.digits ++ rest) =
      if decimalValue whole.digits < 2 ^ (bits - 1) then
        .ok (decimalValue whole.digits : Int)
      else .error .outOfRange :=
  toSigned_natural (readInteger_whole whole stops)

/-- A conversion to an integer gives the number that a token denotes exactly on the
decimal integers in its range. -/
theorem toSigned_denotes_iff (bits : Nat) (number : NumericToken) :
    (exists value, toSigned bits number.text = .ok value ∧
      number.denotes rounding = some (.integerLiteral value)) <->
      exists whole, number = .decimal whole ∧ decimalValue whole.digits < 2 ^ (bits - 1) := by
  cases number with
  | decimal whole =>
      have read := toSigned_whole bits whole (show ([] : List Char).head?.any _ = _ from rfl)
      rw [List.append_nil] at read
      change (exists value, toSigned bits whole.digits = _ ∧
        some (Expression.integerLiteral (decimalValue whole.digits)) = _) <-> _
      rw [read]
      by_cases small : decimalValue whole.digits < 2 ^ (bits - 1)
      · rw [if_pos small]
        simp [small]
      · rw [if_neg small]
        simp [small]
  | hexadecimal letter isLetter digits areDigits =>
      have unread : toSigned bits ('#' :: letter :: digits) = .error .invalidArgument := rfl
      change (exists value, toSigned bits ('#' :: letter :: digits) = _ ∧ _) <-> _
      rw [unread]
      simp
  | octal digits areDigits =>
      have unread : toSigned bits ('#' :: digits) = .error .invalidArgument := rfl
      change (exists value, toSigned bits ('#' :: digits) = _ ∧ _) <-> _
      rw [unread]
      simp
  | fraction whole digits areDigits exponent =>
      constructor
      · rintro ⟨value, _, denoted⟩
        unfold NumericToken.denotes at denoted
        cases scaled : NumericToken.scale exponent with
        | none => simp [scaled] at denoted
        | some power =>
            cases found : rounding false (decimalValue (whole.digits ++ digits))
              (power - digits.length) <;> simp [scaled, found] at denoted
      · rintro ⟨other, same, _⟩
        cases same
  | scaled whole exponent =>
      constructor
      · rintro ⟨value, _, denoted⟩
        unfold NumericToken.denotes at denoted
        cases scaled : NumericToken.scale (some exponent) with
        | none => simp [scaled] at denoted
        | some power =>
            cases found : rounding false (decimalValue whole.digits) power <;>
              simp [scaled, found] at denoted
      · rintro ⟨other, same, _⟩
        cases same

/-- The conversion of the current token gives the denoted number exactly when the
definition is a decimal integer in its range. -/
theorem decimalBelow_iff (bits : Nat) (definition : NumberDefinition mark) :
    definition.DecimalBelow (2 ^ (bits - 1)) <->
      exists value, toSigned bits definition.value.value = .ok value ∧
        definition.meaning rounding =
          (definition.name.value, some (.integerLiteral value)) := by
  unfold NumberDefinition.DecimalBelow NumberDefinition.meaning
  rw [<- toSigned_denotes_iff rounding, definition.valueText]
  simp only [Prod.mk.injEq, true_and]

theorem NumberDefinition.plain (plainMark : mark ≠ .error ∧ mark ≠ .eof)
    (definitions : List (NumberDefinition mark)) :
    Plain (NumberDefinition.tokens definitions) := by
  induction definitions with
  | nil => exact fun token member => absurd member List.not_mem_nil
  | cons definition rest hypothesis =>
      have name : definition.name.type ≠ .error ∧ definition.name.type ≠ .eof := by
        rw [definition.isName]
        exact ⟨noConfusion, noConfusion⟩
      have marker : definition.marker.type ≠ .error ∧ definition.marker.type ≠ .eof := by
        rw [definition.isMarker]
        exact plainMark
      have value : definition.value.type ≠ .error ∧ definition.value.type ≠ .eof := by
        rw [definition.isNumber]
        exact ⟨noConfusion, noConfusion⟩
      have separator : definition.separator.token.type ≠ .error ∧
          definition.separator.token.type ≠ .eof := by
        rcases definition.separator.isSeparator with same | same <;> rw [same] <;>
          exact ⟨noConfusion, noConfusion⟩
      cases rest with
      | nil =>
          intro token member
          simp only [NumberDefinition.tokens, List.mem_cons, List.not_mem_nil, or_false]
            at member
          rcases member with rfl | rfl | rfl
          · exact name
          · exact marker
          · exact value
      | cons next rest =>
          intro token member
          rw [NumberDefinition.tokens] at member
          · simp only [List.mem_cons] at member
            rcases member with rfl | rfl | rfl | rfl | later
            · exact name
            · exact marker
            · exact value
            · exact separator
            · exact hypothesis token later
          · exact List.cons_ne_nil _ _

end Numbers

section Manifest

variable {rounding : Rounding}

theorem legible_cons {token : Token} {tokens : List Token} {type : TokenType}
    (isType : token.type = type) (noError : type ≠ .error) : Legible (token :: tokens) :=
  legible_of_type isType noError

theorem convertCurrent_ok {conversion : List Char -> Except Escape Int}
    {state : ParserState} {value : Int}
    (converted : conversion state.current.value = .ok value) :
    convertCurrent conversion state = .done value state := by
  unfold convertCurrent
  rw [bind_done (show look _ = _ from rfl), converted]
  rfl

theorem convertCurrent_error {conversion : List Char -> Except Escape Int}
    {state : ParserState} {exception : Escape}
    (converted : conversion state.current.value = .error exception) :
    convertCurrent conversion state = .escaped exception state := by
  unfold convertCurrent
  rw [bind_done (show look _ = _ from rfl), converted]
  rfl

/-- The parser of a declaration that is no label. -/
def keywordDeclaration (below : Callees) (rounds : Nat) :
    TokenType -> Parse (Option Declaration)
  | .manifestKeyword => parseManifestDeclaration below
  | .staticKeyword => parseStaticDeclaration below
  | .globalKeyword => parseGlobalDeclaration rounds
  | _ => do
      error "Unknown or unexpected declaration type."
      pure none

/-- `parse_declaration` on a keyword of a block. -/
theorem parseDeclaration_facing (below : Callees) (rounds : Nat) (state : ParserState)
    (previous keyword : Token) (tokens : List Token) {type : TokenType}
    (isKeyword : keyword.type = type) (notName : type ≠ .identifier) :
    parseDeclaration below rounds (state.facing previous (keyword :: tokens)) =
      keywordDeclaration below rounds type (state.facing previous (keyword :: tokens)) := by
  have noLabel : (state.facing previous (keyword :: tokens)).check .identifier = false := by
    apply facing_check_other
    change keyword.type ≠ _
    rw [isKeyword]
    exact notName
  unfold parseDeclaration
  rw [bind_done (show look _ = _ from rfl)]
  simp only [noLabel, Bool.false_and, Bool.false_eq_true, if_false, facing_current_cons,
    isKeyword]
  cases type <;> rfl

/-- The skipping as the parser calls it. -/
theorem callees_skipToBrace (rounds : Nat) (state : ParserState) :
    (callees rounding Observer.none (rounds + 1)).skipToBrace state =
      skipToBrace rounds state := rfl

/-- A `MANIFEST` block without definitions is reported. -/
theorem manifest_empty (below : Callees) (state : ParserState) (previous : Token)
    (frame : Frame .manifestKeyword) (after : List Token) :
    exists final, parseManifestDeclaration below
      (state.facing previous (frame.keyword :: frame.opening :: frame.closing :: after)) =
        .thrown final ∧ final.errors ≠ state.errors := by
  have missing : exists final, parseName "Expect identifier in manifest declaration."
      (state.facing frame.opening (frame.closing :: after)) = .thrown final ∧
        final.errors ≠ state.errors := by
    apply parseName_missing
    change frame.closing.type ≠ _
    rw [frame.isClosing]
    exact noConfusion
  rcases missing with ⟨final, thrown, reported⟩
  refine ⟨final, ?_, reported⟩
  unfold parseManifestDeclaration
  rw [bind_done (consume_facing frame.isKeyword noConfusion
      (legible_cons frame.isOpening noConfusion) _),
    bind_done (consume_facing frame.isOpening noConfusion
      (legible_cons frame.isClosing noConfusion) _),
    bind_thrown thrown]

/-- A `MANIFEST` block with a definition: the number is converted, and what follows
it is skipped. -/
theorem manifest_first (state : ParserState) (previous : Token)
    (frame : Frame .manifestKeyword) {after : List Token} (legible : Legible after)
    (definition : NumberDefinition .equal) {skipped : List Token} (plain : Plain skipped)
    {rounds : Nat} (enough : skipped.length < rounds) :
    (exists exception final, stoll definition.value.value = .error exception ∧
      parseManifestDeclaration (callees rounding Observer.none (rounds + 1))
        (state.facing previous (frame.keyword :: frame.opening :: definition.name ::
          definition.marker :: definition.value :: (skipped ++ frame.closing :: after))) =
        .escaped exception final) ∨
    exists value last rest, stoll definition.value.value = .ok value ∧
      parseManifestDeclaration (callees rounding Observer.none (rounds + 1))
        (state.facing previous (frame.keyword :: frame.opening :: definition.name ::
          definition.marker :: definition.value :: (skipped ++ frame.closing :: after))) =
        .done (some (.manifestDeclaration definition.name.value value))
          (state.facing last rest) := by
  have skippedLegible : Legible (skipped ++ frame.closing :: after) :=
    plain.legible (legible_cons frame.isClosing noConfusion)
  unfold parseManifestDeclaration
  rw [bind_done (consume_facing frame.isKeyword noConfusion
      (legible_cons frame.isOpening noConfusion) _),
    bind_done (consume_facing frame.isOpening noConfusion
      (legible_cons definition.isName noConfusion) _),
    bind_done (parseName_facing definition.isName
      (legible_cons definition.isMarker noConfusion) _),
    bind_done (consume_facing definition.isMarker noConfusion
      (legible_cons definition.isNumber noConfusion) _)]
  cases converted : stoll definition.value.value with
  | error exception =>
      apply Or.inl
      exact ⟨exception, _, rfl, bind_escaped (convertCurrent_error converted)⟩
  | ok value =>
      apply Or.inr
      rcases skipToBrace_facing frame.isClosing legible state plain enough definition.value with
        ⟨last, brace, rest, isBrace, restLegible, stopped⟩
      refine ⟨value, brace, rest, rfl, ?_⟩
      rw [bind_done (convertCurrent_ok converted),
        bind_done (consume_facing definition.isNumber noConfusion skippedLegible _),
        bind_done ((callees_skipToBrace rounds _).trans stopped),
        bind_done (consume_facing isBrace noConfusion restLegible _)]
      rfl

end Manifest

section Static

variable {rounding : Rounding}

theorem StaticDefinition.plain (definitions : List (StaticDefinition rounding)) :
    Plain (StaticDefinition.tokens definitions) := by
  induction definitions with
  | nil => exact fun token member => absurd member List.not_mem_nil
  | cons definition rest hypothesis =>
      intro token member
      simp only [StaticDefinition.tokens, List.mem_cons, List.mem_append] at member
      rcases member with rfl | rfl | inInitializer | inSeparators | later
      · rw [definition.isName]
        exact ⟨noConfusion, noConfusion⟩
      · rw [definition.isMarker]
        exact ⟨noConfusion, noConfusion⟩
      · exact definition.initializer.plain token inInitializer
      · rw [definition.areSeparators token inSeparators]
        exact ⟨noConfusion, noConfusion⟩
      · exact hypothesis token later

/-- An initializer ends at its separators, the next definition or the brace. -/
theorem StaticDefinition.ends (definition : StaticDefinition rounding)
    (rest : List (StaticDefinition rounding)) {closing : Token}
    (isClosing : closing.type = .rightBrace) (after : List Token) :
    EndsInitializer (definition.separators ++
      (StaticDefinition.tokens rest ++ closing :: after)) := by
  cases separators : definition.separators with
  | cons separator others =>
      apply Or.inl
      exact definition.areSeparators separator (by rw [separators]; exact List.mem_cons_self ..)
  | nil =>
      apply Or.inr
      cases rest with
      | nil => exact Or.inr isClosing
      | cons next others => exact Or.inl next.isName

theorem EndsInitializer.legible {tokens : List Token} (ends : EndsInitializer tokens) :
    Legible tokens := by
  rcases ends with ends | ends | ends <;>
    exact legible_of_type ends noConfusion

/-- A `STATIC` block without definitions is reported. -/
theorem static_empty (below : Callees) (state : ParserState) (previous : Token)
    (frame : Frame .staticKeyword) (after : List Token) :
    exists final, parseStaticDeclaration below
      (state.facing previous (frame.keyword :: frame.opening :: frame.closing :: after)) =
        .thrown final ∧ final.errors ≠ state.errors := by
  have missing : exists final, parseName "Expect identifier in static declaration."
      (state.facing frame.opening (frame.closing :: after)) = .thrown final ∧
        final.errors ≠ state.errors := by
    apply parseName_missing
    change frame.closing.type ≠ _
    rw [frame.isClosing]
    exact noConfusion
  rcases missing with ⟨final, thrown, reported⟩
  refine ⟨final, ?_, reported⟩
  unfold parseStaticDeclaration
  rw [bind_done (consume_facing frame.isKeyword noConfusion
      (legible_cons frame.isOpening noConfusion) _),
    bind_done (consume_facing frame.isOpening noConfusion
      (legible_cons frame.isClosing noConfusion) _),
    bind_thrown thrown]

/-- Of a `STATIC` block the parser keeps the first definition. -/
theorem static_first (state : ParserState) (previous : Token)
    (frame : Frame .staticKeyword) {after : List Token} (legible : Legible after)
    (definition : StaticDefinition rounding) (others : List (StaticDefinition rounding)) :
    exists bound, forall rounds, bound ≤ rounds -> exists last rest,
      parseStaticDeclaration (callees rounding Observer.none rounds)
        (state.facing previous (frame.keyword :: frame.opening ::
          (StaticDefinition.tokens (definition :: others) ++ frame.closing :: after))) =
        .done (some (.staticDeclaration definition.name.value
          (some definition.initializer.tree))) (state.facing last rest) := by
  rcases definition.initializer.reads with ⟨bound, reads⟩
  have plain : Plain (definition.separators ++ StaticDefinition.tokens others) := by
    intro token member
    rcases List.mem_append.mp member with inSeparators | later
    · rw [definition.areSeparators token inSeparators]
      exact ⟨noConfusion, noConfusion⟩
    · exact StaticDefinition.plain others token later
  refine ⟨bound + (definition.separators ++ StaticDefinition.tokens others).length + 2, ?_⟩
  intro rounds enough
  have split : StaticDefinition.tokens (definition :: others) ++ frame.closing :: after =
      definition.name :: definition.marker :: (definition.initializer.tokens ++
        (definition.separators ++
          (StaticDefinition.tokens others ++ frame.closing :: after))) := by
    simp [StaticDefinition.tokens]
  have ends := definition.ends others frame.isClosing after
  rcases reads rounds (by omega) state definition.marker _ ends with ⟨last, read⟩
  rcases skipToBrace_facing frame.isClosing legible state plain
      (show _ < rounds - 1 by omega) last with
    ⟨skipLast, brace, rest, isBrace, restLegible, stopped⟩
  refine ⟨brace, rest, ?_⟩
  have level : rounds = rounds - 1 + 1 := by omega
  have skips : (callees rounding Observer.none rounds).skipToBrace =
      skipToBrace (rounds - 1) := by
    rw [level]
    rfl
  rw [List.append_assoc] at stopped
  rw [split]
  unfold parseStaticDeclaration
  rw [bind_done (consume_facing frame.isKeyword noConfusion
      (legible_cons frame.isOpening noConfusion) _),
    bind_done (consume_facing frame.isOpening noConfusion
      (legible_cons definition.isName noConfusion) _),
    bind_done (parseName_facing definition.isName
      (legible_cons definition.isMarker noConfusion) _),
    bind_done (consume_facing definition.isMarker noConfusion
      (Plain.legible definition.initializer.plain ends.legible) _),
    bind_done read, skips, bind_done stopped,
    bind_done (consume_facing isBrace noConfusion restLegible _)]
  rfl

end Static

section Globals

/-- The separators that the loop of a `GLOBAL` block takes. -/
theorem matchSeparator_facing {token : Token}
    (isSeparator : token.type = .semicolon ∨ token.type = .comma) {tokens : List Token}
    (legible : Legible tokens) (state : ParserState) (previous : Token) :
    matchSeparator (state.facing previous (token :: tokens)) =
      .done true (state.facing token tokens) := by
  unfold matchSeparator
  rcases isSeparator with isSemicolon | isComma
  · rw [bind_done (matchToken_facing isSemicolon noConfusion legible)]
    rfl
  · have notSemicolon : nextType (token :: tokens) ≠ .semicolon := by
      change token.type ≠ _
      rw [isComma]
      exact noConfusion
    rw [bind_done (matchToken_other notSemicolon)]
    exact matchToken_facing isComma noConfusion legible

theorem matchSeparator_brace {token : Token} (isBrace : token.type = .rightBrace)
    (tokens : List Token) (state : ParserState) (previous : Token) :
    matchSeparator (state.facing previous (token :: tokens)) =
      .done false (state.facing previous (token :: tokens)) := by
  have isOther : forall {type : TokenType}, .rightBrace ≠ type ->
      nextType (token :: tokens) ≠ type := by
    intro type different
    change token.type ≠ _
    rw [isBrace]
    exact different
  unfold matchSeparator
  rw [bind_done (matchToken_other (isOther noConfusion))]
  exact matchToken_other (isOther noConfusion)

/-- One definition of a `GLOBAL` block. -/
theorem parseGlobal_facing (state : ParserState) (previous : Token)
    (definition : NumberDefinition .colon) {tokens : List Token} (legible : Legible tokens) :
    (exists exception final, stoi definition.value.value = .error exception ∧
      parseGlobal (state.facing previous
        (definition.name :: definition.marker :: definition.value :: tokens)) =
        .escaped exception final) ∨
    exists offset, stoi definition.value.value = .ok offset ∧
      parseGlobal (state.facing previous
        (definition.name :: definition.marker :: definition.value :: tokens)) =
        .done (definition.name.value, offset) (state.facing definition.value tokens) := by
  unfold parseGlobal
  rw [bind_done (parseName_facing definition.isName
      (legible_cons definition.isMarker noConfusion) _),
    bind_done (consume_facing definition.isMarker noConfusion
      (legible_cons definition.isNumber noConfusion) _)]
  cases converted : stoi definition.value.value with
  | error exception =>
      exact Or.inl ⟨exception, _, rfl, bind_escaped (convertCurrent_error converted)⟩
  | ok offset =>
      refine Or.inr ⟨offset, rfl, ?_⟩
      rw [bind_done (convertCurrent_ok converted),
        bind_done (consume_facing definition.isNumber noConfusion legible _)]
      rfl

/-- The offset that is read for a definition. -/
def ReadAs (definition : NumberDefinition .colon) (entry : List Char × Int) : Prop :=
  entry.1 = definition.name.value ∧ stoi definition.value.value = .ok entry.2

/-- The loop of a `GLOBAL` block reads all definitions or lets an exception through
at the first number that it cannot convert. -/
theorem globals_facing {closing : Token} (isClosing : closing.type = .rightBrace)
    (after : List Token) (state : ParserState) (definition : NumberDefinition .colon)
    (others : List (NumberDefinition .colon)) {rounds : Nat} (enough : others.length < rounds)
    (previous : Token) :
    (exists exception final bad, bad ∈ definition :: others ∧
      stoi bad.value.value = .error exception ∧
      repeated matchSeparator parseGlobal rounds (state.facing previous
        (NumberDefinition.tokens (definition :: others) ++ closing :: after)) =
        .escaped exception final) ∨
    exists entries last, List.Forall₂ ReadAs (definition :: others) entries ∧
      repeated matchSeparator parseGlobal rounds (state.facing previous
        (NumberDefinition.tokens (definition :: others) ++ closing :: after)) =
        .done entries (state.facing last (closing :: after)) := by
  induction others generalizing definition rounds previous with
  | nil =>
      cases rounds with
      | zero => omega
      | succ rounds =>
          have closingLegible : Legible (closing :: after) :=
            legible_cons isClosing noConfusion
          rcases parseGlobal_facing state previous definition closingLegible with
            ⟨exception, final, failed, outcome⟩ | ⟨offset, read, outcome⟩
          · exact Or.inl ⟨exception, final, definition, List.mem_cons_self .., failed,
              bind_escaped outcome⟩
          · refine Or.inr ⟨[(definition.name.value, offset)], definition.value,
              .cons ⟨rfl, read⟩ .nil, ?_⟩
            exact (bind_done outcome).trans
              (bind_done (matchSeparator_brace isClosing after state definition.value))
  | cons next others hypothesis =>
      cases rounds with
      | zero => omega
      | succ rounds =>
          have shape : NumberDefinition.tokens (definition :: next :: others) ++
              closing :: after =
                definition.name :: definition.marker :: definition.value ::
                  definition.separator.token ::
                    (NumberDefinition.tokens (next :: others) ++ closing :: after) := by
            rw [NumberDefinition.tokens]
            · rfl
            · exact List.cons_ne_nil _ _
          have nextLegible : Legible
              (NumberDefinition.tokens (next :: others) ++ closing :: after) := by
            apply Plain.legible (NumberDefinition.plain ⟨noConfusion,
              noConfusion⟩ _)
            exact legible_cons isClosing noConfusion
          have separatorLegible : Legible (definition.separator.token ::
              (NumberDefinition.tokens (next :: others) ++ closing :: after)) := by
            rcases definition.separator.isSeparator with same | same <;>
              exact legible_cons same noConfusion
          rw [shape]
          rcases parseGlobal_facing state previous definition separatorLegible with
            ⟨exception, final, failed, outcome⟩ | ⟨offset, read, outcome⟩
          · exact Or.inl ⟨exception, final, definition, List.mem_cons_self .., failed,
              bind_escaped outcome⟩
          · have goesOn := matchSeparator_facing definition.separator.isSeparator nextLegible
              state definition.value
            have later := hypothesis next (show others.length < rounds by
              simp only [List.length_cons] at enough
              omega) definition.separator.token
            rcases later with ⟨exception, final, bad, member, failed, escaped⟩ |
              ⟨entries, last, readAll, done⟩
            · refine Or.inl ⟨exception, final, bad, List.mem_cons_of_mem _ member, failed, ?_⟩
              exact (bind_done outcome).trans
                ((bind_done goesOn).trans (bind_escaped escaped))
            · refine Or.inr ⟨(definition.name.value, offset) :: entries, last,
                .cons ⟨rfl, read⟩ readAll, ?_⟩
              exact (bind_done outcome).trans
                ((bind_done goesOn).trans (bind_done done))

end Globals

section Blocks

variable {rounding : Rounding}

theorem NumberDefinition.tokens_cons {mark : TokenType}
    (plainMark : mark ≠ .error ∧ mark ≠ .eof) (definition : NumberDefinition mark)
    (others : List (NumberDefinition mark)) :
    exists skipped, Plain skipped ∧ NumberDefinition.tokens (definition :: others) =
      definition.name :: definition.marker :: definition.value :: skipped := by
  have plain := NumberDefinition.plain plainMark (definition :: others)
  have shape : exists skipped, NumberDefinition.tokens (definition :: others) =
      definition.name :: definition.marker :: definition.value :: skipped := by
    cases others with
    | nil => exact ⟨[], rfl⟩
    | cons next others =>
        refine ⟨definition.separator.token :: NumberDefinition.tokens (next :: others), ?_⟩
        rw [NumberDefinition.tokens]
        exact List.cons_ne_nil _ _
  rcases shape with ⟨skipped, same⟩
  refine ⟨skipped, ?_, same⟩
  intro token member
  apply plain token
  rw [same]
  exact List.mem_cons_of_mem _ (List.mem_cons_of_mem _ (List.mem_cons_of_mem _ member))

/-- A declaration that is returned without an error has to have all definitions. -/
theorem keeps_done_iff (meaning : List (List Char × Option Expression))
    (declaration : Declaration) (state : ParserState) (last : Token) (rest : List Token) :
    Keeps meaning state.errors (.done (some declaration) (state.facing last rest)) <->
      declared declaration = meaning := by
  change (declared declaration = meaning ∨
    (state.facing last rest).errors ≠ state.errors) <-> _
  rw [facing_errors]
  simp

/-- The parser keeps or reports a `MANIFEST` block exactly when it fits. -/
theorem manifest_keeps_iff (frame : Frame .manifestKeyword)
    (definitions : List (NumberDefinition .equal)) (state : ParserState) (previous : Token)
    {after : List Token} (legible : Legible after) :
    exists bound, forall rounds, bound ≤ rounds ->
      (Keeps (definitions.map (NumberDefinition.meaning rounding)) state.errors
        (parseManifestDeclaration (callees rounding Observer.none rounds)
          (state.facing previous (frame.keyword :: frame.opening ::
            (NumberDefinition.tokens definitions ++ frame.closing :: after)))) <->
      definitions.length ≤ 1 ∧
        forall definition, definition ∈ definitions -> definition.DecimalBelow (2 ^ 63)) := by
  cases definitions with
  | nil =>
      refine ⟨0, fun rounds _ => ?_⟩
      rcases manifest_empty (callees rounding Observer.none rounds) state previous frame after
        with ⟨final, thrown, reported⟩
      change Keeps _ _ (parseManifestDeclaration _ (state.facing previous
        (frame.keyword :: frame.opening :: frame.closing :: after))) <-> _
      rw [thrown]
      exact ⟨fun _ => ⟨Nat.zero_le 1, fun _ member => absurd member List.not_mem_nil⟩,
        fun _ => reported⟩
  | cons definition others =>
      rcases NumberDefinition.tokens_cons ⟨noConfusion, noConfusion⟩
        definition others with ⟨skipped, plain, shape⟩
      refine ⟨skipped.length + 2, fun rounds enough => ?_⟩
      have decimal := decimalBelow_iff rounding 64 definition
      have level : rounds = rounds - 1 + 1 := by omega
      rw [shape, level]
      simp only [List.cons_append]
      rcases manifest_first state previous frame legible definition plain
          (show skipped.length < rounds - 1 by omega) with
        ⟨exception, final, failed, escaped⟩ | ⟨value, last, rest, read, done⟩
      · rw [escaped]
        constructor
        · exact fun keeps => absurd keeps id
        · intro fits
          rcases decimal.mp (fits.2 definition (List.mem_cons_self ..)) with
            ⟨value, converted, _⟩
          rw [show toSigned 64 = stoll from rfl, failed] at converted
          cases converted
      · rw [done, keeps_done_iff]
        constructor
        · intro same
          have alone : others = [] := by
            cases others with
            | nil => rfl
            | cons next others => simp [declared] at same
          subst alone
          refine ⟨le_refl 1, ?_⟩
          intro other member
          rw [List.mem_singleton.mp member]
          exact decimal.mpr ⟨value, read, (List.cons.inj same).1.symm⟩
        · rintro ⟨short, fits⟩
          have alone : others = [] := by
            cases others with
            | nil => rfl
            | cons next others => simp at short
          subst alone
          rcases decimal.mp (fits definition (List.mem_cons_self ..)) with
            ⟨other, converted, meant⟩
          rw [show toSigned 64 = stoll from rfl, read] at converted
          cases converted
          simp [declared, meant]

/-- The parser keeps or reports a `STATIC` block exactly when it has at most one
definition. -/
theorem static_keeps_iff (frame : Frame .staticKeyword)
    (definitions : List (StaticDefinition rounding)) (state : ParserState) (previous : Token)
    {after : List Token} (legible : Legible after) :
    exists bound, forall rounds, bound ≤ rounds ->
      (Keeps (definitions.map StaticDefinition.meaning) state.errors
        (parseStaticDeclaration (callees rounding Observer.none rounds)
          (state.facing previous (frame.keyword :: frame.opening ::
            (StaticDefinition.tokens definitions ++ frame.closing :: after)))) <->
      definitions.length ≤ 1) := by
  cases definitions with
  | nil =>
      refine ⟨0, fun rounds _ => ?_⟩
      rcases static_empty (callees rounding Observer.none rounds) state previous frame after
        with ⟨final, thrown, reported⟩
      change Keeps _ _ (parseStaticDeclaration _ (state.facing previous
        (frame.keyword :: frame.opening :: frame.closing :: after))) <-> _
      rw [thrown]
      exact ⟨fun _ => Nat.zero_le 1, fun _ => reported⟩
  | cons definition others =>
      rcases static_first state previous frame legible definition others with ⟨bound, first⟩
      refine ⟨bound, fun rounds enough => ?_⟩
      rcases first rounds enough with ⟨last, rest, done⟩
      rw [done, keeps_done_iff]
      cases others with
      | nil => simp [declared, StaticDefinition.meaning]
      | cons next others => simp [declared]

theorem readAs_declared {definitions : List (NumberDefinition .colon)}
    {entries : List (List Char × Int)} (readAll : List.Forall₂ ReadAs definitions entries) :
    declared (.globalDeclaration entries) =
        definitions.map (NumberDefinition.meaning rounding) <->
      forall definition, definition ∈ definitions -> definition.DecimalBelow (2 ^ 31) := by
  induction readAll with
  | nil => simp [declared]
  | @cons definition entry definitions entries read readRest hypothesis =>
      have decimal := decimalBelow_iff rounding 32 definition
      have here : (entry.1, some (Expression.integerLiteral entry.2)) =
          definition.meaning rounding <-> definition.DecimalBelow (2 ^ 31) := by
        rw [show (2 : Nat) ^ 31 = 2 ^ (32 - 1) from rfl, decimal]
        constructor
        · exact fun same => ⟨entry.2, read.2, by rw [<- same, read.1]⟩
        · rintro ⟨value, converted, meant⟩
          rw [show toSigned 32 = stoi from rfl, read.2] at converted
          cases converted
          rw [meant, read.1]
      simp only [declared, List.map_cons, List.cons.injEq, here] at hypothesis ⊢
      rw [hypothesis]
      simp

/-- The parser keeps or reports a `GLOBAL` block exactly when its offsets are decimal
and below `2 ^ 31`. -/
theorem globals_keeps_iff (frame : Frame .globalKeyword)
    (definitions : List (NumberDefinition .colon)) (state : ParserState) (previous : Token)
    {after : List Token} (legible : Legible after) {rounds : Nat}
    (enough : definitions.length < rounds) :
    Keeps (definitions.map (NumberDefinition.meaning rounding)) state.errors
      (parseGlobalDeclaration rounds (state.facing previous
        (frame.keyword :: frame.opening ::
          (NumberDefinition.tokens definitions ++ frame.closing :: after)))) <->
    forall definition, definition ∈ definitions -> definition.DecimalBelow (2 ^ 31) := by
  have opened : forall {tokens : List Token}, Legible tokens ->
      parseGlobalDeclaration rounds
        (state.facing previous (frame.keyword :: frame.opening :: tokens)) =
        (repeated matchSeparator parseGlobal rounds >>= fun globals => do
          consume .rightBrace "Expect '$)' to close GLOBAL block."
          pure (some (.globalDeclaration globals))) (state.facing frame.opening tokens) := by
    intro tokens tokensLegible
    unfold parseGlobalDeclaration
    rw [bind_done (consume_facing frame.isKeyword noConfusion
        (legible_cons frame.isOpening noConfusion) _),
      bind_done (consume_facing frame.isOpening noConfusion tokensLegible _)]
  have closingLegible : Legible (frame.closing :: after) :=
    legible_cons frame.isClosing noConfusion
  rw [opened (Plain.legible
    (NumberDefinition.plain ⟨noConfusion, noConfusion⟩ definitions)
    closingLegible)]
  cases definitions with
  | nil =>
      have missing : exists final, parseName "Expect identifier in global declaration."
          (state.facing frame.opening (frame.closing :: after)) = .thrown final ∧
            final.errors ≠ state.errors := by
        apply parseName_missing
        change frame.closing.type ≠ _
        rw [frame.isClosing]
        exact noConfusion
      rcases missing with ⟨final, thrown, reported⟩
      cases rounds with
      | zero => omega
      | succ rounds =>
          have outcome : repeated matchSeparator parseGlobal (rounds + 1)
              (state.facing frame.opening (frame.closing :: after)) = .thrown final :=
            bind_thrown (bind_thrown thrown)
          change Keeps _ _ ((repeated matchSeparator parseGlobal (rounds + 1) >>= _)
            (state.facing frame.opening (frame.closing :: after))) <-> _
          rw [bind_thrown outcome]
          exact ⟨fun _ _ member => absurd member List.not_mem_nil, fun _ => reported⟩
  | cons definition others =>
      rcases globals_facing frame.isClosing after state definition others
          (show others.length < rounds by
            simp only [List.length_cons] at enough
            omega) frame.opening with
        ⟨exception, final, bad, member, failed, escaped⟩ | ⟨entries, last, readAll, done⟩
      · rw [bind_escaped escaped]
        constructor
        · exact fun keeps => absurd keeps id
        · intro fits
          rcases (decimalBelow_iff rounding 32 bad).mp (fits bad member) with
            ⟨value, converted, _⟩
          rw [show toSigned 32 = stoi from rfl, failed] at converted
          cases converted
      · rw [bind_done done,
          bind_done (consume_facing frame.isClosing noConfusion legible _)]
        change Keeps _ _ (.done (some _) (state.facing frame.closing after)) <-> _
        rw [keeps_done_iff]
        exact readAs_declared readAll

/-- In front of a block the loop of `parse_program` adds what `parse_declaration`
returns. -/
theorem programRound_adds (callees : Callees) (rounds : Nat) {state final : ParserState}
    {declaration : Option Declaration}
    (starts : isDeclarationStart state.current.type = true)
    (read : parseDeclaration callees rounds state = .done declaration final) :
    programRound callees rounds state = .done ([declaration], true) final := by
  have noLet : (state.check .letKeyword || state.check .fletKeyword) = false := by
    unfold ParserState.check ParserState.isAtEnd
    unfold isDeclarationStart at starts
    split at starts <;> simp_all
  unfold programRound tryCatch
  rw [bind_done (show look state = .done state state from rfl)]
  simp only [noLet, starts, Bool.false_eq_true, if_false, if_true]
  rw [bind_done read]
  rfl

theorem Block.before_starts (block : Block rounding) (state : ParserState) (previous : Token)
    (after : List Token) :
    isDeclarationStart (state.facing previous (block.before after)).current.type = true := by
  cases block with
  | manifest frame definitions =>
      change isDeclarationStart frame.keyword.type = true
      rw [frame.isKeyword]
      rfl
  | static frame definitions =>
      change isDeclarationStart frame.keyword.type = true
      rw [frame.isKeyword]
      rfl
  | globals frame definitions =>
      change isDeclarationStart frame.keyword.type = true
      rw [frame.isKeyword]
      rfl

/-- The parser keeps or reports a block exactly when it fits. -/
theorem block_fits_iff (block : Block rounding) (state : ParserState) (previous : Token)
    (after : List Token) (legible : Legible after) :
    exists bound, forall rounds, bound ≤ rounds ->
      (Keeps block.meaning state.errors
        (parseDeclaration (callees rounding Observer.none rounds) rounds
          (state.facing previous (block.before after))) <-> block.Fits) := by
  cases block with
  | manifest frame definitions =>
      rcases manifest_keeps_iff frame definitions state previous legible with ⟨bound, keeps⟩
      refine ⟨bound, fun rounds enough => ?_⟩
      change Keeps _ _ (parseDeclaration _ _ (state.facing previous (frame.keyword :: _))) <-> _
      rw [parseDeclaration_facing _ _ _ _ _ _ frame.isKeyword noConfusion]
      exact keeps rounds enough
  | static frame definitions =>
      rcases static_keeps_iff frame definitions state previous legible with ⟨bound, keeps⟩
      refine ⟨bound, fun rounds enough => ?_⟩
      change Keeps _ _ (parseDeclaration _ _ (state.facing previous (frame.keyword :: _))) <-> _
      rw [parseDeclaration_facing _ _ _ _ _ _ frame.isKeyword noConfusion]
      exact keeps rounds enough
  | globals frame definitions =>
      refine ⟨definitions.length + 1, fun rounds enough => ?_⟩
      change Keeps _ _ (parseDeclaration _ _ (state.facing previous (frame.keyword :: _))) <-> _
      rw [parseDeclaration_facing _ _ _ _ _ _ frame.isKeyword noConfusion]
      exact globals_keeps_iff frame definitions state previous legible enough

/-- For a block with any number of definitions in front of any tokens: the parser
returns a declaration with all of them or reports an error exactly when the block
fits, and the loop of `parse_program` adds the declaration that it returns. -/
theorem block_keeps_iff (block : Block rounding) (state : ParserState) (previous : Token)
    (after : List Token) (legible : Legible after) :
    exists bound, forall rounds, bound ≤ rounds ->
      (Keeps block.meaning state.errors
        (parseDeclaration (callees rounding Observer.none rounds) rounds
          (state.facing previous (block.before after))) <-> block.Fits) ∧
      forall declaration final,
        parseDeclaration (callees rounding Observer.none rounds) rounds
          (state.facing previous (block.before after)) = .done declaration final ->
        programRound (callees rounding Observer.none rounds) rounds
          (state.facing previous (block.before after)) = .done ([declaration], true) final := by
  rcases block_fits_iff block state previous after legible with ⟨bound, fits⟩
  refine ⟨bound, fun rounds enough => ⟨fits rounds enough, fun declaration final read => ?_⟩⟩
  exact programRound_adds _ rounds (block.before_starts state previous after) read

end Blocks

section Runs

/-- `MANIFEST $( A = 1; B = 2 $)`. -/
def twoManifests : List Token :=
  [⟨.manifestKeyword, "MANIFEST".toList, 1, 1⟩, ⟨.leftBrace, "$(".toList, 1, 10⟩,
    ⟨.identifier, ['A'], 1, 13⟩, ⟨.equal, ['='], 1, 15⟩, ⟨.numberLiteral, ['1'], 1, 17⟩,
    ⟨.semicolon, [';'], 1, 18⟩, ⟨.identifier, ['B'], 1, 20⟩, ⟨.equal, ['='], 1, 22⟩,
    ⟨.numberLiteral, ['2'], 1, 24⟩, ⟨.rightBrace, "$)".toList, 1, 26⟩]

/-- The second definition vanishes without an error. -/
theorem twoManifests_drops :
    exists final, final.errors = [] ∧ forall rounds,
      parseProgram noDoubles Observer.none (rounds + 12) twoManifests Token.blank =
        .done { declarations := [some (.manifestDeclaration ['A'] 1)] } final :=
  ⟨_, rfl, fun _ => rfl⟩

/-- `MANIFEST $( A = 1 $)`. -/
def oneManifest : Block noDoubles :=
  .manifest ⟨⟨.manifestKeyword, [], 1, 1⟩, ⟨.leftBrace, [], 1, 10⟩, ⟨.rightBrace, [], 1, 19⟩,
      rfl, rfl, rfl⟩
    [⟨⟨.identifier, ['A'], 1, 13⟩, ⟨.equal, ['='], 1, 15⟩, ⟨.numberLiteral, ['1'], 1, 17⟩,
      ⟨⟨.semicolon, [], 1, 18⟩, .inl rfl⟩, .decimal ⟨['1'], rfl, List.cons_ne_nil _ _⟩,
      rfl, rfl, rfl, rfl⟩]

/-- The theorem on a block with one definition at the end of the text. -/
theorem block_keeps_oneManifest :
    exists bound, forall rounds, bound ≤ rounds ->
      (Keeps oneManifest.meaning []
        (parseDeclaration (callees noDoubles Observer.none rounds) rounds
          ((ParserState.initial [] Token.blank).facing Token.blank (oneManifest.before []))) <->
      oneManifest.Fits) := by
  rcases block_keeps_iff oneManifest (ParserState.initial [] Token.blank) Token.blank []
    noConfusion with ⟨bound, keeps⟩
  exact ⟨bound, fun rounds enough => (keeps rounds enough).1⟩

end Runs

end Parsing
end NewBcpl
