import NewBcpl.Parsing.ProgramParser

namespace NewBcpl
namespace Parsing

open Parse

/-!
# Reading a known list of tokens

A state that stands in front of given tokens, and what the primitive operations do
there. As long as no lexical error comes next, reading a token changes nothing but
the place in the list.
-/

/-- The type of the first token of a list, and the end of the text without one. -/
def nextType (tokens : List Token) : TokenType :=
  match tokens with
  | [] => .eof
  | token :: _ => token.type

/-- A lexical error does not come next. -/
def Legible (tokens : List Token) : Prop := nextType tokens ≠ .error

/-- The state in front of the given tokens, after the given token. -/
def ParserState.facing (state : ParserState) (previous : Token) (tokens : List Token) :
    ParserState :=
  { state with
    previous := previous
    current := tokens.headD { state.ending with type := .eof }
    rest := tokens.tail
    ending := { state.ending with type := .eof } }

section Facing

variable (state : ParserState) (previous token : Token) (tokens : List Token)

@[simp] theorem facing_errors : (state.facing previous tokens).errors = state.errors := rfl

@[simp] theorem facing_fatal : (state.facing previous tokens).fatal = state.fatal := rfl

@[simp] theorem facing_previous : (state.facing previous tokens).previous = previous := rfl

@[simp] theorem facing_current_type :
    (state.facing previous tokens).current.type = nextType tokens := by
  cases tokens <;> rfl

@[simp] theorem facing_current_cons :
    (state.facing previous (token :: tokens)).current = token := rfl

theorem facing_advance (legible : Legible tokens) :
    (state.facing previous (token :: tokens)).advance = state.facing token tokens := by
  cases tokens with
  | nil => rfl
  | cons next rest =>
      have readable : next.type ≠ .error := legible
      unfold ParserState.advance
      change ParserState.takeToken _ (next :: rest) = _
      unfold ParserState.takeToken
      rw [if_neg readable]
      rfl

theorem facing_isAtEnd :
    (state.facing previous tokens).isAtEnd = (nextType tokens == .eof) := by
  unfold ParserState.isAtEnd
  rw [facing_current_type]

theorem facing_check (type : TokenType) :
    (state.facing previous tokens).check type =
      (nextType tokens != .eof && nextType tokens == type) := by
  unfold ParserState.check
  rw [facing_isAtEnd, facing_current_type]
  cases ended : nextType tokens == .eof <;> simp [bne, ended]

theorem facing_check_self {type : TokenType} (isType : token.type = type)
    (notEnd : type ≠ .eof) : (state.facing previous (token :: tokens)).check type = true := by
  rw [facing_check]
  simp [nextType, isType, notEnd]

theorem facing_check_other {type : TokenType} (isOther : nextType tokens ≠ type) :
    (state.facing previous tokens).check type = false := by
  rw [facing_check]
  simp [isOther]

variable {state previous token tokens}

theorem advance_facing (legible : Legible tokens) :
    advance (state.facing previous (token :: tokens)) = .done () (state.facing token tokens) := by
  unfold advance
  rw [facing_advance state previous token tokens legible]

theorem consume_facing {type : TokenType} (isType : token.type = type) (notEnd : type ≠ .eof)
    (legible : Legible tokens) (message : String) :
    consume type message (state.facing previous (token :: tokens)) =
      .done () (state.facing token tokens) := by
  unfold consume
  rw [if_pos (facing_check_self state previous token tokens isType notEnd),
    facing_advance state previous token tokens legible]

/-- A missing token is reported. -/
theorem consume_missing {type : TokenType} (isOther : nextType tokens ≠ type)
    (message : String) :
    exists final, consume type message (state.facing previous tokens) = .thrown final ∧
      final.errors ≠ state.errors := by
  unfold consume
  rw [facing_check_other state previous tokens isOther]
  exact ⟨_, rfl, by simp [ParserState.error]⟩

theorem matchToken_facing {type : TokenType} (isType : token.type = type)
    (notEnd : type ≠ .eof) (legible : Legible tokens) :
    matchToken type (state.facing previous (token :: tokens)) =
      .done true (state.facing token tokens) := by
  unfold matchToken
  rw [if_pos (facing_check_self state previous token tokens isType notEnd),
    facing_advance state previous token tokens legible]

theorem matchToken_other {type : TokenType} (isOther : nextType tokens ≠ type) :
    matchToken type (state.facing previous tokens) =
      .done false (state.facing previous tokens) := by
  unfold matchToken
  rw [facing_check_other state previous tokens isOther]
  rfl

theorem parseName_facing (isName : token.type = .identifier) (legible : Legible tokens)
    (message : String) :
    parseName message (state.facing previous (token :: tokens)) =
      .done token.value (state.facing token tokens) := by
  unfold parseName
  rw [bind_done (show look _ = _ from rfl),
    bind_done (consume_facing isName TokenType.noConfusion legible message)]
  rfl

theorem parseName_missing (isOther : nextType tokens ≠ .identifier) (message : String) :
    exists final, parseName message (state.facing previous tokens) = .thrown final ∧
      final.errors ≠ state.errors := by
  have missing : exists final,
      consume .identifier message (state.facing previous tokens) = .thrown final ∧
        final.errors ≠ state.errors := consume_missing isOther message
  rcases missing with ⟨final, thrown, reported⟩
  refine ⟨final, ?_, reported⟩
  unfold parseName
  rw [bind_done (show look _ = _ from rfl), bind_thrown thrown]

end Facing

end Parsing
end NewBcpl
