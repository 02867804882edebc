import NewBcpl.Parsing.Tokens

namespace NewBcpl
namespace Parsing

/-!
# The state of the parser and its primitive operations

The parser reads tokens one by one, keeps the last two, and collects its error
messages. Its functions return, throw the error that `parse_program` catches, let
another exception through, or run forever; the last is the value they have when
no number of rounds is enough. An observer of a run can halt it, which the parser
itself never does.
-/

/-- The exceptions that `parse_program` does not catch: `std::logic_error` and the
two that the number conversions of the library throw. -/
inductive Escape where
  | logicError
  | invalidArgument
  | outOfRange
  deriving DecidableEq, Repr

/-- The members of `Parser` that change, with the tokens that the lexer has yet to
give. At the end of the text the lexer gives the same token again and again. -/
structure ParserState where
  current : Token
  previous : Token
  rest : List Token
  ending : Token
  errors : List String
  fatal : Bool

/-- The two places of the parser at which a run can be observed. -/
inductive Place where
  | blockDeclaration
  | skipToBrace
  deriving DecidableEq, Repr

/-- What a function of the parser does. -/
inductive Outcome (Value : Type) where
  | done (value : Value) (state : ParserState)
  | thrown (state : ParserState)
  | escaped (exception : Escape) (state : ParserState)
  | halted (place : Place) (state : ParserState)
  | exhausted

/-- A function of the parser. -/
abbrev Parse (Value : Type) : Type := ParserState -> Outcome Value

namespace Parse

variable {First Second : Type}

/-- A function that returns without reading anything. -/
def give (value : First) : Parse First := fun state => .done value state

/-- One function after another. -/
def andThen (first : Parse First) (next : First -> Parse Second) : Parse Second :=
  fun state =>
    match first state with
    | .done value middle => next value middle
    | .thrown final => .thrown final
    | .escaped exception final => .escaped exception final
    | .halted place final => .halted place final
    | .exhausted => .exhausted

instance : Monad Parse where
  pure := give
  bind := andThen

section Binding

variable {first : Parse First} {next : First -> Parse Second} {state middle : ParserState}

theorem bind_done {value : First} (step : first state = .done value middle) :
    (first >>= next) state = next value middle := by
  change andThen first next state = _
  unfold andThen
  rw [step]

theorem bind_thrown (step : first state = .thrown middle) :
    (first >>= next) state = .thrown middle := by
  change andThen first next state = _
  unfold andThen
  rw [step]

theorem bind_escaped {exception : Escape} (step : first state = .escaped exception middle) :
    (first >>= next) state = .escaped exception middle := by
  change andThen first next state = _
  unfold andThen
  rw [step]

theorem bind_halted {place : Place} (step : first state = .halted place middle) :
    (first >>= next) state = .halted place middle := by
  change andThen first next state = _
  unfold andThen
  rw [step]

theorem bind_exhausted (step : first state = .exhausted) :
    (first >>= next) state = .exhausted := by
  change andThen first next state = _
  unfold andThen
  rw [step]

end Binding

/-- A loop that has no rounds left. -/
def outOfRounds : Parse First := fun _ => .exhausted

/-- The current state. -/
def look : Parse ParserState := fun state => .done state state

end Parse

namespace ParserState

/-- `is_at_end`. -/
def isAtEnd (state : ParserState) : Bool := state.current.type == .eof

/-- `check`. -/
def check (state : ParserState) (type : TokenType) : Bool :=
  if state.isAtEnd then false else state.current.type == type

/-- `error`: the message with the position of the previous token. -/
def error (state : ParserState) (message : String) : ParserState :=
  { state with
    errors := state.errors ++
      ["[L" ++ toString state.previous.line ++ " C" ++ toString state.previous.column ++
        "] Error: " ++ message]
    fatal := true }

/-- The loop of `advance`: lexical errors are reported and passed over. -/
def takeToken (state : ParserState) : List Token -> ParserState
  | [] => { state with current := state.ending, rest := [] }
  | token :: rest =>
      if token.type = .error then
        (state.error ("Lexical error: " ++ String.ofList token.value)).takeToken rest
      else { state with current := token, rest := rest }

/-- `advance`. -/
def advance (state : ParserState) : ParserState :=
  { state with previous := state.current }.takeToken state.rest

/-- `lexer_.peek().type`. -/
def peekType (state : ParserState) : TokenType :=
  match state.rest with
  | [] => state.ending.type
  | token :: _ => token.type

/-- A parser before its first token: no token has been read, so the members that
hold tokens have no text. -/
def initial (tokens : List Token) (ending : Token) : ParserState :=
  { current := Token.blank, previous := Token.blank, rest := tokens, ending := ending,
    errors := [], fatal := false }

end ParserState

open Parse

/-- `advance()`. -/
def advance : Parse Unit := fun state => .done () state.advance

/-- `check(type)`. -/
def check (type : TokenType) : Parse Bool := fun state => .done (state.check type) state

/-- `is_at_end()`. -/
def isAtEnd : Parse Bool := fun state => .done state.isAtEnd state

/-- `error(message)`. -/
def error (message : String) : Parse Unit := fun state => .done () (state.error message)

/-- `match(type)`. -/
def matchToken (type : TokenType) : Parse Bool := fun state =>
  if state.check type then .done true state.advance else .done false state

/-- `consume(expected, message)`. -/
def consume (expected : TokenType) (message : String) : Parse Unit := fun state =>
  if state.check expected then .done () state.advance
  else
    .thrown (state.error ("Expected token " ++ expected.text ++ " but got " ++
      state.current.type.text ++ ". " ++ message))

/-- An exception that the parser does not throw itself. -/
def escape {Value : Type} (exception : Escape) : Parse Value :=
  fun state => .escaped exception state

end Parsing
end NewBcpl
