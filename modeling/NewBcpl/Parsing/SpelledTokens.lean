import NewBcpl.Parsing.ConcreteSyntax
import NewBcpl.Parsing.TokenReading

namespace NewBcpl
namespace Parsing

open Parse

/-!
# Functions that take a known list of tokens

A function takes a list of tokens in front of a type when it reads exactly these tokens,
whatever of that type comes behind them, and returns the given value without an error.
What a sequence of functions takes is put together from what its parts take.
-/

/-- The lexer gave no error. -/
def Readable (tokens : List Token) : Prop :=
  forall token, token ∈ tokens -> token.type ≠ .error

/-- The function reads exactly the tokens, if no error is among them, and returns the
value. -/
def Takes {Value : Type} (function : Parse Value) (tokens : List Token) (next : TokenType)
    (value : Value) : Prop :=
  forall (state : ParserState) (previous : Token) (rest : List Token),
    state.fatal = false -> nextType rest = next -> next ≠ .error -> Readable tokens ->
      exists last, function (state.facing previous (tokens ++ rest)) =
        .done value (state.facing last rest)

section First

variable {tokens rest : List Token} {token : Token} {next : TokenType}

@[simp] theorem firstType_nil : firstType [] next = next := rfl

@[simp] theorem firstType_cons : firstType (token :: tokens) next = token.type := rfl

@[simp] theorem nextType_cons : nextType (token :: tokens) = token.type := rfl

theorem nextType_append (follows : nextType rest = next) :
    nextType (tokens ++ rest) = firstType tokens next := by
  cases tokens with
  | nil => exact follows
  | cons token tokens => rfl

/-- A phrase in front of a token of a known type. -/
theorem firstType_upTo {type : TokenType} (isType : token.type = type) (first : List Token) :
    firstType (first ++ token :: rest) next = firstType first type := by
  cases first with
  | nil => exact isType
  | cons other first => rfl

theorem firstType_append (other : List Token) :
    firstType (tokens ++ other) next = firstType tokens (firstType other next) := by
  cases tokens <;> rfl

theorem readable_nil : Readable [] := fun _ member => absurd member List.not_mem_nil

theorem readable_cons : Readable (token :: tokens) <-> token.type ≠ .error ∧ Readable tokens :=
  List.forall_mem_cons

theorem readable_append : Readable (tokens ++ rest) <-> Readable tokens ∧ Readable rest :=
  List.forall_mem_append

theorem Readable.first (readable : Readable tokens) (legible : next ≠ .error) :
    firstType tokens next ≠ .error := by
  cases tokens with
  | nil => exact legible
  | cons token tokens => exact (readable_cons.mp readable).1

theorem legible_of (follows : nextType rest = next) (legible : next ≠ .error) : Legible rest := by
  unfold Legible
  rw [follows]
  exact legible

end First

namespace Takes

variable {First Second : Type} {function : Parse First} {after : First -> Parse Second}
  {tokens first rest : List Token} {token : Token} {type next : TokenType} {value : First}
  {result : Second}

theorem pure : Takes (Pure.pure value) [] next value := by
  intro state previous rest clean follows legible readable
  exact ⟨previous, rfl⟩

/-- One function after another. -/
theorem bind (read : Takes function first (firstType rest next) value)
    (goesOn : Takes (after value) rest next result) :
    Takes (function >>= after) (first ++ rest) next result := by
  intro state previous behind clean follows legible readable
  rcases readable_append.mp readable with ⟨readableFirst, readableRest⟩
  rcases read state previous (rest ++ behind) clean (nextType_append follows)
    (readableRest.first legible) readableFirst with ⟨middle, taken⟩
  rcases goesOn state middle behind clean follows legible readableRest with ⟨last, done⟩
  refine ⟨last, ?_⟩
  rw [List.append_assoc, bind_done taken]
  exact done

/-- A function of one token in front of another function. -/
theorem cons (read : Takes function [token] (firstType rest next) value)
    (goesOn : Takes (after value) rest next result) :
    Takes (function >>= after) (token :: rest) next result := bind read goesOn

/-- A function of the tokens in front of a token of a known type. -/
theorem upTo (isType : token.type = type) (read : Takes function first type value)
    (goesOn : Takes (after value) (token :: rest) next result) :
    Takes (function >>= after) (first ++ token :: rest) next result := by
  subst isType
  exact bind read goesOn

/-- A function behind which nothing is read. -/
theorem last (read : Takes function tokens next value)
    (goesOn : Takes (after value) [] next result) :
    Takes (function >>= after) tokens next result := by
  have together : Takes (function >>= after) (tokens ++ []) next result := bind read goesOn
  rw [List.append_nil] at together
  exact together

/-- A function that reads nothing in front of another. -/
theorem still (read : Takes function [] (firstType tokens next) value)
    (goesOn : Takes (after value) tokens next result) :
    Takes (function >>= after) tokens next result := bind read goesOn

theorem advance : Takes Parsing.advance [token] next () := by
  intro state previous rest clean follows legible readable
  exact ⟨token, advance_facing (legible_of follows legible)⟩

/-- A token of the expected type in front of another function. -/
theorem consume {after : Unit -> Parse Second} {message : String} (isType : token.type = type)
    (notEnd : type ≠ .eof) (goesOn : Takes (after ()) rest next result) :
    Takes (Parsing.consume type message >>= after) (token :: rest) next result := by
  refine cons ?_ goesOn
  intro state previous rest clean follows legible readable
  exact ⟨token, consume_facing isType notEnd (legible_of follows legible) message⟩

/-- A closing token behind what has been read. -/
theorem closing {message : String} (isType : token.type = type) (notEnd : type ≠ .eof) :
    Takes (Parsing.consume type message >>= fun _ => Pure.pure value) [token] next value :=
  consume isType notEnd pure

theorem matched (isType : token.type = type) (notEnd : type ≠ .eof) :
    Takes (matchToken type) [token] next true := by
  intro state previous rest clean follows legible readable
  exact ⟨token, matchToken_facing isType notEnd (legible_of follows legible)⟩

theorem unmatched (isOther : next ≠ type) : Takes (matchToken type) [] next false := by
  intro state previous rest clean follows legible readable
  exact ⟨previous, matchToken_other (follows.trans_ne isOther)⟩

/-- A token of another type is left for what comes next. -/
theorem passes {after : Bool -> Parse Second} {other : TokenType} (isOther : token.type = other)
    (differs : other ≠ type) (goesOn : Takes (after false) (token :: rest) next result) :
    Takes (matchToken type >>= after) (token :: rest) next result :=
  still (unmatched (isOther.trans_ne differs)) goesOn

theorem checks (notEnd : type ≠ .eof) : Takes (check type) [] next (next == type) := by
  intro state previous rest clean follows legible readable
  refine ⟨previous, ?_⟩
  have found : (state.facing previous rest).check type = (next == type) := by
    rw [facing_check, follows]
    by_cases same : next = type
    · simp [same, notEnd]
    · simp [same]
  change Outcome.done ((state.facing previous rest).check type) _ = _
  rw [found]
  rfl

theorem checked (isType : next = type) (notEnd : type ≠ .eof) :
    Takes (check type) [] next true := by
  have found : (next == type) = true := beq_iff_eq.mpr isType
  rw [<- found]
  exact checks notEnd

theorem unchecked (isOther : next ≠ type) (notEnd : type ≠ .eof) :
    Takes (check type) [] next false := by
  have missing : (next == type) = false := beq_false_of_ne isOther
  rw [<- missing]
  exact checks notEnd

theorem parseName {message : String} (isName : token.type = .identifier) :
    Takes (Parsing.parseName message) [token] next token.value := by
  intro state previous rest clean follows legible readable
  exact ⟨token, parseName_facing isName (legible_of follows legible) message⟩

/-- A function of the state whose tokens are known. -/
theorem look {after : ParserState -> Parse Second}
    (goesOn : forall (state : ParserState) (previous : Token) (behind : List Token),
      state.fatal = false -> nextType behind = next ->
        Takes (after (state.facing previous (tokens ++ behind))) tokens next result) :
    Takes (Parse.look >>= after) tokens next result := by
  intro state previous behind clean follows legible readable
  exact goesOn state previous behind clean follows state previous behind clean follows legible
    readable

end Takes

/-- `repeated` on items with separators between them: an item with a separator behind
it, and the last item. -/
theorem repeated_last {Value : Type} {again : Parse Bool} {item : Parse Value}
    {tokens : List Token} {next : TokenType} {value : Value}
    (read : Takes item tokens next value) (ends : Takes again [] next false) (rounds : Nat) :
    Takes (repeated again item (rounds + 1)) tokens next [value] := by
  unfold repeated
  exact .last read (.last ends .pure)

theorem repeated_more {Value : Type} {again : Parse Bool} {item : Parse Value}
    {first rest : List Token} {separator : Token} {next : TokenType} {value : Value}
    {values : List Value} {rounds : Nat}
    (read : Takes item first separator.type value)
    (separates : Takes again [separator] (firstType rest next) true)
    (others : Takes (repeated again item rounds) rest next values) :
    Takes (repeated again item (rounds + 1)) (first ++ separator :: rest) next
      (value :: values) := by
  unfold repeated
  exact .bind read (.cons separates (.last others .pure))

end Parsing
end NewBcpl
