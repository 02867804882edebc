import NewBcpl.Foundations.LongestMatch
import NewBcpl.Parsing.Lexer
import NewBcpl.Parsing.NumberNotations

namespace NewBcpl
namespace Parsing

open Foundations.LongestMatch

/-!
# Lexemes and gaps

The pieces that a source is cut into: blanks and comments, which are skipped, and the
texts of the tokens. The rules say what the pieces are and leave open where one ends;
that the longest one is taken is the rule of the lexicon. `!` and `%` are read by
whether a value stands in front of them.
-/

/-- The texts of words. -/
def IsWord : List Char -> Prop
  | [] => False
  | char :: rest => startsWord char = true ∧ rest.all isWordChar = true

/-- What stands between the quotes of a string, and the text it denotes. A `*` in front
of a character that it does not escape stands for itself. -/
inductive StringBody : List Char -> List Char -> Prop
  | nothing : StringBody [] []
  | escape {char meant body value} : stringEscape char = some meant ->
      StringBody body value -> StringBody ('*' :: char :: body) (meant :: value)
  | star {char body value} : stringEscape char = none -> StringBody (char :: body) value ->
      StringBody ('*' :: char :: body) ('*' :: value)
  | plain {char body value} : char ≠ '"' -> char ≠ '*' -> StringBody body value ->
      StringBody (char :: body) (char :: value)

/-- What stands between the quotes of a character, and the character it denotes. -/
inductive CharBody : List Char -> Char -> Prop
  | newline {char} : char = 'n' ∨ char = 'N' -> CharBody ['*', char] '\n'
  | escape {char} : ¬ (char = 'n' ∨ char = 'N') -> CharBody ['*', char] char
  | plain {char} : char ≠ '*' -> char ≠ '\'' -> CharBody [char] char

/-- What may stand behind the first character of a symbol. A `#` begins a number
wherever it stands, so the operator that `scan_operator` has for it is never found. -/
def symbols (lastTokenWasValue : Bool) (char : Char) : List (List Char × TokenType) :=
  if char = '{' then [([], .leftBrace)]
  else if char = '}' then [([], .rightBrace)]
  else if char = '$' then [(['('], .leftBrace), ([')'], .rightBrace)]
  else if char = '#' then []
  else operators lastTokenWasValue char

/-- What a lexeme is read as. -/
structure Reading where
  type : TokenType
  value : List Char
  keepsColumn : Bool

/-- The texts of tokens. -/
inductive Lexeme (lastTokenWasValue : Bool) : List Char -> Reading -> Prop
  | word {text} : IsWord text -> Lexeme lastTokenWasValue text ⟨wordType text, text, true⟩
  | number (token : NumericToken) :
      Lexeme lastTokenWasValue token.text ⟨.numberLiteral, token.text, true⟩
  | string {body value} : StringBody body value ->
      Lexeme lastTokenWasValue ('"' :: (body ++ ['"'])) ⟨.stringLiteral, value, true⟩
  | character {body value} : CharBody body value ->
      Lexeme lastTokenWasValue ('\'' :: (body ++ ['\''])) ⟨.charLiteral, [value], true⟩
  | symbol {char rest type} : (rest, type) ∈ symbols lastTokenWasValue char ->
      Lexeme lastTokenWasValue (char :: rest) ⟨type, [], false⟩

/-- What is skipped, in front of the rest of the text. -/
inductive Gap : List Char -> List Char -> Prop
  | blank {char rest} : isSpace char = true -> Gap [char] rest
  | line {body rest} : '\n' ∉ body -> rest.head?.all (· == '\n') = true ->
      Gap ('/' :: '/' :: body) rest
  | block {body rest} : ¬ ['*', '/'] <:+: body ++ ['*'] ->
      Gap ('/' :: '*' :: (body ++ ['*', '/'])) rest
  | unclosed {body} : ¬ ['*', '/'] <:+: body -> Gap ('/' :: '*' :: body) []

/-- The pieces of a source; a token decides how `!` and `%` are read behind it. -/
def lexicon : Lexicon Char Bool (Option Reading) where
  IsPiece lastTokenWasValue text rest kind :=
    match kind with
    | none => Gap text rest
    | some reading => Lexeme lastTokenWasValue text reading
  next lastTokenWasValue kind :=
    match kind with
    | none => lastTokenWasValue
    | some reading => isValue reading.type

/-- The line behind a text. -/
def lineBehind (before : List Char) : Nat := 1 + before.count '\n'

/-- The column behind a text. -/
def columnBehind (before : List Char) : Nat :=
  1 + (before.reverse.takeWhile (· != '\n')).length

/-- The token of a piece. -/
def tokenOf (piece : Foundations.LongestMatch.Piece Char (Option Reading)) : Option Token :=
  piece.kind.map fun reading =>
    { type := reading.type
      value := reading.value
      line := lineBehind (piece.before ++ piece.text)
      column :=
        if reading.keepsColumn then columnBehind piece.before
        else columnBehind (piece.before ++ piece.text) }

end Parsing
end NewBcpl
