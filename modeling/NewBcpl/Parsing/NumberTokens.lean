import Mathlib.Algebra.Ring.Int.Defs
import Mathlib.Data.List.TakeWhile
import NewBcpl.Parsing.ParserState

namespace NewBcpl
namespace Parsing

/-!
# Numeric tokens and their conversions

`Lexer::scan_number` on the characters that are left, and the three library
conversions that the parser applies to the text of a token. Each conversion reads
the longest prefix it understands and ignores the rest; without a prefix, or
outside its range, it throws.
-/

/-- `std::isxdigit`. -/
def isHexDigit (char : Char) : Bool :=
  char.isDigit || ('a' ≤ char && char ≤ 'f') || ('A' ≤ char && char ≤ 'F')

/-- The octal digits. -/
def isOctalDigit (char : Char) : Bool := '0' ≤ char && char ≤ '7'

/-- A run of characters: what is added to the text, and what is left. -/
def scanRun (accepts : Char -> Bool) (input : List Char) : List Char × List Char :=
  (input.takeWhile accepts, input.dropWhile accepts)

/-- A fraction, if a point comes next. -/
def scanFraction : List Char -> List Char × List Char
  | '.' :: rest =>
      let digits := scanRun Char.isDigit rest
      ('.' :: digits.1, digits.2)
  | input => ([], input)

/-- The sign of an exponent. -/
def scanSign : List Char -> List Char × List Char
  | '+' :: rest => (['+'], rest)
  | '-' :: rest => (['-'], rest)
  | input => ([], input)

/-- The sign and the digits of an exponent. -/
def scanExponentDigits (input : List Char) : List Char × List Char :=
  let sign := scanSign input
  let digits := scanRun Char.isDigit sign.2
  (sign.1 ++ digits.1, digits.2)

/-- An exponent, if its letter comes next. -/
def scanExponent : List Char -> List Char × List Char
  | 'e' :: rest =>
      let exponent := scanExponentDigits rest
      ('e' :: exponent.1, exponent.2)
  | 'E' :: rest =>
      let exponent := scanExponentDigits rest
      ('E' :: exponent.1, exponent.2)
  | input => ([], input)

/-- `scan_number`: the text of the token and the characters after it. -/
def scanNumber : List Char -> List Char × List Char
  | '#' :: 'X' :: rest =>
      let digits := scanRun isHexDigit rest
      ('#' :: 'X' :: digits.1, digits.2)
  | '#' :: 'x' :: rest =>
      let digits := scanRun isHexDigit rest
      ('#' :: 'x' :: digits.1, digits.2)
  | '#' :: rest =>
      let digits := scanRun isOctalDigit rest
      ('#' :: digits.1, digits.2)
  | input =>
      let digits := scanRun Char.isDigit input
      let fraction := scanFraction digits.2
      let exponent := scanExponent fraction.2
      (digits.1 ++ fraction.1 ++ exponent.1, exponent.2)

/-- The dispatch of `get_next_token` to `scan_number`. -/
def startsNumber : List Char -> Bool
  | char :: _ => char.isDigit || char == '#'
  | [] => false

/-- `std::isspace`. -/
def isSpace (char : Char) : Bool :=
  char == ' ' || char == '\t' || char == '\n' || char == '\x0b' || char == '\x0c' ||
    char == '\r'

/-- The value of a run of decimal digits. -/
def decimalValue (digits : List Char) : Nat := Nat.ofDigitChars 10 digits 0

/-- The sign that a conversion reads: whether it is a minus, and what is left. -/
def readSign : List Char -> Bool × List Char
  | '-' :: rest => (true, rest)
  | '+' :: rest => (false, rest)
  | text => (false, text)

/-- The number at the start of a text, in the base ten. -/
def readInteger (text : List Char) : Option Int :=
  let signed := readSign (text.dropWhile isSpace)
  match signed.2.takeWhile Char.isDigit with
  | [] => none
  | digits => some (if signed.1 then -(decimalValue digits : Int) else decimalValue digits)

/-- A conversion to a signed integer of the given number of bits. -/
def toSigned (bits : Nat) (text : List Char) : Except Escape Int :=
  match readInteger text with
  | none => .error .invalidArgument
  | some value =>
      if -(2 : Int) ^ (bits - 1) ≤ value ∧ value < (2 : Int) ^ (bits - 1) then .ok value
      else .error .outOfRange

/-- `std::stoll`. -/
def stoll : List Char -> Except Escape Int := toSigned 64

/-- `std::stoi`. -/
def stoi : List Char -> Except Escape Int := toSigned 32

/-- The double for a decimal number, given by its digits without the point and the
power of ten they are scaled by; none where the library reports a range error. -/
abbrev Rounding : Type := Bool -> Nat -> Int -> Option Float

/-- The digits after a point, if one comes next. -/
def readFraction : List Char -> List Char × List Char
  | '.' :: rest => (rest.takeWhile Char.isDigit, rest.dropWhile Char.isDigit)
  | text => ([], text)

/-- The exponent at the start of a text. Without digits the letter and the sign
are not part of the number. -/
def readExponent : List Char -> Int
  | letter :: rest =>
      if letter = 'e' ∨ letter = 'E' then
        let signed := readSign rest
        let magnitude : Int := decimalValue (signed.2.takeWhile Char.isDigit)
        if signed.1 then -magnitude else magnitude
      else 0
  | [] => 0

/-- `std::stod` on a text in decimal notation. -/
def stod (rounding : Rounding) (text : List Char) : Except Escape Float :=
  let signed := readSign (text.dropWhile isSpace)
  let whole := signed.2.takeWhile Char.isDigit
  let fraction := readFraction (signed.2.dropWhile Char.isDigit)
  match whole ++ fraction.1 with
  | [] => .error .invalidArgument
  | digits =>
      match rounding signed.1 (decimalValue digits)
          (readExponent fraction.2 - fraction.1.length) with
      | some value => .ok value
      | none => .error .outOfRange

end Parsing
end NewBcpl
