import NewBcpl.Parsing.NumberTokens

namespace NewBcpl
namespace Parsing

/-!
# The lexer

`Lexer` on the characters that it has not passed yet. A scanning function gives the
type and the text of a token and the characters behind it; the position follows from
the characters between. Words, literals and numbers keep the column they start at, all
other tokens and every error have the position behind them.
-/

/-- `keywords_`. -/
def keywords : List (String × TokenType) :=
  [("LET", .letKeyword), ("MANIFEST", .manifestKeyword), ("STATIC", .staticKeyword),
    ("FSTATIC", .fstaticKeyword), ("GLOBAL", .globalKeyword),
    ("FUNCTION", .functionKeyword), ("ROUTINE", .routineKeyword), ("AND", .logicalAnd),
    ("NOT", .logicalNot), ("VEC", .vecKeyword), ("IF", .ifKeyword), ("FVEC", .fvecKeyword),
    ("UNLESS", .unlessKeyword), ("TEST", .testKeyword), ("WHILE", .whileKeyword),
    ("UNTIL", .untilKeyword), ("REPEAT", .repeatKeyword), ("FOR", .forKeyword),
    ("FOREACH", .forEachKeyword), ("IN", .inKeyword), ("SWITCHON", .switchonKeyword),
    ("CASE", .caseKeyword), ("DEFAULT", .defaultKeyword), ("GOTO", .gotoKeyword),
    ("RETURN", .returnKeyword), ("FINISH", .finishKeyword), ("FLOAT", .floatKeyword),
    ("FLET", .fletKeyword), ("FSQRT", .fsqrtKeyword), ("ENTIER", .entierKeyword),
    ("TRUNC", .truncKeyword), ("LOOP", .loopKeyword), ("ENDCASE", .endcaseKeyword),
    ("RESULTIS", .resultisKeyword), ("VALOF", .valofKeyword), ("FVALOF", .fvalofKeyword),
    ("BE", .beKeyword), ("TO", .toKeyword), ("BY", .byKeyword), ("INTO", .intoKeyword),
    ("DO", .doKeyword), ("THEN", .thenKeyword), ("ELSE", .elseKeyword),
    ("FREEVEC", .freevecKeyword), ("FREELIST", .freevecKeyword), ("OR", .orKeyword),
    ("TRUE", .booleanLiteral), ("FALSE", .booleanLiteral), ("REM", .remainder),
    ("EQV", .equivalence), ("NEQV", .notEquivalence), ("BREAK", .breakKeyword),
    ("GET", .getKeyword), ("STRING", .stringKeyword), ("BRK", .brkKeyword),
    ("TABLE", .tableKeyword), ("FTABLE", .ftableKeyword), ("LEN", .lenKeyword),
    ("LIST", .listKeyword), ("MANIFESTLIST", .manifestListKeyword), ("HD", .hdKeyword),
    ("TL", .tlKeyword), ("TYPEOF", .typeOfKeyword), ("FIRST", .hdKeyword),
    ("REST", .restKeyword), ("CONCAT", .identifier), ("COPYLIST", .identifier),
    ("DEEPCOPYLIST", .identifier), ("FIND", .identifier), ("FILTER", .identifier),
    ("TYPE_INT", .typeInt), ("TYPE_FLOAT", .typeFloat), ("TYPE_STRING", .typeString),
    ("TYPE_LIST", .typeList), ("TYPE_VEC", .typeVec), ("TYPE_POINTER", .typePointer),
    ("TYPE_CONST", .typeConst), ("TYPE_ANY", .typeAny), ("TYPE_TABLE", .typeTable)]

/-- The type of a word: that of the keyword, and an identifier otherwise. -/
def wordType (word : List Char) : TokenType :=
  match keywords.find? fun keyword => keyword.1.toList == word with
  | some keyword => keyword.2
  | none => .identifier

/-- The characters of a word. -/
def isWordChar (char : Char) : Bool := char.isAlphanum || char == '_'

/-- The characters that a word begins with. -/
def startsWord (char : Char) : Bool := char.isAlpha || char == '_'

/-- What a scanning function finds: the type and the text of the token, the characters
behind it, and whether the token keeps the column it starts at. -/
structure Scan where
  type : TokenType
  value : List Char
  rest : List Char
  keepsColumn : Bool
  deriving DecidableEq, Repr

/-- `make_error_token`. -/
def Scan.error (message : String) (rest : List Char) : Scan :=
  { type := .error, value := message.toList, rest := rest, keepsColumn := false }

/-- `scan_identifier_or_keyword`. -/
def scanIdentifierOrKeyword (input : List Char) : Scan :=
  let word := scanRun isWordChar input
  { type := wordType word.1, value := word.1, rest := word.2, keepsColumn := true }

/-- `scan_number` as a token. -/
def scanNumberToken (input : List Char) : Scan :=
  let number := scanNumber input
  { type := .numberLiteral, value := number.1, rest := number.2, keepsColumn := true }

/-- What a character behind a `*` in a string stands for. -/
def stringEscape : Char -> Option Char
  | 'n' => some '\n' | 'N' => some '\n'
  | 't' => some '\t' | 'T' => some '\t'
  | 's' => some ' ' | 'S' => some ' '
  | 'b' => some '\x08' | 'B' => some '\x08'
  | 'p' => some '\x0c' | 'P' => some '\x0c'
  | 'c' => some '\r' | 'C' => some '\r'
  | '"' => some '"'
  | '*' => some '*'
  | _ => none

/-- The loop of `scan_string`: the text that is read, and what is left. -/
def scanStringBody : List Char -> List Char × List Char
  | [] => ([], [])
  | char :: rest =>
      if char = '"' then ([], char :: rest)
      else if char = '*' then
        match rest with
        | [] => (['*'], [])
        | escaped :: behind =>
            match stringEscape escaped with
            | some meant =>
                let body := scanStringBody behind
                (meant :: body.1, body.2)
            | none =>
                let body := scanStringBody (escaped :: behind)
                ('*' :: body.1, body.2)
      else
        let body := scanStringBody rest
        (char :: body.1, body.2)

/-- `scan_string`, behind the opening quote. -/
def scanString (input : List Char) : Scan :=
  let body := scanStringBody input
  match body.2 with
  | [] => .error "Unterminated string literal." []
  | _ :: rest =>
      { type := .stringLiteral, value := body.1, rest := rest, keepsColumn := true }

/-- The character that `scan_char` reads; at the end of the text it reads a zero. -/
def scanCharBody : List Char -> Char × List Char
  | [] => ('\x00', [])
  | '*' :: [] => ('\x00', [])
  | '*' :: escaped :: rest =>
      if escaped = 'n' ∨ escaped = 'N' then ('\n', rest) else (escaped, rest)
  | char :: rest => (char, rest)

/-- `scan_char`, behind the opening quote. -/
def scanChar (input : List Char) : Scan :=
  match input with
  | '\'' :: _ => .error "Empty character literal." input
  | _ =>
      let body := scanCharBody input
      match body.2 with
      | '\'' :: rest =>
          { type := .charLiteral, value := [body.1], rest := rest, keepsColumn := true }
      | rest => .error "Multi-character literal, or unterminated char literal." rest

/-- The operators that begin with a character: what has to stand behind it, in the
order in which `scan_operator` tries them. -/
def operators (lastTokenWasValue : Bool) : Char -> List (List Char × TokenType)
  | '(' => [([], .leftParen)]
  | ')' => [([], .rightParen)]
  | ',' => [([], .comma)]
  | ';' => [([], .semicolon)]
  | '@' => [([], .addressOf)]
  | '!' => [([], if lastTokenWasValue then .vecIndirection else .indirection)]
  | '%' =>
      [(['%'], .bitfield),
        ([], if lastTokenWasValue then .charVectorIndirection else .charIndirection)]
  | '&' => [(['&'], .logicalAnd), ([], .bitwiseAnd)]
  | '|' => [(['|'], .logicalOr), ([], .bitwiseOr)]
  | '+' => [(['#'], .floatPlus), ([], .plus)]
  | '*' => [(['#'], .floatMultiply), ([], .multiply)]
  | '/' => [(['#'], .floatDivide), ([], .divide)]
  | ':' => [(['='], .assign), ([], .colon)]
  | '~' => [(['=', '#'], .floatNotEqual), (['='], .notEqual), ([], .bitwiseNot)]
  | '<' =>
      [(['=', '#'], .floatLessEqual), (['='], .lessEqual), (['<'], .leftShift),
        (['#'], .floatLess), ([], .less)]
  | '>' =>
      [(['=', '#'], .floatGreaterEqual), (['='], .greaterEqual), (['>'], .rightShift),
        (['#'], .floatGreater), ([], .greater)]
  | '=' => [(['#'], .floatEqual), ([], .equal)]
  | '-' => [(['>'], .conditional), (['#'], .floatMinus), ([], .minus)]
  | '$' => [(['('], .leftBrace)]
  | '#' => [(['%'], .floatVecIndirection)]
  | _ => []

/-- The cases of `scan_operator` on the characters behind the first one. -/
def scanSymbol (lastTokenWasValue : Bool) (char : Char) (rest : List Char) : Scan :=
  match (operators lastTokenWasValue char).find? fun operator =>
      operator.1.isPrefixOf rest with
  | some operator =>
      { type := operator.2, value := [], rest := rest.drop operator.1.length
        keepsColumn := false }
  | none => .error ("Unexpected character: " ++ String.singleton char) rest

/-- `scan_operator`, with `OR` spelled out in front of the cases. -/
def scanOperator (lastTokenWasValue : Bool) (char : Char) (rest : List Char) : Scan :=
  if char = 'O' ∨ char = 'o' then
    match rest with
    | second :: behind =>
        if second = 'R' ∨ second = 'r' then
          if isWordChar (behind.headD '\x00') then scanSymbol lastTokenWasValue char behind
          else { type := .logicalOr, value := [], rest := behind, keepsColumn := false }
        else scanSymbol lastTokenWasValue char rest
    | [] => scanSymbol lastTokenWasValue char rest
  else scanSymbol lastTokenWasValue char rest

/-- The choice of `get_next_token` in front of a character. -/
def scanToken (lastTokenWasValue : Bool) (char : Char) (rest : List Char) : Scan :=
  if char = '$' ∧ rest.head? = some '(' then
    { type := .leftBrace, value := [], rest := rest.tail, keepsColumn := false }
  else if char = '$' ∧ rest.head? = some ')' then
    { type := .rightBrace, value := [], rest := rest.tail, keepsColumn := false }
  else if char = '{' then
    { type := .leftBrace, value := [], rest := rest, keepsColumn := false }
  else if char = '}' then
    { type := .rightBrace, value := [], rest := rest, keepsColumn := false }
  else if startsWord char then scanIdentifierOrKeyword (char :: rest)
  else if startsNumber (char :: rest) then scanNumberToken (char :: rest)
  else if char = '"' then scanString rest
  else if char = '\'' then scanChar rest
  else scanOperator lastTokenWasValue char rest

/-- What is behind a comment that closes with `*/`. -/
def skipBlockComment : List Char -> List Char
  | [] => []
  | char :: rest =>
      if char = '*' ∧ rest.head? = some '/' then rest.tail else skipBlockComment rest

/-- The loop of `skip_whitespace_and_comments`. -/
def skipRounds : Nat -> List Char -> List Char
  | 0, input => input
  | _ + 1, [] => []
  | rounds + 1, char :: rest =>
      if isSpace char then skipRounds rounds rest
      else if char = '/' ∧ rest.head? = some '/' then
        skipRounds rounds (rest.dropWhile (· != '\n'))
      else if char = '/' ∧ rest.head? = some '*' then
        skipRounds rounds (skipBlockComment rest.tail)
      else char :: rest

/-- `skip_whitespace_and_comments`; every round passes a character. -/
def skipWhitespaceAndComments (input : List Char) : List Char :=
  skipRounds input.length input

/-- The tokens behind which `!` and `%` are infix. -/
def isValue : TokenType -> Bool
  | .identifier | .numberLiteral | .stringLiteral | .charLiteral | .booleanLiteral
  | .rightParen | .rightBrace => true
  | _ => false

/-- The members of `Lexer`, with the characters behind `position_` in place of the
source. -/
structure LexerState where
  rest : List Char
  line : Nat
  column : Nat
  lastTokenWasValue : Bool
  deriving DecidableEq, Repr

namespace LexerState

/-- A lexer in front of a text. -/
def initial (source : List Char) : LexerState :=
  { rest := source, line := 1, column := 1, lastTokenWasValue := false }

/-- `advance`. -/
def advance (state : LexerState) : LexerState :=
  match state.rest with
  | [] => state
  | char :: rest =>
      if char = '\n' then { state with rest := rest, line := state.line + 1, column := 1 }
      else { state with rest := rest, column := state.column + 1 }

/-- A number of calls of `advance`. -/
def advances (state : LexerState) : Nat -> LexerState
  | 0 => state
  | count + 1 => state.advance.advances count

/-- `advance` up to the given rest. -/
def upTo (state : LexerState) (rest : List Char) : LexerState :=
  state.advances (state.rest.length - rest.length)

/-- `get_next_token` behind the blanks and the comments. -/
def takeToken (start : LexerState) : Token × LexerState :=
  match start.rest with
  | [] =>
      ({ type := .eof, value := [], line := start.line, column := start.column },
        { start with lastTokenWasValue := false })
  | char :: rest =>
      let scan := scanToken start.lastTokenWasValue char rest
      let final := start.upTo scan.rest
      ({ type := scan.type, value := scan.value, line := final.line
         column := if scan.keepsColumn then start.column else final.column },
        { final with lastTokenWasValue := isValue scan.type })

/-- `get_next_token`. -/
def getNextToken (state : LexerState) : Token × LexerState :=
  (state.upTo (skipWhitespaceAndComments state.rest)).takeToken

/-- The tokens up to the end of the text, and the token at the end. -/
def tokens : Nat -> LexerState -> List Token × Token
  | 0, state => ([], state.getNextToken.1)
  | rounds + 1, state =>
      let next := state.getNextToken
      if next.1.type = .eof then ([], next.1)
      else
        let others := tokens rounds next.2
        (next.1 :: others.1, others.2)

end LexerState

/-- The tokens of a source; every token passes a character of it. -/
def lexed (source : List Char) : List Token × Token :=
  (LexerState.initial source).tokens (source.length + 1)

example : (lexed "LET f() = a % 1 // end".toList).1.map Token.type =
    [.letKeyword, .identifier, .leftParen, .rightParen, .equal, .identifier,
      .charVectorIndirection, .numberLiteral] := by decide

end Parsing
end NewBcpl
