import NewBcpl.Parsing.StatementParser

namespace NewBcpl
namespace Parsing

open Parse

/-!
# Declarations and programs

The declaration parsers, the recovery after an error, and `parse_program`. The
recursive descent is tied together here: each level of a run has the functions
that it may call, with one round less.
-/

section Declarations

variable (callees : Callees) (rounds : Nat)

/-- The loop that skips what follows the first definition of a block. -/
def skipToBrace : Nat -> Parse Unit
  | 0 => outOfRounds
  | remaining + 1 => do
      let state <- look
      if state.check .rightBrace || state.isAtEnd then pure ()
      else do
        advance
        skipToBrace remaining

/-- `std::stoll` or `std::stoi` on the text of the current token. -/
def convertCurrent (conversion : List Char -> Except Escape Int) : Parse Int := do
  let state <- look
  match conversion state.current.value with
  | .ok value => pure value
  | .error exception => escape exception

/-- `parse_manifest_declaration`. -/
def parseManifestDeclaration : Parse (Option Declaration) := do
  consume .manifestKeyword "Expect 'MANIFEST'."
  consume .leftBrace "Expect '$(' or '\x7b' after MANIFEST."
  let name <- parseName "Expect identifier in manifest declaration."
  consume .equal "Expect '=' in manifest declaration."
  let value <- convertCurrent stoll
  consume .numberLiteral "Expect a number for manifest value."
  callees.skipToBrace
  consume .rightBrace "Expect '$)' or '\x7d' to close MANIFEST block."
  pure (some (.manifestDeclaration name value))

/-- `parse_static_declaration`. -/
def parseStaticDeclaration : Parse (Option Declaration) := do
  consume .staticKeyword "Expect 'STATIC'."
  consume .leftBrace "Expect '$(' after STATIC."
  let name <- parseName "Expect identifier in static declaration."
  consume .equal "Expect '=' in static declaration."
  let initializer <- callees.expression 0
  callees.skipToBrace
  consume .rightBrace "Expect '$)' to close STATIC block."
  pure (some (.staticDeclaration name initializer))

/-- One definition of a `GLOBAL` block. -/
def parseGlobal : Parse (List Char × Int) := do
  let name <- parseName "Expect identifier in global declaration."
  consume .colon "Expect ':' separating global name and offset."
  let offset <- convertCurrent stoi
  consume .numberLiteral "Expect number for global offset."
  pure (name, offset)

/-- `match(Semicolon) || match(Comma)`. -/
def matchSeparator : Parse Bool := do
  let isSemicolon <- matchToken .semicolon
  if isSemicolon then pure true else matchToken .comma

/-- `parse_global_declaration`. -/
def parseGlobalDeclaration : Parse (Option Declaration) := do
  consume .globalKeyword "Expect 'GLOBAL'."
  consume .leftBrace "Expect '$(' after GLOBAL."
  let globals <- repeated matchSeparator parseGlobal rounds
  consume .rightBrace "Expect '$)' to close GLOBAL block."
  pure (some (.globalDeclaration globals))

/-- `parse_label_declaration`. -/
def parseLabelDeclaration : Parse (Option Declaration) := do
  let name <- parseName "Expect identifier for label name."
  consume .colon "Expect ':' after label name."
  let command <- callees.statement
  pure (some (.labelDeclaration name command))

/-- `parse_declaration`. `FUNCTION` and `ROUTINE` are not among its cases. -/
def parseDeclaration : Parse (Option Declaration) := do
  let state <- look
  if state.check .identifier && state.peekType == .colon then parseLabelDeclaration callees
  else
    match state.current.type with
    | .manifestKeyword => parseManifestDeclaration callees
    | .staticKeyword => parseStaticDeclaration callees
    | .globalKeyword => parseGlobalDeclaration rounds
    | _ => do
        error "Unknown or unexpected declaration type."
        pure none

/-- `parse_function_or_routine_body`. -/
def parseFunctionOrRoutineBody (name : List Char) (params : List (List Char)) :
    Parse (Option Declaration) := do
  let isFunction <- matchToken .equal
  if isFunction then do
    let body <- callees.expression 0
    pure (some (.functionDeclaration name params body))
  else do
    let isRoutine <- matchToken .beKeyword
    if isRoutine then do
      let body <- callees.statement
      pure (some (.routineDeclaration name params body))
    else do
      error "Expect '=' or 'BE' in function/routine declaration."
      pure none

/-- The parameters of a function and their parentheses. -/
def parseParameters : Parse (List (List Char)) := do
  consume .leftParen "Expect '(' after function name."
  let empty <- check .rightParen
  let params <-
    if empty then pure []
    else repeated (matchToken .comma) (parseName "Expect parameter name.") rounds
  consume .rightParen "Expect ')' after function parameters."
  pure params

/-- The further names of a global variable declaration. -/
def parseFurtherNames : Nat -> Parse (List (List Char))
  | 0 => outOfRounds
  | remaining + 1 => do
      let more <- matchToken .comma
      if more then do
        let name <- parseName "Expect identifier after comma in LET/FLET."
        let rest <- parseFurtherNames remaining
        pure (name :: rest)
      else pure []

/-- The rest of a global variable declaration after its first name. -/
def parseGlobalVariables (isFloat : Bool) (name : List Char) : Parse (Option Declaration) := do
  let others <- parseFurtherNames rounds
  consume .equal "Expect '=' after name(s)."
  let initializers <- repeated (matchToken .comma) (callees.expression 0) rounds
  if (name :: others).length ≠ initializers.length then
    error "Mismatch between number of names and initializers in global LET/FLET declaration."
  pure (some (.globalVariableDeclaration (name :: others) initializers isFloat))

/-- `parse_toplevel_let_declaration`. -/
def parseToplevelLetDeclaration : Parse (Option Declaration) := do
  let isFloat <- check .fletKeyword
  advance
  let name <- parseName "Expect identifier after LET/FLET."
  let isFunction <- check .leftParen
  if isFunction then do
    let params <- parseParameters rounds
    parseFunctionOrRoutineBody callees name params
  else parseGlobalVariables callees rounds isFloat name

/-- The tokens at which `synchronize` stops. -/
def startsStatement : TokenType -> Bool
  | .letKeyword | .functionKeyword | .routineKeyword | .ifKeyword | .forKeyword
  | .whileKeyword | .returnKeyword => true
  | _ => false

/-- The loop of `synchronize`. -/
def synchronizeLoop : Nat -> Parse Unit
  | 0 => outOfRounds
  | remaining + 1 => do
      let state <- look
      if state.isAtEnd || state.previous.type == .semicolon ||
          startsStatement state.current.type then pure ()
      else do
        advance
        synchronizeLoop remaining

/-- `synchronize`. -/
def synchronize : Parse Unit := do
  advance
  synchronizeLoop rounds

/-- `try { body } catch (const std::runtime_error&) { handler }`. -/
def tryCatch {Value : Type} (body handler : Parse Value) : Parse Value := fun state =>
  match body state with
  | .thrown middle => handler middle
  | outcome => outcome

/-- One round of the loop of `parse_program`: the declarations that it adds, and
whether the loop goes on. -/
def programRound : Parse (List (Option Declaration) × Bool) :=
  tryCatch
    (do
      let state <- look
      if state.check .letKeyword || state.check .fletKeyword then do
        let declaration <- parseToplevelLetDeclaration callees rounds
        pure ([declaration], true)
      else if isDeclarationStart state.current.type then do
        let declaration <- parseDeclaration callees rounds
        pure ([declaration], true)
      else do
        error "Executable statements are not allowed in the global scope."
        synchronize rounds
        pure ([], false))
    (do
      synchronize rounds
      pure ([], true))

/-- The loop of `parse_program`. -/
def programLoop : Nat -> Parse (List (Option Declaration))
  | 0 => outOfRounds
  | remaining + 1 => do
      let state <- look
      if state.isAtEnd || state.fatal then pure []
      else do
        let result <- programRound callees rounds
        if result.2 then do
          let declarations <- programLoop remaining
          pure (result.1 ++ declarations)
        else pure result.1

end Declarations

/-- What an observer watches: the declarations in a block, and the tokens after
the first definition of a `MANIFEST` or `STATIC` block. It halts a run in the
states it points out. -/
structure Observer where
  atBlockDeclaration : ParserState -> Bool
  atSkip : ParserState -> Bool

/-- The observer that never halts a run. -/
def Observer.none : Observer := ⟨fun _ => false, fun _ => false⟩

/-- A function at a place that an observer watches. -/
def observed {Value : Type} (place : Place) (halts : ParserState -> Bool)
    (function : Parse Value) : Parse Value := fun state =>
  if halts state then .halted place state else function state

section Descent

variable (rounding : Rounding) (observer : Observer)

/-- The functions of the parser on each level of its recursion. -/
def callees : Nat -> Callees
  | 0 => ⟨fun _ => outOfRounds, outOfRounds, outOfRounds, outOfRounds⟩
  | rounds + 1 =>
      let below := callees rounds
      { expression := parseExpression rounding below rounds
        statement := parseStatement below rounds
        blockDeclaration := observed .blockDeclaration observer.atBlockDeclaration
          (parseDeclaration below rounds)
        skipToBrace := observed .skipToBrace observer.atSkip (skipToBrace rounds) }

/-- The constructor of `Parser` and `parse_program`. -/
def parseProgram (rounds : Nat) (tokens : List Token) (ending : Token) : Outcome Program :=
  (do
    advance
    let declarations <- programLoop (callees rounding observer rounds) rounds rounds
    pure { declarations := declarations : Program }) (ParserState.initial tokens ending)

end Descent

end Parsing
end NewBcpl
