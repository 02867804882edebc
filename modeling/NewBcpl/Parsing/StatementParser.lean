import NewBcpl.Parsing.ExpressionParser

namespace NewBcpl
namespace Parsing

open Parse

/-!
# The statement parser

`parse_statement` and the parsers of the statements. A statement parser returns
null after an error, and `parse_statement` returns null at once when there has
been one.
-/

section Statements

variable (callees : Callees) (rounds : Nat)

/-- A keyword that is a statement of its own. -/
def parseKeyword (keyword : TokenType) (message : String) (statement : Statement) :
    Parse (Option Statement) := do
  consume keyword message
  pure (some statement)

/-- `parse_return_statement`. -/
def parseReturnStatement : Parse (Option Statement) :=
  parseKeyword .returnKeyword "Expect 'RETURN'." .returnStatement

/-- `parse_finish_statement`. -/
def parseFinishStatement : Parse (Option Statement) :=
  parseKeyword .finishKeyword "Expect 'FINISH'." .finish

/-- `parse_break_statement`. -/
def parseBreakStatement : Parse (Option Statement) :=
  parseKeyword .breakKeyword "Expect 'BREAK'." .breakStatement

/-- `parse_brk_statement`. -/
def parseBrkStatement : Parse (Option Statement) :=
  parseKeyword .brkKeyword "Expect 'BRK'." .brk

/-- `parse_loop_statement`. -/
def parseLoopStatement : Parse (Option Statement) :=
  parseKeyword .loopKeyword "Expect 'LOOP'." .loop

/-- `parse_endcase_statement`. -/
def parseEndcaseStatement : Parse (Option Statement) :=
  parseKeyword .endcaseKeyword "Expect 'ENDCASE'." .endcase

/-- A keyword with an expression after it. -/
def parseKeywordExpression (keyword : TokenType) (message : String)
    (statement : Option Expression -> Statement) : Parse (Option Statement) := do
  consume keyword message
  let expression <- callees.expression 0
  pure (some (statement expression))

/-- `parse_goto_statement`. -/
def parseGotoStatement : Parse (Option Statement) :=
  parseKeywordExpression callees .gotoKeyword "Expect 'GOTO'." .goto

/-- `parse_resultis_statement`. -/
def parseResultisStatement : Parse (Option Statement) :=
  parseKeywordExpression callees .resultisKeyword "Expect 'RESULTIS'." .resultis

/-- `match(Do) || match(Then)`. -/
def matchDoOrThen : Parse Bool := do
  let isDo <- matchToken .doKeyword
  if isDo then pure true else matchToken .thenKeyword

/-- The head of `IF`, `UNLESS` and `TEST`: a condition and `DO` or `THEN`. -/
def parseCondition (keyword : TokenType) (message missing : String) :
    Parse (Option Expression × Bool) := do
  consume keyword message
  let condition <- callees.expression 0
  let found <- matchDoOrThen
  if found then pure (condition, true)
  else do
    error missing
    pure (condition, false)

/-- `parse_if_statement`. -/
def parseIfStatement : Parse (Option Statement) := do
  let head <- parseCondition callees .ifKeyword "Expect 'IF'."
    "Expect 'THEN' or 'DO' after IF condition."
  if head.2 then do
    let thenBranch <- callees.statement
    pure (some (.ifStatement head.1 thenBranch))
  else pure none

/-- `parse_unless_statement`. -/
def parseUnlessStatement : Parse (Option Statement) := do
  let head <- parseCondition callees .unlessKeyword "Expect 'UNLESS'."
    "Expect 'THEN' or 'DO' after UNLESS condition."
  if head.2 then do
    let thenBranch <- callees.statement
    pure (some (.unless head.1 thenBranch))
  else pure none

/-- `parse_test_statement`. -/
def parseTestStatement : Parse (Option Statement) := do
  let head <- parseCondition callees .testKeyword "Expect 'TEST'."
    "Expect 'THEN' or 'DO' after TEST condition."
  if head.2 then do
    let thenBranch <- callees.statement
    let hasElse <- matchToken .elseKeyword
    if hasElse then do
      let elseBranch <- callees.statement
      pure (some (.test head.1 thenBranch elseBranch))
    else pure (some (.test head.1 thenBranch none))
  else pure none

/-- `parse_while_statement`. -/
def parseWhileStatement : Parse (Option Statement) := do
  consume .whileKeyword "Expect 'WHILE'."
  let condition <- callees.expression 0
  consume .doKeyword "Expect 'DO' after WHILE condition."
  let body <- callees.statement
  pure (some (.whileStatement condition body))

/-- The step of a `FOR`, if there is one. -/
def parseStep : Parse (Option Expression) := do
  let hasStep <- matchToken .byKeyword
  if hasStep then callees.expression 0 else pure none

/-- `parse_for_statement`. -/
def parseForStatement : Parse (Option Statement) := do
  consume .forKeyword "Expect 'FOR'."
  let name <- parseName "Expect loop variable name."
  consume .equal "Expect '=' after loop variable."
  let startExpr <- callees.expression 0
  consume .toKeyword "Expect 'TO' in FOR loop."
  let endExpr <- callees.expression 0
  let stepExpr <- parseStep callees
  consume .doKeyword "Expect 'DO' in FOR loop."
  let body <- callees.statement
  pure (some (.forStatement name startExpr endExpr stepExpr body))

/-- The names of a `FOREACH`: the loop variable and the type variable, which is
empty in the form with one name. -/
def parseLoopNames : Parse (List Char × List Char) := do
  let first <- parseName "Expect at least one variable name after FOREACH."
  let two <- matchToken .comma
  if two then do
    let second <- parseName "Expect value variable name after comma."
    pure (second, first)
  else pure (first, [])

/-- `parse_foreach_statement`. -/
def parseForeachStatement : Parse (Option Statement) := do
  advance
  let names <- parseLoopNames
  consume .inKeyword "Expect IN after loop variable(s)."
  let collection <- callees.expression 0
  consume .doKeyword "Expect DO after collection expression."
  let body <- callees.statement
  pure (some (.forEach names.1 names.2 collection body))

/-- `parse_repeat_statement`. -/
def parseRepeatStatement : Parse (Option Statement) := do
  consume .repeatKeyword "Expect 'REPEAT'."
  let body <- callees.statement
  consume .untilKeyword "Expect 'UNTIL' after REPEAT body."
  let condition <- callees.expression 0
  pure (some (.repeatStatement .repeatUntil body condition))

/-- The targets of an assignment after the first one. -/
def parseTargets : Nat -> Parse (List (Option Expression))
  | 0 => outOfRounds
  | remaining + 1 => do
      let more <- matchToken .comma
      if more then do
        let target <- callees.expression 0
        let rest <- parseTargets remaining
        pure (target :: rest)
      else pure []

/-- The rest of an assignment after its first target. -/
def parseAssignment (first : Expression) : Parse (Option Statement) := do
  let others <- parseTargets callees rounds
  consume .assign "Expect ':=' for an assignment statement."
  let rhs <- repeated (matchToken .comma) (callees.expression 0) rounds
  if (some first :: others).length = rhs.length then
    pure (some (.assignment (some first :: others) rhs))
  else do
    error "Mismatch in number of l-values and r-values for assignment."
    pure none

/-- `parse_assignment_or_routine_call`. -/
def parseAssignmentOrRoutineCall : Parse (Option Statement) := do
  let expression <- callees.expression 0
  match expression with
  | none => do
      error "Expected an expression for assignment or routine call."
      pure none
  | some (.functionCall functionExpr arguments) =>
      pure (some (.routineCall functionExpr arguments))
  | some first => parseAssignment callees rounds first

/-- `parse_free_statement`. -/
def parseFreeStatement : Parse (Option Statement) := do
  let _ <- matchToken .freevecKeyword
  let expression <- callees.expression 0
  match expression with
  | none => do
      error "Expected an expression after 'FREEVEC' or 'FREESTR'."
      pure none
  | some expression => pure (some (.free expression))

/-- `parse_let_statement`. -/
def parseLetStatement : Parse (Option Statement) := do
  let isFloat <- check .fletKeyword
  consume (if isFloat then .fletKeyword else .letKeyword) "Expect 'LET' or 'FLET'."
  let names <- repeated (matchToken .comma)
    (parseName "Expect identifier in LET declaration.") rounds
  consume .equal "Expect '=' after name(s) in LET declaration."
  let initializers <- repeated (matchToken .comma) (callees.expression 0) rounds
  if names.length = initializers.length then
    pure (some (.letDeclaration names initializers isFloat))
  else do
    error "Mismatch between number of names and initializers in LET declaration."
    pure none

/-- `is_declaration_start`. -/
def isDeclarationStart : TokenType -> Bool
  | .manifestKeyword | .staticKeyword | .globalKeyword | .routineKeyword
  | .functionKeyword => true
  | _ => false

/-- The declarations and statements of a block. -/
structure BlockItems where
  declarations : List (Option Declaration)
  statements : List (Option Statement)

/-- The loop of `parse_block_or_compound_statement`. -/
def blockLoop : Nat -> Parse BlockItems
  | 0 => outOfRounds
  | remaining + 1 => do
      let state <- look
      if state.check .rightBrace || state.isAtEnd then pure ⟨[], []⟩
      else if state.check .letKeyword || state.check .fletKeyword then do
        let statement <- parseLetStatement callees rounds
        let items <- blockLoop remaining
        pure { items with statements := statement :: items.statements }
      else if isDeclarationStart state.current.type then do
        let declaration <- callees.blockDeclaration
        let items <- blockLoop remaining
        pure { items with declarations := declaration :: items.declarations }
      else do
        let statement <- callees.statement
        match statement with
        | none => pure ⟨[], []⟩
        | some statement => do
            let items <- blockLoop remaining
            pure { items with statements := some statement :: items.statements }

/-- `parse_block_or_compound_statement`. -/
def parseBlockOrCompoundStatement : Parse (Option Statement) := do
  consume .leftBrace "Expect '$(' or '\x7b' to start a block."
  let items <- blockLoop callees rounds rounds
  consume .rightBrace "Expect '$)' or '\x7d' to end a block."
  if items.declarations.isEmpty then pure (some (.compound items.statements))
  else pure (some (.block items.declarations items.statements))

/-- The cases of a `SWITCHON` and its default, which a later one replaces. -/
structure SwitchItems where
  cases : List CaseStatement
  defaultCase : Option Statement

/-- A `CASE` after its keyword. -/
def parseCase : Parse (Option CaseStatement) := do
  let constant <- callees.expression 0
  consume .colon "Expect ':' after CASE constant."
  let command <- callees.statement
  pure (command.map (.mk constant))

/-- A `DEFAULT` after its keyword. -/
def parseDefault (hasDefault : Bool) : Parse (Option Statement) := do
  consume .colon "Expect ':' after DEFAULT."
  if hasDefault then error "Multiple DEFAULT cases in SWITCHON statement."
  callees.statement

/-- The loop of `parse_switchon_statement`. -/
def switchLoop : Nat -> SwitchItems -> Parse SwitchItems
  | 0, _ => outOfRounds
  | remaining + 1, items => do
      let state <- look
      if state.check .rightBrace || state.isAtEnd then pure items
      else if state.check .caseKeyword then do
        advance
        let caseStatement <- parseCase callees
        match caseStatement with
        | none => pure items
        | some caseStatement =>
            switchLoop remaining { items with cases := items.cases ++ [caseStatement] }
      else if state.check .defaultKeyword then do
        advance
        let command <- parseDefault callees items.defaultCase.isSome
        match command with
        | none => pure items
        | some command => switchLoop remaining { items with defaultCase := some command }
      else do
        error "Only CASE or DEFAULT allowed inside SWITCHON body."
        advance
        switchLoop remaining items

/-- `parse_switchon_statement`. -/
def parseSwitchonStatement : Parse (Option Statement) := do
  consume .switchonKeyword "Expect 'SWITCHON'."
  let expression <- callees.expression 0
  consume .intoKeyword "Expect 'INTO' after SWITCHON expression."
  consume .leftBrace "Expect '$(' or '\x7b' to begin SWITCHON body."
  let items <- switchLoop callees rounds ⟨[], none⟩
  consume .rightBrace "Expect '$)' or '\x7d' to end SWITCHON body."
  pure (some (.switchon expression items.cases items.defaultCase))

/-- A label before a statement. -/
def parseLabelTarget : Parse (Option Statement) := do
  let name <- parseName "Expect identifier for label name."
  consume .colon "Expect ':' after label name."
  pure (some (.labelTarget name))

/-- The switch of `parse_primary_statement`. -/
def parseKeywordStatement (type : TokenType) : Parse (Option Statement) :=
  match type with
  | .repeatKeyword => parseRepeatStatement callees
  | .ifKeyword => parseIfStatement callees
  | .unlessKeyword => parseUnlessStatement callees
  | .testKeyword => parseTestStatement callees
  | .whileKeyword => parseWhileStatement callees
  | .forKeyword => parseForStatement callees
  | .forEachKeyword => parseForeachStatement callees
  | .switchonKeyword => parseSwitchonStatement callees rounds
  | .gotoKeyword => parseGotoStatement callees
  | .freevecKeyword => parseFreeStatement callees
  | .returnKeyword => parseReturnStatement
  | .finishKeyword => parseFinishStatement
  | .breakKeyword => parseBreakStatement
  | .brkKeyword => parseBrkStatement
  | .loopKeyword => parseLoopStatement
  | .endcaseKeyword => parseEndcaseStatement
  | .resultisKeyword => parseResultisStatement callees
  | _ => parseAssignmentOrRoutineCall callees rounds

/-- `parse_primary_statement`. -/
def parsePrimaryStatement : Parse (Option Statement) := do
  let state <- look
  if state.check .identifier && state.peekType == .colon then parseLabelTarget
  else if state.check .leftBrace then parseBlockOrCompoundStatement callees rounds
  else parseKeywordStatement callees rounds state.current.type

/-- The `REPEAT` after a statement. -/
def parseRepeatSuffix (statement : Option Statement) : Parse (Option Statement) := do
  let repeats <- matchToken .repeatKeyword
  if repeats then do
    let isWhile <- matchToken .whileKeyword
    if isWhile then do
      let condition <- callees.expression 0
      pure (some (.repeatStatement .repeatWhile statement condition))
    else do
      let isUntil <- matchToken .untilKeyword
      if isUntil then do
        let condition <- callees.expression 0
        pure (some (.repeatStatement .repeatUntil statement condition))
      else pure (some (.repeatStatement .repeatForever statement none))
  else pure statement

/-- `parse_statement`. -/
def parseStatement : Parse (Option Statement) := do
  let before <- look
  if before.fatal then pure none
  else do
    let statement <- parsePrimaryStatement callees rounds
    let after <- look
    if after.fatal then pure none else parseRepeatSuffix callees statement

end Statements

end Parsing
end NewBcpl
