import NewBcpl.Parsing.ProgramParser

namespace NewBcpl
namespace Parsing

/-!
# The concrete syntax

How a tree is written as a list of tokens. A phrase is written in front of a token of
some type, since the type of what comes next decides where an operator, an `ELSE`, a
`REPEAT` or a comma belongs: an expression ends in front of an operator that does not
bind tighter than the level it is written at, a `TEST` without an `ELSE` ends in front
of anything else, and the size behind `VEC` takes every operator that follows. The
rules name no state of the parser and no number of rounds.
-/

/-- The type of the first of the tokens, and of what follows them without one. -/
def firstType (tokens : List Token) (next : TokenType) : TokenType :=
  match tokens with
  | [] => next
  | token :: _ => token.type

/-- What a number literal denotes. -/
def numberTree (rounding : Rounding) (text : List Char) : Except Escape Expression :=
  if hasFloatMark text then
    match stod rounding text with
    | .ok value => .ok (.floatLiteral value)
    | .error exception => .error exception
  else
    match stoll text with
    | .ok value => .ok (.integerLiteral value)
    | .error exception => .error exception

/-- The expressions of one token that is not a number. -/
def atomTree (token : Token) : Option Expression :=
  match token.type with
  | .stringLiteral => some (.stringLiteral token.value)
  | .charLiteral => some (.charLiteral (token.value.headD '\x00'))
  | .booleanLiteral => some (.booleanLiteral (token.value == ['T', 'R', 'U', 'E']))
  | .identifier => some (.variableAccess token.value)
  | type => (typeConstant type).map .integerLiteral

/-- The words in front of initializers in parentheses. -/
def collectionTree : TokenType -> Option (List (Option Expression) -> Expression)
  | .listKeyword => some fun initializers => .list initializers false
  | .manifestListKeyword => some fun initializers => .list initializers true
  | .vecKeyword => some .vecInitializer
  | .tableKeyword => some fun initializers => .table initializers false
  | .ftableKeyword => some fun initializers => .table initializers true
  | _ => none

/-- The words in front of a size. -/
def allocationTree : TokenType -> Option (Option Expression -> Expression)
  | .vecKeyword => some .vecAllocation
  | .fvecKeyword => some .fvecAllocation
  | .stringKeyword => some .stringAllocation
  | _ => none

/-- The words in front of a statement with a result. -/
def valofTree : TokenType -> Option (Option Statement -> Expression)
  | .valofKeyword => some .valof
  | .fvalofKeyword => some .floatValof
  | _ => none

/-- The operators with an index on their right. -/
def indexTree : TokenType -> Option (Expression -> Option Expression -> Expression)
  | .vecIndirection => some .vectorAccess
  | .charIndirection => some .charIndirection
  | .floatVecIndirection => some .floatVectorIndirection
  | _ => none

/-- The statements of one keyword. -/
def keywordTree : TokenType -> Option Statement
  | .returnKeyword => some .returnStatement
  | .finishKeyword => some .finish
  | .breakKeyword => some .breakStatement
  | .brkKeyword => some .brk
  | .loopKeyword => some .loop
  | .endcaseKeyword => some .endcase
  | _ => none

/-- The statements of a keyword and an expression. -/
def keywordExpressionTree : TokenType -> Option (Expression -> Statement)
  | .gotoKeyword => some fun expression => .goto (some expression)
  | .resultisKeyword => some fun expression => .resultis (some expression)
  | .freevecKeyword => some .free
  | _ => none

/-- The statements of a condition and one branch. -/
def branchTree : TokenType -> Option (Option Expression -> Option Statement -> Statement)
  | .ifKeyword => some .ifStatement
  | .unlessKeyword => some .unless
  | _ => none

/-- The words in front of the condition of a `REPEAT` behind its body. -/
def suffixLoop : TokenType -> Option LoopType
  | .whileKeyword => some .repeatWhile
  | .untilKeyword => some .repeatUntil
  | _ => none

/-- `DO` or `THEN`. -/
def isDoOrThen (type : TokenType) : Prop := type = .doKeyword ∨ type = .thenKeyword

/-- `LET` or `FLET`. -/
def isLet (type : TokenType) : Prop := type = .letKeyword ∨ type = .fletKeyword

/-- Tokens that are skipped in front of a closing brace. -/
def IsSkipped (tokens : List Token) : Prop :=
  forall token, token ∈ tokens ->
    token.type ≠ .rightBrace ∧ token.type ≠ .eof ∧ token.type ≠ .error

/-- A block with declarations, or a compound statement without any. -/
def BlockItems.tree (items : BlockItems) : Statement :=
  if items.declarations.isEmpty then .compound items.statements
  else .block items.declarations items.statements

/-- What is not a call has to be assigned to. -/
def isCall : Expression -> Bool
  | .functionCall _ _ => true
  | _ => false

/-- The phrases with what they are read as. A further operator has what it is applied
to, and the cases of a `SWITCHON` have those in front of them. -/
inductive Phrase where
  | expression (precedence : Nat) (tree : Expression)
  | operand (tree : Expression)
  | further (precedence : Nat) (left tree : Expression)
  | infixed (type : TokenType) (left tree : Expression)
  | expressions (trees : List Expression)
  | arguments (trees : List Expression)
  | names (names : List (List Char))
  | parameters (names : List (List Char))
  | targets (trees : List Expression)
  | statement (tree : Statement)
  | simple (tree : Statement)
  | binding (tree : Statement)
  | items (items : BlockItems)
  | cases (before after : SwitchItems)
  | globals (globals : List (List Char × Int))
  | definition (tree : Declaration)
  | declaration (tree : Declaration)
  | declarations (trees : List Declaration)

/-- The tokens are the phrase, in front of a token of the given type. -/
inductive Spells (rounding : Rounding) : Phrase -> List Token -> TokenType -> Prop
  -- Expressions.
  | expression {precedence left tree first rest next} :
      Spells rounding (.operand left) first (firstType rest next) ->
      Spells rounding (.further precedence left tree) rest next ->
      Spells rounding (.expression precedence tree) (first ++ rest) next
  | atom {token tree next} : atomTree token = some tree ->
      Spells rounding (.operand tree) [token] next
  | number {token tree next} : token.type = .numberLiteral ->
      numberTree rounding token.value = .ok tree ->
      Spells rounding (.operand tree) [token] next
  | prefixed {token op tree tokens next} : prefixOperator token.type = some op ->
      Spells rounding (.expression 8 tree) tokens next ->
      Spells rounding (.operand (.unaryOp op (some tree))) (token :: tokens) next
  | intrinsic {token opening closing name op tree tokens next} :
      intrinsic token.type = some (name, op) -> opening.type = .leftParen ->
      Spells rounding (.expression 0 tree) tokens .rightParen ->
      closing.type = .rightParen ->
      Spells rounding (.operand (.unaryOp op (some tree)))
        (token :: opening :: (tokens ++ [closing])) next
  | collection {token opening closing build trees tokens next} :
      collectionTree token.type = some build -> opening.type = .leftParen ->
      Spells rounding (.arguments trees) tokens .rightParen ->
      closing.type = .rightParen ->
      Spells rounding (.operand (build (trees.map some)))
        (token :: opening :: (tokens ++ [closing])) next
  | allocation {token build tree tokens next} : allocationTree token.type = some build ->
      (token.type = .vecKeyword -> firstType tokens next ≠ .leftParen) ->
      Spells rounding (.expression 0 tree) tokens next ->
      Spells rounding (.operand (build (some tree))) (token :: tokens) next
  | group {opening closing tree tokens next} : opening.type = .leftParen ->
      Spells rounding (.expression 0 tree) tokens .rightParen ->
      closing.type = .rightParen ->
      Spells rounding (.operand tree) (opening :: (tokens ++ [closing])) next
  | valof {token build tree tokens next} : valofTree token.type = some build ->
      Spells rounding (.statement tree) tokens next ->
      Spells rounding (.operand (build (some tree))) (token :: tokens) next
  | noFurther {precedence tree next} : tokenPrecedence next ≤ precedence ->
      Spells rounding (.further precedence tree tree) [] next
  | further {token precedence left middle tree first rest next} :
      precedence < tokenPrecedence token.type ->
      Spells rounding (.infixed token.type left middle) first (firstType rest next) ->
      Spells rounding (.further precedence middle tree) rest next ->
      Spells rounding (.further precedence left tree) (token :: (first ++ rest)) next
  | call {closing left trees tokens next} :
      Spells rounding (.arguments trees) tokens .rightParen ->
      closing.type = .rightParen ->
      Spells rounding (.infixed .leftParen left (.functionCall left (trees.map some)))
        (tokens ++ [closing]) next
  | index {type left build tree tokens next} : indexTree type = some build ->
      Spells rounding (.expression 9 tree) tokens next ->
      Spells rounding (.infixed type left (build left (some tree))) tokens next
  | bitfield {opening comma closing left startBit width first second next} :
      opening.type = .leftParen ->
      Spells rounding (.expression 0 startBit) first .comma -> comma.type = .comma ->
      Spells rounding (.expression 0 width) second .rightParen ->
      closing.type = .rightParen ->
      Spells rounding
        (.infixed .bitfield left (.bitfieldAccess left (some startBit) (some width)))
        (opening :: (first ++ comma :: (second ++ [closing]))) next
  | conditional {comma left trueExpr falseExpr first second next} :
      Spells rounding (.expression 0 trueExpr) first .comma -> comma.type = .comma ->
      Spells rounding (.expression 1 falseExpr) second next ->
      Spells rounding
        (.infixed .conditional left (.conditional left (some trueExpr) (some falseExpr)))
        (first ++ comma :: second) next
  | binary {type op left right tokens next} : toBinaryOp type = some op ->
      Spells rounding (.expression (tokenPrecedence type) right) tokens next ->
      Spells rounding (.infixed type left (.binaryOp op left right)) tokens next
  -- Lists.
  | lastExpression {tree tokens next} : Spells rounding (.expression 0 tree) tokens next ->
      next ≠ .comma -> Spells rounding (.expressions [tree]) tokens next
  | moreExpressions {comma tree trees first rest next} :
      Spells rounding (.expression 0 tree) first .comma -> comma.type = .comma ->
      Spells rounding (.expressions trees) rest next ->
      Spells rounding (.expressions (tree :: trees)) (first ++ comma :: rest) next
  | noArguments : Spells rounding (.arguments []) [] .rightParen
  | someArguments {trees tokens} : Spells rounding (.expressions trees) tokens .rightParen ->
      Spells rounding (.arguments trees) tokens .rightParen
  | lastName {token next} : token.type = .identifier -> next ≠ .comma ->
      Spells rounding (.names [token.value]) [token] next
  | moreNames {token comma names rest next} : token.type = .identifier ->
      comma.type = .comma -> Spells rounding (.names names) rest next ->
      Spells rounding (.names (token.value :: names)) (token :: comma :: rest) next
  | noParameters : Spells rounding (.parameters []) [] .rightParen
  | someParameters {names tokens} : Spells rounding (.names names) tokens .rightParen ->
      Spells rounding (.parameters names) tokens .rightParen
  | noTargets {next} : next ≠ .comma -> Spells rounding (.targets []) [] next
  | moreTargets {comma tree trees first rest next} : comma.type = .comma ->
      Spells rounding (.expression 0 tree) first (firstType rest next) ->
      Spells rounding (.targets trees) rest next ->
      Spells rounding (.targets (tree :: trees)) (comma :: (first ++ rest)) next
  -- Statements.
  | statement {tree tokens next} : Spells rounding (.simple tree) tokens next ->
      next ≠ .repeatKeyword -> Spells rounding (.statement tree) tokens next
  | repeated {token tree tokens next} : Spells rounding (.simple tree) tokens .repeatKeyword ->
      token.type = .repeatKeyword -> suffixLoop next = none ->
      Spells rounding (.statement (.repeatStatement .repeatForever (some tree) none))
        (tokens ++ [token]) next
  | repeatedWith {token word loopType tree condition first second next} :
      Spells rounding (.simple tree) first .repeatKeyword -> token.type = .repeatKeyword ->
      suffixLoop word.type = some loopType ->
      Spells rounding (.expression 0 condition) second next ->
      Spells rounding (.statement (.repeatStatement loopType (some tree) (some condition)))
        (first ++ token :: word :: second) next
  | label {token colon next} : token.type = .identifier -> colon.type = .colon ->
      Spells rounding (.simple (.labelTarget token.value)) [token, colon] next
  | block {opening closing items tokens next} : opening.type = .leftBrace ->
      Spells rounding (.items items) tokens .rightBrace -> closing.type = .rightBrace ->
      Spells rounding (.simple items.tree) (opening :: (tokens ++ [closing])) next
  | keyword {token tree next} : keywordTree token.type = some tree ->
      Spells rounding (.simple tree) [token] next
  | keywordExpression {token build tree tokens next} :
      keywordExpressionTree token.type = some build ->
      Spells rounding (.expression 0 tree) tokens next ->
      Spells rounding (.simple (build tree)) (token :: tokens) next
  | branch {token word build condition tree first second next} :
      branchTree token.type = some build ->
      Spells rounding (.expression 0 condition) first word.type -> isDoOrThen word.type ->
      Spells rounding (.statement tree) second next ->
      Spells rounding (.simple (build (some condition) (some tree)))
        (token :: (first ++ word :: second)) next
  | test {token word condition tree first second next} : token.type = .testKeyword ->
      Spells rounding (.expression 0 condition) first word.type -> isDoOrThen word.type ->
      Spells rounding (.statement tree) second next -> next ≠ .elseKeyword ->
      Spells rounding (.simple (.test (some condition) (some tree) none))
        (token :: (first ++ word :: second)) next
  | testElse {token word elseWord condition tree other first second third next} :
      token.type = .testKeyword ->
      Spells rounding (.expression 0 condition) first word.type -> isDoOrThen word.type ->
      Spells rounding (.statement tree) second .elseKeyword ->
      elseWord.type = .elseKeyword -> Spells rounding (.statement other) third next ->
      Spells rounding (.simple (.test (some condition) (some tree) (some other)))
        (token :: (first ++ word :: (second ++ elseWord :: third))) next
  | whileLoop {token word condition tree first second next} :
      token.type = .whileKeyword ->
      Spells rounding (.expression 0 condition) first .doKeyword -> word.type = .doKeyword ->
      Spells rounding (.statement tree) second next ->
      Spells rounding (.simple (.whileStatement (some condition) (some tree)))
        (token :: (first ++ word :: second)) next
  | untilLoop {token word condition tree first second next} :
      token.type = .repeatKeyword ->
      Spells rounding (.statement tree) first .untilKeyword -> word.type = .untilKeyword ->
      Spells rounding (.expression 0 condition) second next ->
      Spells rounding
        (.simple (.repeatStatement .repeatUntil (some tree) (some condition)))
        (token :: (first ++ word :: second)) next
  | forLoop {token name equal toWord word start limit tree first second third next} :
      token.type = .forKeyword -> name.type = .identifier -> equal.type = .equal ->
      Spells rounding (.expression 0 start) first .toKeyword -> toWord.type = .toKeyword ->
      Spells rounding (.expression 0 limit) second .doKeyword -> word.type = .doKeyword ->
      Spells rounding (.statement tree) third next ->
      Spells rounding
        (.simple (.forStatement name.value (some start) (some limit) none (some tree)))
        (token :: name :: equal :: (first ++ toWord :: (second ++ word :: third))) next
  | forLoopBy {token name equal toWord byWord word start limit step tree first second third
        fourth next} :
      token.type = .forKeyword -> name.type = .identifier -> equal.type = .equal ->
      Spells rounding (.expression 0 start) first .toKeyword -> toWord.type = .toKeyword ->
      Spells rounding (.expression 0 limit) second .byKeyword -> byWord.type = .byKeyword ->
      Spells rounding (.expression 0 step) third .doKeyword -> word.type = .doKeyword ->
      Spells rounding (.statement tree) fourth next ->
      Spells rounding
        (.simple (.forStatement name.value (some start) (some limit) (some step)
          (some tree)))
        (token :: name :: equal ::
          (first ++ toWord :: (second ++ byWord :: (third ++ word :: fourth)))) next
  | forEach {token name inWord word collection tree first second next} :
      token.type = .forEachKeyword -> name.type = .identifier -> inWord.type = .inKeyword ->
      Spells rounding (.expression 0 collection) first .doKeyword ->
      word.type = .doKeyword -> Spells rounding (.statement tree) second next ->
      Spells rounding (.simple (.forEach name.value [] (some collection) (some tree)))
        (token :: name :: inWord :: (first ++ word :: second)) next
  | forEachTyped {token typeName comma name inWord word collection tree first second next} :
      token.type = .forEachKeyword -> typeName.type = .identifier -> comma.type = .comma ->
      name.type = .identifier -> inWord.type = .inKeyword ->
      Spells rounding (.expression 0 collection) first .doKeyword ->
      word.type = .doKeyword -> Spells rounding (.statement tree) second next ->
      Spells rounding
        (.simple (.forEach name.value typeName.value (some collection) (some tree)))
        (token :: typeName :: comma :: name :: inWord :: (first ++ word :: second)) next
  | switchon {token intoWord opening closing tree items first second next} :
      token.type = .switchonKeyword ->
      Spells rounding (.expression 0 tree) first .intoKeyword ->
      intoWord.type = .intoKeyword -> opening.type = .leftBrace ->
      Spells rounding (.cases ⟨[], none⟩ items) second .rightBrace ->
      closing.type = .rightBrace ->
      Spells rounding (.simple (.switchon (some tree) items.cases items.defaultCase))
        (token :: (first ++ intoWord :: opening :: (second ++ [closing]))) next
  | routineCall {function arguments tokens next} :
      Spells rounding (.expression 0 (.functionCall function arguments)) tokens next ->
      Spells rounding (.simple (.routineCall function arguments)) tokens next
  | assignment {assign tree targets values first second third next} :
      isCall tree = false ->
      Spells rounding (.expression 0 tree) first (firstType second .assign) ->
      Spells rounding (.targets targets) second .assign -> assign.type = .assign ->
      Spells rounding (.expressions values) third next ->
      targets.length + 1 = values.length ->
      Spells rounding
        (.simple (.assignment (some tree :: targets.map some) (values.map some)))
        (first ++ (second ++ assign :: third)) next
  | binding {token equal names values first second next} : isLet token.type ->
      Spells rounding (.names names) first .equal -> equal.type = .equal ->
      Spells rounding (.expressions values) second next -> names.length = values.length ->
      Spells rounding
        (.binding (.letDeclaration names (values.map some) (token.type == .fletKeyword)))
        (token :: (first ++ equal :: second)) next
  -- The items of a block and the cases of a `SWITCHON`.
  | noItems : Spells rounding (.items ⟨[], []⟩) [] .rightBrace
  | bindingItem {tree items first rest} :
      Spells rounding (.binding tree) first (firstType rest .rightBrace) ->
      Spells rounding (.items items) rest .rightBrace ->
      Spells rounding (.items { items with statements := some tree :: items.statements })
        (first ++ rest) .rightBrace
  | definitionItem {tree items first rest} :
      Spells rounding (.definition tree) first (firstType rest .rightBrace) ->
      Spells rounding (.items items) rest .rightBrace ->
      Spells rounding
        (.items { items with declarations := some tree :: items.declarations })
        (first ++ rest) .rightBrace
  | statementItem {tree items first rest} :
      Spells rounding (.statement tree) first (firstType rest .rightBrace) ->
      Spells rounding (.items items) rest .rightBrace ->
      Spells rounding (.items { items with statements := some tree :: items.statements })
        (first ++ rest) .rightBrace
  | noCases {items} : Spells rounding (.cases items items) [] .rightBrace
  | case {token colon constant command items after first second rest} :
      token.type = .caseKeyword -> Spells rounding (.expression 0 constant) first .colon ->
      colon.type = .colon ->
      Spells rounding (.statement command) second (firstType rest .rightBrace) ->
      Spells rounding
        (.cases { items with cases := items.cases ++ [.mk (some constant) command] } after)
        rest .rightBrace ->
      Spells rounding (.cases items after)
        (token :: (first ++ colon :: (second ++ rest))) .rightBrace
  | defaultCase {token colon command items after first rest} :
      token.type = .defaultKeyword -> colon.type = .colon -> items.defaultCase = none ->
      Spells rounding (.statement command) first (firstType rest .rightBrace) ->
      Spells rounding (.cases { items with defaultCase := some command } after) rest
        .rightBrace ->
      Spells rounding (.cases items after) (token :: colon :: (first ++ rest)) .rightBrace
  -- Declarations. What stands behind the first definition of a `MANIFEST` or a `STATIC`
  -- block is skipped.
  | lastGlobal {name colon number offset next} : name.type = .identifier ->
      colon.type = .colon -> number.type = .numberLiteral -> stoi number.value = .ok offset ->
      next ≠ .semicolon -> next ≠ .comma ->
      Spells rounding (.globals [(name.value, offset)]) [name, colon, number] next
  | moreGlobals {name colon number separator offset globals rest next} :
      name.type = .identifier -> colon.type = .colon -> number.type = .numberLiteral ->
      stoi number.value = .ok offset ->
      (separator.type = .semicolon ∨ separator.type = .comma) ->
      Spells rounding (.globals globals) rest next ->
      Spells rounding (.globals ((name.value, offset) :: globals))
        (name :: colon :: number :: separator :: rest) next
  | globalBlock {token opening closing globals tokens next} : token.type = .globalKeyword ->
      opening.type = .leftBrace -> Spells rounding (.globals globals) tokens .rightBrace ->
      closing.type = .rightBrace ->
      Spells rounding (.definition (.globalDeclaration globals))
        (token :: opening :: (tokens ++ [closing])) next
  | manifestBlock {token opening name equal number closing value skipped next} :
      token.type = .manifestKeyword -> opening.type = .leftBrace ->
      name.type = .identifier -> equal.type = .equal -> number.type = .numberLiteral ->
      stoll number.value = .ok value ->
      IsSkipped skipped ->
      closing.type = .rightBrace ->
      Spells rounding (.definition (.manifestDeclaration name.value value))
        (token :: opening :: name :: equal :: number :: (skipped ++ [closing])) next
  | staticBlock {token opening name equal closing tree tokens skipped next} :
      token.type = .staticKeyword -> opening.type = .leftBrace ->
      name.type = .identifier -> equal.type = .equal ->
      Spells rounding (.expression 0 tree) tokens (firstType skipped .rightBrace) ->
      IsSkipped skipped ->
      closing.type = .rightBrace ->
      Spells rounding (.definition (.staticDeclaration name.value (some tree)))
        (token :: opening :: name :: equal :: (tokens ++ (skipped ++ [closing]))) next
  | definition {tree tokens next} : Spells rounding (.definition tree) tokens next ->
      Spells rounding (.declaration tree) tokens next
  | function {token name opening closing equal parameters tree first second next} :
      isLet token.type -> name.type = .identifier -> opening.type = .leftParen ->
      Spells rounding (.parameters parameters) first .rightParen ->
      closing.type = .rightParen -> equal.type = .equal ->
      Spells rounding (.expression 0 tree) second next ->
      Spells rounding (.declaration (.functionDeclaration name.value parameters (some tree)))
        (token :: name :: opening :: (first ++ closing :: equal :: second)) next
  | routine {token name opening closing be parameters tree first second next} :
      isLet token.type -> name.type = .identifier -> opening.type = .leftParen ->
      Spells rounding (.parameters parameters) first .rightParen ->
      closing.type = .rightParen -> be.type = .beKeyword ->
      Spells rounding (.statement tree) second next ->
      Spells rounding (.declaration (.routineDeclaration name.value parameters (some tree)))
        (token :: name :: opening :: (first ++ closing :: be :: second)) next
  | globalVariables {token equal names values first second next} : isLet token.type ->
      Spells rounding (.names names) first .equal -> equal.type = .equal ->
      Spells rounding (.expressions values) second next -> names.length = values.length ->
      Spells rounding
        (.declaration (.globalVariableDeclaration names (values.map some)
          (token.type == .fletKeyword)))
        (token :: (first ++ equal :: second)) next
  | noDeclarations : Spells rounding (.declarations []) [] .eof
  | moreDeclarations {tree trees first rest} :
      Spells rounding (.declaration tree) first (firstType rest .eof) ->
      Spells rounding (.declarations trees) rest .eof ->
      Spells rounding (.declarations (tree :: trees)) (first ++ rest) .eof

end Parsing
end NewBcpl
