import NewBcpl.Parsing.NumberTokens
import NewBcpl.Parsing.SyntaxTrees

namespace NewBcpl
namespace Parsing

open Parse

/-!
# The expression parser

`parse_expression` and what it calls, over the functions that it calls back: the
recursive descent is tied together in `ProgramParser`. The loops of the parser get
a number of rounds.
-/

/-- The functions that the parser calls recursively, and two places at which a
run can be observed: the declarations of a block, and the skipping of what follows
the first definition of a block. -/
structure Callees where
  expression : Nat -> Parse (Option Expression)
  statement : Parse (Option Statement)
  blockDeclaration : Parse (Option Declaration)
  skipToBrace : Parse Unit

/-- `do { item } while (again)`. -/
def repeated {Value : Type} (again : Parse Bool) (item : Parse Value) :
    Nat -> Parse (List Value)
  | 0 => outOfRounds
  | rounds + 1 => do
      let first <- item
      let more <- again
      if more then do
        let rest <- repeated again item rounds
        pure (first :: rest)
      else pure [first]

/-- The text of the current token, which has to be an identifier. -/
def parseName (message : String) : Parse (List Char) := do
  let state <- look
  consume .identifier message
  pure state.current.value

/-- `to_binary_op`; without an operator it throws. -/
def toBinaryOp : TokenType -> Option BinaryOperator
  | .plus => some .add
  | .minus => some .subtract
  | .multiply => some .multiply
  | .divide => some .divide
  | .remainder => some .remainder
  | .equal => some .equal
  | .notEqual => some .notEqual
  | .less => some .less
  | .lessEqual => some .lessEqual
  | .greater => some .greater
  | .greaterEqual => some .greaterEqual
  | .logicalAnd => some .logicalAnd
  | .bitwiseAnd => some .bitwiseAnd
  | .logicalOr => some .logicalOr
  | .bitwiseOr => some .bitwiseOr
  | .equivalence => some .equivalence
  | .notEquivalence => some .notEquivalence
  | .leftShift => some .leftShift
  | .rightShift => some .rightShift
  | .floatPlus => some .floatAdd
  | .floatMinus => some .floatSubtract
  | .floatMultiply => some .floatMultiply
  | .floatDivide => some .floatDivide
  | .floatEqual => some .floatEqual
  | .floatNotEqual => some .floatNotEqual
  | .floatLess => some .floatLess
  | .floatLessEqual => some .floatLessEqual
  | .floatGreater => some .floatGreater
  | .floatGreaterEqual => some .floatGreaterEqual
  | _ => none

/-- `get_token_precedence`. -/
def tokenPrecedence : TokenType -> Nat
  | .conditional => 1
  | .logicalOr => 2
  | .bitwiseOr => 3
  | .logicalAnd => 3
  | .equivalence | .notEquivalence => 4
  | .equal | .notEqual | .less | .lessEqual | .greater | .greaterEqual
  | .floatEqual | .floatNotEqual | .floatLess | .floatLessEqual | .floatGreater
  | .floatGreaterEqual => 5
  | .leftShift | .rightShift => 6
  | .plus | .minus | .floatPlus | .floatMinus => 7
  | .multiply | .divide | .remainder | .floatMultiply | .floatDivide => 8
  | .leftParen | .vecIndirection | .charIndirection | .floatVecIndirection
  | .bitfield => 9
  | _ => 0

/-- The prefix operators of `parse_expression`. -/
def prefixOperator : TokenType -> Option UnaryOperator
  | .bitwiseNot => some .bitwiseNot
  | .logicalNot => some .logicalNot
  | .addressOf => some .addressOf
  | .indirection => some .indirection
  | .minus => some .negate
  | .hdKeyword => some .headOf
  | .tlKeyword => some .tailOf
  | .restKeyword => some .tailOfNonDestructive
  | .floatKeyword => some .floatConvert
  | _ => none

/-- The built-in type constants of `parse_primary_expression`. -/
def typeConstant : TokenType -> Option Int
  | .typeInt => some 1
  | .typeFloat => some 2
  | .typeString => some 4
  | .typeList => some 512
  | .typeVec => some 256
  | .typePointer => some 4096
  | .typeConst => some 8192
  | .typeAny => some 8
  | .typeTable => some 1024
  | _ => none

/-- The intrinsics of `parse_primary_expression` with their names in messages. -/
def intrinsic : TokenType -> Option (String × UnaryOperator)
  | .lenKeyword => some ("LEN", .lengthOf)
  | .typeOfKeyword => some ("TYPEOF", .typeOf)
  | .fsqrtKeyword => some ("FSQRT", .floatSqrt)
  | .entierKeyword => some ("ENTIER", .floatFloor)
  | .truncKeyword => some ("TRUNC", .floatTruncate)
  | _ => none

/-- The search for a point or the letter of an exponent. -/
def hasFloatMark (text : List Char) : Bool :=
  text.any fun char => char == '.' || char == 'e' || char == 'E'

/-- The number literal rule of `parse_primary_expression`. -/
def parseNumberLiteral (rounding : Rounding) : Parse (Option Expression) := do
  advance
  let state <- look
  let text := state.previous.value
  if hasFloatMark text then
    match stod rounding text with
    | .ok value => pure (some (.floatLiteral value))
    | .error exception => escape exception
  else
    match stoll text with
    | .ok value => pure (some (.integerLiteral value))
    | .error exception => escape exception

section Expressions

variable (rounding : Rounding) (callees : Callees) (rounds : Nat)

/-- Comma-separated expressions in parentheses, with the three messages. -/
def parseInitializers (openMessage emptyMessage closeMessage : String) :
    Parse (List (Option Expression)) := do
  consume .leftParen openMessage
  let empty <- check .rightParen
  if empty then do
    consume .rightParen emptyMessage
    pure []
  else do
    let initializers <- repeated (matchToken .comma) (callees.expression 0) rounds
    consume .rightParen closeMessage
    pure initializers

/-- `parse_list_expression`. -/
def parseListExpression (isManifest : Bool) : Parse (Option Expression) := do
  let initializers <- parseInitializers callees rounds
    "Expect '(' after LIST or MANIFESTLIST." "Expect ')' to close empty list."
    "Expect ')' to close LIST expression."
  pure (some (.list initializers isManifest))

/-- `parse_vec_initializer_expression`. -/
def parseVecInitializerExpression : Parse (Option Expression) := do
  let initializers <- parseInitializers callees rounds
    "Expect '(' after VEC for initializer list." "Expect ')' to close empty VEC()."
    "Expect ')' to close VEC initializer list."
  pure (some (.vecInitializer initializers))

/-- `parse_table_expression`. -/
def parseTableExpression (isFloatTable : Bool) : Parse (Option Expression) := do
  advance
  let initializers <- parseInitializers callees rounds
    "Expect '(' after TABLE or FTABLE." "Expect ')' to close empty TABLE."
    "Expect ')' to close TABLE expression."
  pure (some (.table initializers isFloatTable))

/-- `parse_grouped_expression`. -/
def parseGroupedExpression : Parse (Option Expression) := do
  let expression <- callees.expression 0
  consume .rightParen "Expect ')' after expression."
  pure expression

/-- An intrinsic on one argument in parentheses. -/
def parseIntrinsic (name : String) (op : UnaryOperator) : Parse (Option Expression) := do
  advance
  consume .leftParen ("Expect '(' after " ++ name ++ ".")
  let operand <- callees.expression 0
  consume .rightParen ("Expect ')' after " ++ name ++ " expression.")
  pure (some (.unaryOp op operand))

/-- The rules of `parse_primary_expression` for tokens that are neither a type
constant nor an intrinsic. -/
def parsePlainPrimary (token : Token) : Parse (Option Expression) :=
  match token.type with
  | .numberLiteral => parseNumberLiteral rounding
  | .stringLiteral => do
      advance
      pure (some (.stringLiteral token.value))
  | .charLiteral => do
      advance
      pure (some (.charLiteral (token.value.headD '\x00')))
  | .booleanLiteral => do
      advance
      pure (some (.booleanLiteral (token.value == ['T', 'R', 'U', 'E'])))
  | .listKeyword => do
      advance
      parseListExpression callees rounds false
  | .manifestListKeyword => do
      advance
      parseListExpression callees rounds true
  | .identifier => do
      advance
      pure (some (.variableAccess token.value))
  | .leftParen => do
      advance
      parseGroupedExpression callees
  | .valofKeyword => do
      advance
      let body <- callees.statement
      pure (some (.valof body))
  | .fvalofKeyword => do
      advance
      let body <- callees.statement
      pure (some (.floatValof body))
  | .vecKeyword => do
      advance
      let initialized <- check .leftParen
      if initialized then parseVecInitializerExpression callees rounds
      else do
        let size <- callees.expression 0
        pure (some (.vecAllocation size))
  | .fvecKeyword => do
      advance
      let size <- callees.expression 0
      pure (some (.fvecAllocation size))
  | .stringKeyword => do
      advance
      let size <- callees.expression 0
      pure (some (.stringAllocation size))
  | .tableKeyword => parseTableExpression callees rounds false
  | .ftableKeyword => parseTableExpression callees rounds true
  | _ => do
      error "Expected an expression."
      pure none

/-- `parse_primary_expression`. -/
def parsePrimaryExpression : Parse (Option Expression) := do
  let state <- look
  match typeConstant state.current.type, intrinsic state.current.type with
  | some value, _ => do
      advance
      pure (some (.integerLiteral value))
  | none, some (name, op) => parseIntrinsic callees name op
  | none, none => parsePlainPrimary rounding callees rounds state.current

/-- The first part of `parse_expression`: a prefix operator or a primary. -/
def parseOperand : Parse (Option Expression) := do
  let state <- look
  match prefixOperator state.current.type with
  | some op => do
      advance
      let operand <- callees.expression 8
      pure (some (.unaryOp op operand))
  | none => parsePrimaryExpression rounding callees rounds

/-- The arguments of a call. -/
def parseArguments : Parse (List (Option Expression)) := do
  let empty <- check .rightParen
  let arguments <-
    if empty then pure []
    else repeated (matchToken .comma) (callees.expression 0) rounds
  consume .rightParen "Expect ')' after function arguments."
  pure arguments

/-- The start and the width of a bit-field. -/
def parseBitfield (left : Expression) : Parse (Option Expression) := do
  consume .leftParen "Expect '(' after '%%' operator."
  let startBit <- callees.expression 0
  consume .comma "Expect ',' separating start and width in bit-field."
  let width <- callees.expression 0
  consume .rightParen "Expect ')' to close bit-field expression."
  pure (some (.bitfieldAccess left startBit width))

/-- The two cases of a conditional. -/
def parseConditional (left : Expression) : Parse (Option Expression) := do
  let trueExpr <- callees.expression 0
  consume .comma "Expect ',' in conditional expression."
  let falseExpr <- callees.expression 1
  pure (some (.conditional left trueExpr falseExpr))

/-- The right operand of a binary operator. -/
def parseBinary (type : TokenType) (left : Expression) : Parse (Option Expression) :=
  match toBinaryOp type with
  | none => escape .logicError
  | some op => do
      let right <- callees.expression (tokenPrecedence type)
      match right with
      | none => do
          error "Expected an expression for right operand of binary operator."
          pure none
      | some right => pure (some (.binaryOp op left right))

/-- One round of the loop of `parse_expression`, after the operator's token. -/
def parseInfix (type : TokenType) (left : Expression) : Parse (Option Expression) :=
  match type with
  | .leftParen => do
      let arguments <- parseArguments callees rounds
      pure (some (.functionCall left arguments))
  | .vecIndirection => do
      let index <- callees.expression 9
      pure (some (.vectorAccess left index))
  | .charIndirection => do
      let index <- callees.expression 9
      pure (some (.charIndirection left index))
  | .floatVecIndirection => do
      let index <- callees.expression 9
      pure (some (.floatVectorIndirection left index))
  | .bitfield => parseBitfield callees left
  | .conditional => parseConditional callees left
  | type => parseBinary callees type left

/-- The loop of `parse_expression`. -/
def infixLoop (precedence : Nat) : Nat -> Option Expression -> Parse (Option Expression)
  | 0, _ => outOfRounds
  | _ + 1, none => pure none
  | remaining + 1, some left => do
      let state <- look
      if precedence < tokenPrecedence state.current.type then do
        advance
        let next <- parseInfix callees rounds state.current.type left
        infixLoop precedence remaining next
      else pure (some left)

/-- `parse_expression`. -/
def parseExpression (precedence : Nat) : Parse (Option Expression) := do
  let left <- parseOperand rounding callees rounds
  infixLoop callees rounds precedence rounds left

end Expressions

end Parsing
end NewBcpl
