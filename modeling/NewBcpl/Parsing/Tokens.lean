import Mathlib.Data.List.Basic

namespace NewBcpl
namespace Parsing

/-!
# Tokens

The token types of the lexer, their texts in messages, and the tokens with their
positions. The words of the language carry the suffix `Keyword`.
-/

/-- `TokenType`. -/
inductive TokenType where
  | eof | error
  | letKeyword | manifestKeyword | staticKeyword | fstaticKeyword | tableKeyword
  | ftableKeyword | lenKeyword | globalKeyword | functionKeyword | routineKeyword
  | andKeyword | vecKeyword | fvecKeyword | ifKeyword | unlessKeyword | testKeyword
  | whileKeyword | untilKeyword | repeatKeyword | forKeyword | forEachKeyword
  | fforeachKeyword | inKeyword | switchonKeyword | caseKeyword | defaultKeyword
  | gotoKeyword | returnKeyword | finishKeyword | loopKeyword | endcaseKeyword
  | resultisKeyword | valofKeyword | fvalofKeyword | beKeyword | toKeyword | byKeyword
  | intoKeyword | doKeyword | orKeyword | breakKeyword | getKeyword | fletKeyword
  | thenKeyword | elseKeyword | stringKeyword | brkKeyword | freevecKeyword
  | identifier | numberLiteral | stringLiteral | charLiteral | booleanLiteral
  | assign | plus | minus | multiply | divide | remainder | equal | notEqual
  | less | lessEqual | greater | greaterEqual | logicalAnd | bitwiseAnd | logicalOr
  | bitwiseOr | bitwiseNot | logicalNot | equivalence | notEquivalence | leftShift
  | rightShift | conditional
  | addressOf | indirection | vecIndirection | charIndirection | charVectorIndirection
  | bitfield
  | floatPlus | floatMinus | floatMultiply | floatDivide | floatVecIndirection
  | floatEqual | floatNotEqual | floatLess | floatLessEqual | floatGreater
  | floatGreaterEqual
  | floatKeyword | fsqrtKeyword | entierKeyword | truncKeyword | listKeyword
  | manifestListKeyword
  | typeInt | typeFloat | typeString | typeList | typeVec | typePointer | typeConst
  | typeAny | typeTable
  | typeOfKeyword | hdKeyword | tlKeyword | restKeyword | freelistKeyword
  | leftParen | rightParen | leftBrace | rightBrace | comma | semicolon | colon
  deriving DecidableEq, Repr

/-- `to_string(TokenType)`; a type that its switch leaves out is unknown. -/
def TokenType.text : TokenType -> String
  | .eof => "Eof" | .error => "Error"
  | .letKeyword => "Let" | .manifestKeyword => "Manifest"
  | .staticKeyword => "Static" | .globalKeyword => "Global"
  | .functionKeyword => "Function" | .routineKeyword => "Routine"
  | .andKeyword => "And" | .vecKeyword => "Vec"
  | .ifKeyword => "If" | .unlessKeyword => "Unless"
  | .testKeyword => "Test" | .whileKeyword => "While"
  | .untilKeyword => "Until" | .repeatKeyword => "Repeat"
  | .forKeyword => "For" | .switchonKeyword => "Switchon"
  | .freevecKeyword => "FreeVec"
  | .caseKeyword => "Case" | .defaultKeyword => "Default"
  | .gotoKeyword => "Goto" | .returnKeyword => "Return"
  | .finishKeyword => "Finish" | .loopKeyword => "Loop"
  | .endcaseKeyword => "Endcase" | .resultisKeyword => "Resultis"
  | .valofKeyword => "Valof" | .beKeyword => "Be"
  | .toKeyword => "To" | .byKeyword => "By"
  | .intoKeyword => "Into" | .doKeyword => "Do"
  | .orKeyword => "Or" | .breakKeyword => "Break"
  | .stringKeyword => "String" | .brkKeyword => "Brk"
  | .identifier => "Identifier" | .numberLiteral => "NumberLiteral"
  | .stringLiteral => "StringLiteral" | .charLiteral => "CharLiteral"
  | .booleanLiteral => "BooleanLiteral" | .assign => "Assign"
  | .plus => "Plus" | .minus => "Minus"
  | .multiply => "Multiply" | .divide => "Divide"
  | .remainder => "Remainder" | .equal => "Equal"
  | .notEqual => "NotEqual" | .less => "Less"
  | .lessEqual => "LessEqual" | .greater => "Greater"
  | .greaterEqual => "GreaterEqual" | .logicalAnd => "LogicalAnd"
  | .logicalOr => "LogicalOr" | .equivalence => "Equivalence"
  | .notEquivalence => "NotEquivalence" | .leftShift => "LeftShift"
  | .rightShift => "RightShift" | .conditional => "Conditional"
  | .addressOf => "AddressOf" | .indirection => "Indirection"
  | .vecIndirection => "VecIndirection" | .charIndirection => "CharIndirection"
  | .floatPlus => "FloatPlus" | .floatMinus => "FloatMinus"
  | .floatMultiply => "FloatMultiply" | .floatDivide => "FloatDivide"
  | .floatVecIndirection => "FloatVecIndirection" | .floatEqual => "FloatEqual"
  | .floatNotEqual => "FloatNotEqual" | .floatLess => "FloatLess"
  | .floatLessEqual => "FloatLessEqual" | .floatGreater => "FloatGreater"
  | .floatGreaterEqual => "FloatGreaterEqual" | .leftParen => "LParen"
  | .rightParen => "RParen" | .leftBrace => "LBrace"
  | .rightBrace => "RBrace" | .comma => "Comma"
  | .semicolon => "Semicolon" | .colon => "Colon"
  | _ => "Unknown"

/-- `Token`. The text is kept as the list of its characters. -/
structure Token where
  type : TokenType
  value : List Char
  line : Nat
  column : Nat
  deriving DecidableEq, Repr

/-- A token that nothing has been read into. -/
def Token.blank : Token := { type := .eof, value := [], line := 0, column := 0 }

end Parsing
end NewBcpl
