import NewBcpl.Foundations.GrammarPhrases
import NewBcpl.Parsing.ExpressionParser

namespace NewBcpl
namespace Parsing

open Grammars

/-!
# The grammar of programs

The well-formed programs of the language as a context-free grammar over the token
types. It is ambiguous where the precedence of operators decides, and it has as many
values as names in a list of bindings and as targets in an assignment.
-/

/-- The phrases of the language. -/
inductive Nonterminal where
  | program | topDeclaration | parameters | names | body | bindings
  | definitionBlock | moreDefinitions | globals
  | block | items | statement | simpleStatement | assignment | switchBody | caseList
  | expression | call | arguments | expressions
  deriving DecidableEq

/-- All phrases. -/
def nonterminals : List Nonterminal :=
  [.program, .topDeclaration, .parameters, .names, .body, .bindings, .definitionBlock,
    .moreDefinitions, .globals, .block, .items, .statement, .simpleStatement, .assignment,
    .switchBody, .caseList, .expression, .call, .arguments, .expressions]

theorem mem_nonterminals (name : Nonterminal) : name ∈ nonterminals := by
  cases name <;> simp [nonterminals]

/-- A part of a phrase. -/
abbrev Piece : Type := Symbol TokenType Nonterminal

/-- A token as a part of a phrase. -/
abbrev token (type : TokenType) : Piece := .terminal type

/-- A phrase as a part of another. -/
abbrev part (name : Nonterminal) : Piece := .nonterminal name

/-- The operators between two expressions. -/
def binaryOperators : List TokenType :=
  [.plus, .minus, .multiply, .divide, .remainder, .equal, .notEqual, .less, .lessEqual,
    .greater, .greaterEqual, .logicalAnd, .bitwiseAnd, .logicalOr, .bitwiseOr,
    .equivalence, .notEquivalence, .leftShift, .rightShift, .floatPlus, .floatMinus,
    .floatMultiply, .floatDivide, .floatEqual, .floatNotEqual, .floatLess,
    .floatLessEqual, .floatGreater, .floatGreaterEqual,
    .vecIndirection, .charIndirection, .charVectorIndirection, .floatVecIndirection]

/-- The operators in front of an expression, and the allocations. -/
def prefixes : List TokenType :=
  [.bitwiseNot, .logicalNot, .addressOf, .indirection, .minus, .hdKeyword, .tlKeyword,
    .restKeyword, .floatKeyword, .vecKeyword, .fvecKeyword, .stringKeyword]

/-- The intrinsics, which have one argument. -/
def intrinsics : List TokenType :=
  [.lenKeyword, .typeOfKeyword, .fsqrtKeyword, .entierKeyword, .truncKeyword]

/-- The words in front of initializers in parentheses. -/
def collections : List TokenType :=
  [.listKeyword, .manifestListKeyword, .vecKeyword, .tableKeyword, .ftableKeyword]

/-- The expressions of one token. -/
def atoms : List TokenType :=
  [.identifier, .numberLiteral, .stringLiteral, .charLiteral, .booleanLiteral, .typeInt,
    .typeFloat, .typeString, .typeList, .typeVec, .typePointer, .typeConst, .typeAny,
    .typeTable]

/-- The statements of one keyword. -/
def keywordStatements : List TokenType :=
  [.returnKeyword, .finishKeyword, .breakKeyword, .brkKeyword, .loopKeyword,
    .endcaseKeyword]

/-- The right sides of the rules for expressions. -/
def expressionRules : List (List Piece) :=
  atoms.map (fun atom => [token atom]) ++
  prefixes.map (fun operator => [token operator, part .expression]) ++
  binaryOperators.map (fun operator =>
    [part .expression, token operator, part .expression]) ++
  intrinsics.map (fun name =>
    [token name, token .leftParen, part .expression, token .rightParen]) ++
  collections.map (fun name =>
    [token name, token .leftParen, part .arguments, token .rightParen]) ++
  [ [part .call],
    [token .leftParen, part .expression, token .rightParen],
    [part .expression, token .bitfield, token .leftParen, part .expression, token .comma,
      part .expression, token .rightParen],
    [part .expression, token .conditional, part .expression, token .comma,
      part .expression],
    [token .valofKeyword, part .statement],
    [token .fvalofKeyword, part .statement] ]

/-- The right sides of the rules for statements without a `REPEAT` behind them. -/
def statementRules : List (List Piece) :=
  keywordStatements.map (fun keyword => [token keyword]) ++
  [ [token .identifier, token .colon],
    [part .block],
    [token .repeatKeyword, part .statement, token .untilKeyword, part .expression],
    [token .ifKeyword, part .expression, token .doKeyword, part .statement],
    [token .ifKeyword, part .expression, token .thenKeyword, part .statement],
    [token .unlessKeyword, part .expression, token .doKeyword, part .statement],
    [token .unlessKeyword, part .expression, token .thenKeyword, part .statement],
    [token .testKeyword, part .expression, token .doKeyword, part .statement],
    [token .testKeyword, part .expression, token .thenKeyword, part .statement],
    [token .testKeyword, part .expression, token .doKeyword, part .statement,
      token .elseKeyword, part .statement],
    [token .testKeyword, part .expression, token .thenKeyword, part .statement,
      token .elseKeyword, part .statement],
    [token .whileKeyword, part .expression, token .doKeyword, part .statement],
    [token .forKeyword, token .identifier, token .equal, part .expression,
      token .toKeyword, part .expression, token .doKeyword, part .statement],
    [token .forKeyword, token .identifier, token .equal, part .expression,
      token .toKeyword, part .expression, token .byKeyword, part .expression,
      token .doKeyword, part .statement],
    [token .forEachKeyword, token .identifier, token .inKeyword, part .expression,
      token .doKeyword, part .statement],
    [token .forEachKeyword, token .identifier, token .comma, token .identifier,
      token .inKeyword, part .expression, token .doKeyword, part .statement],
    [token .switchonKeyword, part .expression, token .intoKeyword, token .leftBrace,
      part .switchBody, token .rightBrace],
    [token .gotoKeyword, part .expression],
    [token .freevecKeyword, part .expression],
    [token .resultisKeyword, part .expression],
    [part .call],
    [part .assignment] ]

/-- The right sides of the rules for each phrase. -/
def productions : Nonterminal -> List (List Piece)
  | .program => [[], [part .topDeclaration, part .program]]
  | .topDeclaration =>
      [ [token .letKeyword, token .identifier, token .leftParen, part .parameters,
          token .rightParen, part .body],
        [token .fletKeyword, token .identifier, token .leftParen, part .parameters,
          token .rightParen, part .body],
        [token .letKeyword, part .bindings],
        [token .fletKeyword, part .bindings],
        [part .definitionBlock] ]
  | .parameters => [[], [part .names]]
  | .names => [[token .identifier], [token .identifier, token .comma, part .names]]
  | .body => [[token .equal, part .expression], [token .beKeyword, part .statement]]
  | .bindings =>
      [ [token .identifier, token .equal, part .expression],
        [token .identifier, token .comma, part .bindings, token .comma, part .expression] ]
  | .definitionBlock =>
      [ [token .manifestKeyword, token .leftBrace, token .identifier, token .equal,
          part .expression, part .moreDefinitions, token .rightBrace],
        [token .staticKeyword, token .leftBrace, token .identifier, token .equal,
          part .expression, part .moreDefinitions, token .rightBrace],
        [token .globalKeyword, token .leftBrace, part .globals, token .rightBrace] ]
  | .moreDefinitions =>
      [ [], [token .semicolon],
        [token .identifier, token .equal, part .expression, part .moreDefinitions],
        [token .semicolon, token .identifier, token .equal, part .expression,
          part .moreDefinitions],
        [token .comma, token .identifier, token .equal, part .expression,
          part .moreDefinitions] ]
  | .globals =>
      [ [token .identifier, token .colon, token .numberLiteral],
        [token .identifier, token .colon, token .numberLiteral, token .semicolon,
          part .globals],
        [token .identifier, token .colon, token .numberLiteral, token .comma,
          part .globals] ]
  | .block => [[token .leftBrace, part .items, token .rightBrace]]
  | .items =>
      [ [], [token .letKeyword, part .bindings, part .items],
        [token .fletKeyword, part .bindings, part .items],
        [part .definitionBlock, part .items],
        [part .statement, part .items] ]
  | .statement =>
      [ [part .simpleStatement],
        [part .simpleStatement, token .repeatKeyword],
        [part .simpleStatement, token .repeatKeyword, token .whileKeyword,
          part .expression],
        [part .simpleStatement, token .repeatKeyword, token .untilKeyword,
          part .expression] ]
  | .simpleStatement => statementRules
  | .assignment =>
      [ [part .expression, token .assign, part .expression],
        [part .expression, token .comma, part .assignment, token .comma,
          part .expression] ]
  | .switchBody =>
      [ [], [token .caseKeyword, part .expression, token .colon, part .statement,
          part .switchBody],
        [token .defaultKeyword, token .colon, part .statement, part .caseList] ]
  | .caseList =>
      [ [], [token .caseKeyword, part .expression, token .colon, part .statement,
          part .caseList] ]
  | .expression => expressionRules
  | .call =>
      [ [part .expression, token .leftParen, part .arguments, token .rightParen],
        [token .leftParen, part .call, token .rightParen] ]
  | .arguments => [[], [part .expressions]]
  | .expressions => [[part .expression], [part .expression, token .comma, part .expressions]]

/-- The grammar of programs. -/
abbrev programGrammar : ContextFreeGrammar TokenType where
  NT := Nonterminal
  initial := .program
  rules := (nonterminals.flatMap fun name =>
    (productions name).map (ContextFreeRule.mk name)).toFinset

/-- The words of token types that a part of a phrase has. -/
abbrev words (piece : Piece) : Language TokenType := phrase programGrammar piece

/-- The tokens are a program of the language. -/
def WellFormed (tokens : List Token) : Prop :=
  tokens.map Token.type ∈ programGrammar.language

/-- What the right side of a rule derives is a phrase. -/
theorem production_le {name : Nonterminal} {pieces : List Piece}
    (member : pieces ∈ productions name) : row programGrammar pieces ≤ words (part name) := by
  have rule : ContextFreeRule.mk name pieces ∈ programGrammar.rules := by
    rw [List.mem_toFinset, List.mem_flatMap]
    exact ⟨name, mem_nonterminals name, List.mem_map_of_mem member⟩
  exact row_le_phrase rule

/-- Expressions with commas between them. -/
theorem expressions_le (count : Nat) :
    words (part .expression) * (words (token .comma) * words (part .expression)) ^ count ≤
      words (part .expressions) := by
  have single : [part .expression] ∈ productions .expressions := by simp [productions]
  have more : [part .expression, token .comma, part .expressions] ∈
      productions .expressions := by simp [productions]
  exact separated_le (production_le single) (production_le more) count

end Parsing
end NewBcpl
