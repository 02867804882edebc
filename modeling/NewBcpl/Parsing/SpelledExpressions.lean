import NewBcpl.Parsing.SpelledTokens

namespace NewBcpl
namespace Parsing

open Parse
open TokenType (noConfusion)

/-!
# The parser on spelled phrases

What each function of the parser does in front of the phrase it is for: with two rounds
for each token it takes the tokens of the phrase and returns its tree. There is one
lemma for each rule of the concrete syntax; those of expressions come first.
-/

/-- The tokens at which an expression can start. -/
def startsExpression : TokenType -> Bool
  | .bitwiseNot | .logicalNot | .addressOf | .indirection | .minus | .hdKeyword | .tlKeyword
  | .restKeyword | .floatKeyword | .typeInt | .typeFloat | .typeString | .typeList | .typeVec
  | .typePointer | .typeConst | .typeAny | .typeTable | .lenKeyword | .typeOfKeyword
  | .fsqrtKeyword | .entierKeyword | .truncKeyword | .numberLiteral | .stringLiteral
  | .charLiteral | .booleanLiteral | .identifier | .listKeyword | .manifestListKeyword
  | .vecKeyword | .tableKeyword | .ftableKeyword | .fvecKeyword | .stringKeyword | .leftParen
  | .valofKeyword | .fvalofKeyword => true
  | _ => false

/-- The tokens at which a statement can start. -/
def beginsStatement : TokenType -> Bool
  | .leftBrace | .repeatKeyword | .ifKeyword | .unlessKeyword | .testKeyword | .whileKeyword
  | .forKeyword | .forEachKeyword | .switchonKeyword | .gotoKeyword | .freevecKeyword
  | .returnKeyword | .finishKeyword | .breakKeyword | .brkKeyword | .loopKeyword
  | .endcaseKeyword | .resultisKeyword => true
  | type => startsExpression type

section Starts

variable {rounding : Rounding} {tokens : List Token} {next : TokenType}

/-- The tables of the concrete syntax name only tokens at which an expression starts. -/
theorem starts_of_table {type : TokenType}
    (named : (prefixOperator type).isSome || (typeConstant type).isSome ||
      (intrinsic type).isSome || (collectionTree type).isSome || (allocationTree type).isSome ||
      (valofTree type).isSome) : startsExpression type = true := by
  revert named
  cases type <;> first | exact fun _ => rfl | exact fun named => Bool.noConfusion named

theorem starts_of_atomTree {token : Token} {tree : Expression}
    (isAtom : atomTree token = some tree) : startsExpression token.type = true := by
  revert isAtom
  unfold atomTree
  split <;> rename_i isType <;> intro isAtom
  case h_5 =>
    rcases Option.map_eq_some_iff.mp isAtom with ⟨value, isConstant, same⟩
    exact starts_of_table (by simp [isConstant])
  all_goals
    rw [isType]
    rfl

/-- The tokens go on from a first one of a type with the property. -/
def StartsWith (tokens : List Token) (property : TokenType -> Prop) : Prop :=
  exists token rest, tokens = token :: rest ∧ property token.type

theorem StartsWith.append {property : TokenType -> Prop} (starts : StartsWith tokens property)
    (rest : List Token) : StartsWith (tokens ++ rest) property := by
  rcases starts with ⟨token, others, same, holds⟩
  exact ⟨token, others ++ rest, by rw [same]; rfl, holds⟩

theorem StartsWith.weaken {property other : TokenType -> Prop}
    (starts : StartsWith tokens property) (weaker : forall type, property type -> other type) :
    StartsWith tokens other := by
  rcases starts with ⟨token, others, same, holds⟩
  exact ⟨token, others, same, weaker _ holds⟩

/-- The words in front of a block of definitions. -/
def opensDefinitions (type : TokenType) : Prop :=
  type = .manifestKeyword ∨ type = .staticKeyword ∨ type = .globalKeyword

/-- The first token of the phrases that have one. -/
abbrev Phrase.Starts (tokens : List Token) : Phrase -> Prop
  | .expression _ _ | .operand _ | .expressions _ => StartsWith tokens (startsExpression · = true)
  | .names _ => StartsWith tokens (· = .identifier)
  | .statement _ | .simple _ => StartsWith tokens (beginsStatement · = true)
  | .binding _ => StartsWith tokens isLet
  | .definition _ => StartsWith tokens opensDefinitions
  | .declaration _ => StartsWith tokens fun type => isLet type ∨ opensDefinitions type
  | _ => True

theorem begins_of_starts {type : TokenType} (starts : startsExpression type = true) :
    beginsStatement type = true := by
  unfold beginsStatement
  split <;> first | rfl | exact starts

/-- The tables of the statements name only tokens at which a statement starts. -/
theorem begins_of_table {type : TokenType}
    (named : (keywordTree type).isSome || (keywordExpressionTree type).isSome ||
      (branchTree type).isSome) : beginsStatement type = true := by
  revert named
  cases type <;> first | exact fun _ => rfl | exact fun named => Bool.noConfusion named

theorem Spells.starts {phrase : Phrase} (spelled : Spells rounding phrase tokens next) :
    phrase.Starts tokens := by
  induction spelled with
  | expression operand further starts => exact starts.append _
  | atom isAtom => exact ⟨_, _, rfl, starts_of_atomTree isAtom⟩
  | number isNumber => exact ⟨_, _, rfl, by simp [isNumber, startsExpression]⟩
  | prefixed isPrefix => exact ⟨_, _, rfl, starts_of_table (by simp [isPrefix])⟩
  | intrinsic isIntrinsic => exact ⟨_, _, rfl, starts_of_table (by simp [isIntrinsic])⟩
  | collection isCollection => exact ⟨_, _, rfl, starts_of_table (by simp [isCollection])⟩
  | allocation isAllocation => exact ⟨_, _, rfl, starts_of_table (by simp [isAllocation])⟩
  | group opens => exact ⟨_, _, rfl, by simp [opens, startsExpression]⟩
  | valof isValof => exact ⟨_, _, rfl, starts_of_table (by simp [isValof])⟩
  | lastExpression tree ends starts => exact starts
  | moreExpressions tree separates trees starts => exact starts.append _
  | lastName isName => exact ⟨_, _, rfl, isName⟩
  | moreNames isName => exact ⟨_, _, rfl, isName⟩
  | statement simple ends starts => exact starts
  | repeated simple isRepeat ends starts => exact starts.append _
  | repeatedWith simple isRepeat isLoop condition starts => exact starts.append _
  | keyword isKeyword => exact ⟨_, _, rfl, begins_of_table (by simp [isKeyword])⟩
  | keywordExpression isKeyword => exact ⟨_, _, rfl, begins_of_table (by simp [isKeyword])⟩
  | branch isBranch => exact ⟨_, _, rfl, begins_of_table (by simp [isBranch])⟩
  | label isName | block isName | test isName | testElse isName | whileLoop isName
  | untilLoop isName | forLoop isName | forLoopBy isName | forEach isName
  | forEachTyped isName | switchon isName =>
      exact ⟨_, _, rfl, by simp [isName, beginsStatement, startsExpression]⟩
  | routineCall call starts => exact starts.weaken fun _ => begins_of_starts
  | assignment notCall tree targets isAssign values count starts =>
      exact (starts.append _).weaken fun _ => begins_of_starts
  | binding isWord => exact ⟨_, _, rfl, isWord⟩
  | globalBlock isGlobal => exact ⟨_, _, rfl, Or.inr (Or.inr isGlobal)⟩
  | manifestBlock isManifest => exact ⟨_, _, rfl, Or.inl isManifest⟩
  | staticBlock isStatic => exact ⟨_, _, rfl, Or.inr (Or.inl isStatic)⟩
  | definition definition starts => exact starts.weaken fun _ => Or.inr
  | function isWord | routine isWord | globalVariables isWord =>
      exact ⟨_, _, rfl, Or.inl isWord⟩
  | _ => trivial

/-- A type at which an expression starts is none at which it does not. -/
theorem ne_of_starts {starts : TokenType -> Bool} {type other : TokenType}
    (isStart : starts type = true) (isNone : starts other = false) : type ≠ other := by
  intro same
  rw [same, isNone] at isStart
  cases isStart

end Starts

/-- The functions of the parser on a level of its recursion, without an observer. -/
abbrev level (rounding : Rounding) (rounds : Nat) : Callees :=
  callees rounding Observer.none rounds

/-- What the parser does in front of a phrase. -/
def ReadsPhrase (rounding : Rounding) (phrase : Phrase) (tokens : List Token)
    (next : TokenType) : Prop :=
  match phrase with
  | .expression precedence tree => forall rounds, 2 * tokens.length ≤ rounds ->
      Takes ((level rounding rounds).expression precedence) tokens next (some tree)
  | .operand tree => forall rounds, 2 * tokens.length ≤ rounds + 1 ->
      Takes (parseOperand rounding (level rounding rounds) rounds) tokens next (some tree)
  | .further precedence left tree => forall rounds remaining,
      2 * tokens.length ≤ rounds -> tokens.length < remaining ->
        Takes (infixLoop (level rounding rounds) rounds precedence remaining (some left))
          tokens next (some tree)
  | .infixed type left tree => forall rounds, 2 * tokens.length ≤ rounds ->
      Takes (parseInfix (level rounding rounds) rounds type left) tokens next (some tree)
  | .expressions trees => forall rounds remaining, 2 * tokens.length ≤ rounds ->
      tokens.length ≤ remaining ->
        Takes (repeated (matchToken .comma) ((level rounding rounds).expression 0) remaining)
          tokens next (trees.map some)
  | .arguments trees => trees = [] ∧ tokens = [] ∨
      firstType tokens next ≠ .rightParen ∧ forall rounds remaining,
        2 * tokens.length ≤ rounds -> tokens.length ≤ remaining ->
          Takes (repeated (matchToken .comma) ((level rounding rounds).expression 0)
            remaining) tokens next (trees.map some)
  | .names names => forall message remaining, tokens.length ≤ remaining ->
      Takes (repeated (matchToken .comma) (parseName message) remaining) tokens next names
  | .parameters names => names = [] ∧ tokens = [] ∨
      firstType tokens next ≠ .rightParen ∧ forall message remaining,
        tokens.length ≤ remaining ->
          Takes (repeated (matchToken .comma) (parseName message) remaining) tokens next names
  | .targets trees => forall rounds remaining, 2 * tokens.length ≤ rounds ->
      tokens.length < remaining ->
        Takes (parseTargets (level rounding rounds) remaining) tokens next (trees.map some)
  | .statement tree => forall rounds, 2 * tokens.length < rounds ->
      Takes (level rounding rounds).statement tokens next (some tree)
  | .simple tree => forall rounds, 2 * tokens.length ≤ rounds ->
      Takes (parsePrimaryStatement (level rounding rounds) rounds) tokens next (some tree)
  | .binding tree => forall rounds, 2 * tokens.length ≤ rounds ->
      Takes (parseLetStatement (level rounding rounds) rounds) tokens next (some tree)
  | .items items => forall rounds remaining, 2 * tokens.length < rounds ->
      tokens.length < remaining ->
        Takes (blockLoop (level rounding rounds) rounds remaining) tokens next items
  | .cases before after => forall rounds remaining, 2 * tokens.length < rounds ->
      tokens.length < remaining ->
        Takes (switchLoop (level rounding rounds) remaining before) tokens next after
  | .globals globals => forall remaining, tokens.length ≤ remaining ->
      Takes (repeated matchSeparator parseGlobal remaining) tokens next globals
  | .definition tree => forall rounds, 2 * tokens.length ≤ rounds ->
      Takes (parseDeclaration (level rounding rounds) rounds) tokens next (some tree)
  | .declaration tree => forall rounds, 2 * tokens.length < rounds ->
      Takes (programRound (level rounding rounds) rounds) tokens next ([some tree], true)
  | .declarations trees => forall rounds remaining, 2 * tokens.length < rounds ->
      tokens.length < remaining ->
        Takes (programLoop (level rounding rounds) rounds remaining) tokens next
          (trees.map some)

section Expressions

variable {rounding : Rounding} {first rest tokens : List Token} {token : Token}
  {next type : TokenType} {rounds : Nat} {tree : Expression} {trees : List Expression}

theorem reads_expression {precedence : Nat} {left tree : Expression}
    (starts : first ≠ [])
    (operand : ReadsPhrase rounding (.operand left) first (firstType rest next))
    (further : ReadsPhrase rounding (.further precedence left tree) rest next) :
    ReadsPhrase rounding (.expression precedence tree) (first ++ rest) next := by
  intro rounds enough
  have positive : 0 < first.length := List.length_pos_iff.mpr starts
  rw [List.length_append] at enough
  cases rounds with
  | zero => omega
  | succ rounds =>
      change Takes (parseExpression rounding (level rounding rounds) rounds precedence) _ _ _
      unfold parseExpression
      exact .bind (operand rounds (by omega)) (further rounds rounds (by omega) (by omega))

/-- An operand that is not a prefix operator is a primary. -/
theorem takes_primary
    (noPrefix : prefixOperator token.type = none)
    (read : Takes (parsePrimaryExpression rounding (level rounding rounds) rounds)
      (token :: tokens) next (some tree)) :
    Takes (parseOperand rounding (level rounding rounds) rounds) (token :: tokens) next
      (some tree) := by
  unfold parseOperand
  apply Takes.look
  intro state previous behind clean follows
  rw [List.cons_append, facing_current_cons, noPrefix]
  exact read

/-- The primaries that are neither a type constant nor an intrinsic. -/
theorem takes_plain
    (isType : token.type = type) (noPrefix : prefixOperator type = none)
    (noConstant : typeConstant type = none) (noIntrinsic : intrinsic type = none)
    (read : Takes (parsePlainPrimary rounding (level rounding rounds) rounds token)
      (token :: tokens) next (some tree)) :
    Takes (parseOperand rounding (level rounding rounds) rounds) (token :: tokens) next
      (some tree) := by
  subst isType
  apply takes_primary noPrefix
  unfold parsePrimaryExpression
  apply Takes.look
  intro state previous behind clean follows
  rw [List.cons_append, facing_current_cons, noConstant, noIntrinsic]
  exact read

theorem reads_prefixed {op : UnaryOperator}
    (isPrefix : prefixOperator token.type = some op)
    (operand : ReadsPhrase rounding (.expression 8 tree) tokens next) :
    ReadsPhrase rounding (.operand (.unaryOp op (some tree))) (token :: tokens) next := by
  intro rounds enough
  rw [List.length_cons] at enough
  unfold parseOperand
  apply Takes.look
  intro state previous behind clean follows
  rw [List.cons_append, facing_current_cons, isPrefix]
  exact .cons .advance (.last (operand rounds (by omega)) .pure)

theorem noPrefix_of_typeConstant {value : Int}
    (isConstant : typeConstant type = some value) : prefixOperator type = none := by
  revert isConstant
  unfold typeConstant
  split <;> intro isConstant <;> first | rfl | cases isConstant

/-- The type constants are primaries of one token. -/
theorem reads_constant {value : Int} (isConstant : typeConstant token.type = some value) :
    ReadsPhrase rounding (.operand (.integerLiteral value)) [token] next := by
  intro rounds enough
  apply takes_primary (noPrefix_of_typeConstant isConstant)
  unfold parsePrimaryExpression
  apply Takes.look
  intro state previous behind clean follows
  rw [List.cons_append, facing_current_cons, isConstant]
  exact .last .advance .pure

/-- A primary that is its token. -/
theorem reads_token (isType : token.type = type)
    (noPrefix : prefixOperator type = none) (noConstant : typeConstant type = none)
    (noIntrinsic : intrinsic type = none)
    (same : forall rounds, parsePlainPrimary rounding (level rounding rounds) rounds token =
      advance >>= fun _ => pure (some tree)) :
    ReadsPhrase rounding (.operand tree) [token] next := by
  intro rounds enough
  apply takes_plain isType noPrefix noConstant noIntrinsic
  rw [same]
  exact .last .advance .pure

theorem reads_atom (isAtom : atomTree token = some tree) :
    ReadsPhrase rounding (.operand tree) [token] next := by
  revert isAtom
  unfold atomTree
  split <;> rename_i isType <;> intro isAtom
  case h_5 =>
    rcases Option.map_eq_some_iff.mp isAtom with ⟨value, isConstant, same⟩
    rw [<- same]
    exact reads_constant isConstant
  all_goals
    rcases Option.some.inj isAtom with rfl
    apply reads_token isType rfl rfl rfl
    intro rounds
    unfold parsePlainPrimary
    rw [isType]

theorem takes_numberLiteral
    (denotes : numberTree rounding token.value = .ok tree) :
    Takes (parseNumberLiteral rounding) [token] next (some tree) := by
  unfold parseNumberLiteral
  intro state previous behind clean follows legible readable
  refine ⟨token, ?_⟩
  have taken : advance (state.facing previous ([token] ++ behind)) =
      .done () (state.facing token behind) := advance_facing (legible_of follows legible)
  rw [bind_done taken, bind_done (show look _ = _ from rfl), facing_previous]
  unfold numberTree at denotes
  by_cases isFloat : hasFloatMark token.value
  · rw [if_pos isFloat] at denotes ⊢
    cases converted : stod rounding token.value with
    | ok value =>
        rw [converted] at denotes
        rcases denotes with ⟨⟩
        rfl
    | error exception =>
        rw [converted] at denotes
        cases denotes
  · rw [if_neg isFloat] at denotes ⊢
    cases converted : stoll token.value with
    | ok value =>
        rw [converted] at denotes
        rcases denotes with ⟨⟩
        rfl
    | error exception =>
        rw [converted] at denotes
        cases denotes

theorem reads_number (isNumber : token.type = .numberLiteral)
    (denotes : numberTree rounding token.value = .ok tree) :
    ReadsPhrase rounding (.operand tree) [token] next := by
  intro rounds enough
  apply takes_plain isNumber rfl rfl rfl
  unfold parsePlainPrimary
  rw [isNumber]
  exact takes_numberLiteral denotes

theorem noPrefix_of_intrinsic {named : String × UnaryOperator}
    (isIntrinsic : intrinsic type = some named) :
    prefixOperator type = none ∧ typeConstant type = none := by
  revert isIntrinsic
  unfold intrinsic
  split <;> intro isIntrinsic <;> first | exact ⟨rfl, rfl⟩ | cases isIntrinsic

theorem reads_intrinsic {opening closing : Token} {name : String} {op : UnaryOperator}
    (isIntrinsic : intrinsic token.type = some (name, op))
    (opens : opening.type = .leftParen)
    (operand : ReadsPhrase rounding (.expression 0 tree) tokens .rightParen)
    (closes : closing.type = .rightParen) :
    ReadsPhrase rounding (.operand (.unaryOp op (some tree)))
      (token :: opening :: (tokens ++ [closing])) next := by
  intro rounds enough
  simp only [List.length_cons, List.length_append] at enough
  rcases noPrefix_of_intrinsic isIntrinsic with ⟨noPrefix, noConstant⟩
  apply takes_primary noPrefix
  unfold parsePrimaryExpression
  apply Takes.look
  intro state previous behind clean follows
  rw [List.cons_append, facing_current_cons, noConstant, isIntrinsic]
  unfold parseIntrinsic
  refine .cons .advance (.consume opens noConfusion ?_)
  exact .upTo closes (operand rounds (by omega)) (.closing closes noConfusion)

theorem takes_initializers {opening closing : Token}
    (opens : opening.type = .leftParen)
    (arguments : ReadsPhrase rounding (.arguments trees) tokens .rightParen)
    (closes : closing.type = .rightParen) (enough : 2 * tokens.length ≤ rounds)
    (openMessage emptyMessage closeMessage : String) :
    Takes (parseInitializers (level rounding rounds) rounds openMessage emptyMessage
      closeMessage) (opening :: (tokens ++ [closing])) next (trees.map some) := by
  unfold parseInitializers
  refine .consume opens noConfusion ?_
  rcases arguments with ⟨none, empty⟩ | ⟨notClosed, arguments⟩
  · subst none empty
    exact .still (.checked closes noConfusion) (.closing closes noConfusion)
  · rw [<- firstType_upTo closes] at notClosed
    refine .still (.unchecked notClosed noConfusion) ?_
    exact .upTo closes (arguments rounds rounds enough (by omega)) (.closing closes noConfusion)

theorem reads_collection {opening closing : Token}
    {build : List (Option Expression) -> Expression}
    (isCollection : collectionTree token.type = some build)
    (opens : opening.type = .leftParen)
    (arguments : ReadsPhrase rounding (.arguments trees) tokens .rightParen)
    (closes : closing.type = .rightParen) :
    ReadsPhrase rounding (.operand (build (trees.map some)))
      (token :: opening :: (tokens ++ [closing])) next := by
  intro rounds enough
  simp only [List.length_cons, List.length_append] at enough
  have initializers : forall openMessage emptyMessage closeMessage,
      Takes (parseInitializers (level rounding rounds) rounds openMessage emptyMessage
        closeMessage) (opening :: (tokens ++ [closing])) next (trees.map some) :=
    takes_initializers opens arguments closes (by omega)
  revert isCollection
  unfold collectionTree
  split <;> rename_i isType <;> intro isCollection
  case h_6 => cases isCollection
  all_goals
    rcases Option.some.inj isCollection with rfl
    apply takes_plain isType rfl rfl rfl
    unfold parsePlainPrimary
    rw [isType]
  case h_3 =>
    exact .cons .advance (.still (.checked opens noConfusion) (.last (initializers _ _ _) .pure))
  all_goals exact .cons .advance (.last (initializers _ _ _) .pure)

theorem reads_allocation {build : Option Expression -> Expression}
    (isAllocation : allocationTree token.type = some build)
    (apart : token.type = .vecKeyword -> firstType tokens next ≠ .leftParen)
    (size : ReadsPhrase rounding (.expression 0 tree) tokens next) :
    ReadsPhrase rounding (.operand (build (some tree))) (token :: tokens) next := by
  intro rounds enough
  simp only [List.length_cons] at enough
  have sized := size rounds (by omega)
  revert isAllocation
  unfold allocationTree
  split <;> rename_i isType <;> intro isAllocation
  case h_4 => cases isAllocation
  all_goals
    rcases Option.some.inj isAllocation with rfl
    apply takes_plain isType rfl rfl rfl
    unfold parsePlainPrimary
    rw [isType]
  case h_1 =>
    exact .cons .advance (.still (.unchecked (apart isType) noConfusion) (.last sized .pure))
  all_goals exact .cons .advance (.last sized .pure)

theorem reads_group {opening closing : Token}
    (opens : opening.type = .leftParen)
    (inner : ReadsPhrase rounding (.expression 0 tree) tokens .rightParen)
    (closes : closing.type = .rightParen) :
    ReadsPhrase rounding (.operand tree) (opening :: (tokens ++ [closing])) next := by
  intro rounds enough
  simp only [List.length_cons, List.length_append] at enough
  apply takes_plain opens rfl rfl rfl
  unfold parsePlainPrimary
  rw [opens]
  refine .cons .advance ?_
  exact .upTo closes (inner rounds (by omega)) (.closing closes noConfusion)

theorem reads_valof {build : Option Statement -> Expression} {tree : Statement}
    (isValof : valofTree token.type = some build)
    (body : ReadsPhrase rounding (.statement tree) tokens next) :
    ReadsPhrase rounding (.operand (build (some tree))) (token :: tokens) next := by
  intro rounds enough
  simp only [List.length_cons] at enough
  have read := body rounds (by omega)
  revert isValof
  unfold valofTree
  split <;> rename_i isType <;> intro isValof
  case h_3 => cases isValof
  all_goals
    rcases Option.some.inj isValof with rfl
    apply takes_plain isType rfl rfl rfl
    unfold parsePlainPrimary
    rw [isType]
    exact .cons .advance (.last read .pure)

theorem reads_noFurther {precedence : Nat}
    (ends : tokenPrecedence next ≤ precedence) :
    ReadsPhrase rounding (.further precedence tree tree) [] next := by
  intro rounds remaining enough more
  cases remaining with
  | zero => omega
  | succ remaining =>
      unfold infixLoop
      apply Takes.look
      intro state previous behind clean follows
      rw [facing_current_type, List.nil_append, follows, if_neg (by omega)]
      exact .pure

theorem reads_further {precedence : Nat} {left middle tree : Expression}
    (binds : precedence < tokenPrecedence token.type)
    (operator : ReadsPhrase rounding (.infixed token.type left middle) first (firstType rest next))
    (further : ReadsPhrase rounding (.further precedence middle tree) rest next) :
    ReadsPhrase rounding (.further precedence left tree) (token :: (first ++ rest)) next := by
  intro rounds remaining enough more
  simp only [List.length_cons, List.length_append] at enough more
  cases remaining with
  | zero => omega
  | succ remaining =>
      unfold infixLoop
      apply Takes.look
      intro state previous behind clean follows
      rw [facing_current_type, List.cons_append, nextType_cons, if_pos binds]
      exact .cons .advance (.bind (operator rounds (by omega))
        (further rounds remaining (by omega) (by omega)))

theorem takes_arguments {closing : Token}
    (arguments : ReadsPhrase rounding (.arguments trees) tokens .rightParen)
    (closes : closing.type = .rightParen) (enough : 2 * tokens.length ≤ rounds) :
    Takes (parseArguments (level rounding rounds) rounds) (tokens ++ [closing]) next
      (trees.map some) := by
  unfold parseArguments
  rcases arguments with ⟨none, empty⟩ | ⟨notClosed, arguments⟩
  · subst none empty
    exact .still (.checked closes noConfusion) (.still .pure (.closing closes noConfusion))
  · rw [<- firstType_upTo closes] at notClosed
    refine .still (.unchecked notClosed noConfusion) ?_
    exact .upTo closes (arguments rounds rounds enough (by omega)) (.closing closes noConfusion)

theorem reads_call {closing : Token} {left : Expression}
    (arguments : ReadsPhrase rounding (.arguments trees) tokens .rightParen)
    (closes : closing.type = .rightParen) :
    ReadsPhrase rounding (.infixed .leftParen left (.functionCall left (trees.map some)))
      (tokens ++ [closing]) next := by
  intro rounds enough
  simp only [List.length_append] at enough
  exact .last (takes_arguments arguments closes (by omega)) .pure

theorem reads_index {left tree : Expression}
    {build : Expression -> Option Expression -> Expression}
    (isIndex : indexTree type = some build)
    (index : ReadsPhrase rounding (.expression 9 tree) tokens next) :
    ReadsPhrase rounding (.infixed type left (build left (some tree))) tokens next := by
  intro rounds enough
  have read := index rounds enough
  revert isIndex
  unfold indexTree
  split <;> intro isIndex
  case h_4 => cases isIndex
  all_goals
    rcases Option.some.inj isIndex with rfl
    exact .last read .pure

theorem reads_bitfield {opening comma closing : Token} {left startBit width : Expression}
    {second : List Token} (opens : opening.type = .leftParen)
    (startBits : ReadsPhrase rounding (.expression 0 startBit) first .comma)
    (separates : comma.type = .comma)
    (widths : ReadsPhrase rounding (.expression 0 width) second .rightParen)
    (closes : closing.type = .rightParen) :
    ReadsPhrase rounding
      (.infixed .bitfield left (.bitfieldAccess left (some startBit) (some width)))
      (opening :: (first ++ comma :: (second ++ [closing]))) next := by
  intro rounds enough
  simp only [List.length_cons, List.length_append] at enough
  change Takes (parseBitfield (level rounding rounds) left) _ _ _
  unfold parseBitfield
  refine .consume opens noConfusion (.upTo separates (startBits rounds (by omega)) ?_)
  refine .consume separates noConfusion ?_
  exact .upTo closes (widths rounds (by omega)) (.closing closes noConfusion)

theorem reads_conditional {comma : Token} {left trueExpr falseExpr : Expression}
    {second : List Token} (trues : ReadsPhrase rounding (.expression 0 trueExpr) first .comma)
    (separates : comma.type = .comma)
    (falses : ReadsPhrase rounding (.expression 1 falseExpr) second next) :
    ReadsPhrase rounding
      (.infixed .conditional left (.conditional left (some trueExpr) (some falseExpr)))
      (first ++ comma :: second) next := by
  intro rounds enough
  simp only [List.length_cons, List.length_append] at enough
  change Takes (parseConditional (level rounding rounds) left) _ _ _
  unfold parseConditional
  refine .upTo separates (trues rounds (by omega)) ?_
  exact .consume separates noConfusion (.last (falses rounds (by omega)) .pure)

theorem reads_binary {op : BinaryOperator} {left right : Expression}
    (isBinary : toBinaryOp type = some op)
    (operand : ReadsPhrase rounding (.expression (tokenPrecedence type) right) tokens next) :
    ReadsPhrase rounding (.infixed type left (.binaryOp op left right)) tokens next := by
  intro rounds enough
  have same : parseInfix (level rounding rounds) rounds type left =
      parseBinary (level rounding rounds) type left := by
    unfold parseInfix
    split <;> first | rfl | cases isBinary
  rw [same]
  unfold parseBinary
  rw [isBinary]
  exact .last (operand rounds enough) .pure

theorem reads_lastExpression (starts : tokens ≠ [])
    (read : ReadsPhrase rounding (.expression 0 tree) tokens next) (ends : next ≠ .comma) :
    ReadsPhrase rounding (.expressions [tree]) tokens next := by
  intro rounds remaining enough more
  have positive : 0 < tokens.length := List.length_pos_iff.mpr starts
  cases remaining with
  | zero => omega
  | succ remaining =>
      exact repeated_last (read rounds enough) (.unmatched ends) remaining

theorem reads_moreExpressions {comma : Token}
    (read : ReadsPhrase rounding (.expression 0 tree) first .comma) (separates : comma.type = .comma)
    (others : ReadsPhrase rounding (.expressions trees) rest next) :
    ReadsPhrase rounding (.expressions (tree :: trees)) (first ++ comma :: rest) next := by
  intro rounds remaining enough more
  simp only [List.length_cons, List.length_append] at enough more
  cases remaining with
  | zero => omega
  | succ remaining =>
      have readFirst := read rounds (by omega)
      rw [<- separates] at readFirst
      exact repeated_more readFirst (.matched separates noConfusion)
        (others rounds remaining (by omega) (by omega))

end Expressions

end Parsing
end NewBcpl
