import NewBcpl.Parsing.ReadingRules

namespace NewBcpl
namespace Parsing

open Grammars Parse
open TokenType (noConfusion)

/-!
# What the expression parser reads

Each function of the expression parser reads an expression or reports an error, when
the functions that it calls back do so on what is left after a token.
-/

/-- The phrase that an expression parser reads for a tree. -/
def headOf : Option Expression -> Piece
  | some (.functionCall _ _) => part .call
  | _ => part .expression

section Trust

variable (total : Nat)

/-- An expression parser in a state. -/
def ReadsExpression (watched plain : Parse (Option Expression)) (state : ParserState) : Prop :=
  Runs total watched plain state fun value final =>
    Covers total state (words (headOf value)) (gainOf value) final

/-- A parser of another phrase in a state. -/
def Reads {Value : Type} (name : Nonterminal) (watched plain : Parse (Option Value))
    (state : ParserState) : Prop :=
  Runs total watched plain state fun value final =>
    Covers total state (words (part name)) (gainOf value) final

/-- What has been skipped in front of a closing brace are definitions. -/
structure Skipped (state final : ParserState) : Prop where
  fed : Fed total final
  shorter : final.unread.length ≤ state.unread.length
  clean : final.errors = [] -> state.errors = []
  reads : final.errors = [] -> final.check .rightBrace = true ->
    exists word, word ∈ words (part .moreDefinitions) ∧ state.unread = word ++ final.unread

/-- The words in front of a routine, which `parse_declaration` does not know. -/
def startsRoutine (type : TokenType) : Prop :=
  type = .functionKeyword ∨ type = .routineKeyword

/-- The words in front of a block of definitions. -/
def startsDefinitions (type : TokenType) : Prop :=
  type = .manifestKeyword ∨ type = .staticKeyword ∨ type = .globalKeyword

/-- What the functions that are called back do when fewer tokens are left than the
given number. -/
structure Trusted (size : Nat) (watched plain : Callees) : Prop where
  expression : forall precedence state, Fed total state -> state.unread.length < size ->
    ReadsExpression total (watched.expression precedence) (plain.expression precedence) state
  statement : forall state, Fed total state -> state.unread.length < size ->
    Reads total .statement watched.statement plain.statement state
  definitions : forall state, Fed total state -> state.unread.length < size ->
    startsDefinitions state.current.type ->
    Runs total watched.blockDeclaration plain.blockDeclaration state fun _ final =>
      Covers total state (words (part .definitionBlock)) 1 final
  stuck : forall state, startsRoutine state.current.type ->
    watched.blockDeclaration state = .halted .blockDeclaration state ∧
      exists message, plain.blockDeclaration state = .done none (state.error message)
  skip : forall state, Fed total state -> state.unread.length < size ->
    Runs total watched.skipToBrace plain.skipToBrace state fun _ final =>
      Skipped total state final

end Trust

section Expressions

variable {total size : Nat} {watched plain : Callees} {state : ParserState}

theorem headOf_le (value : Option Expression) :
    words (headOf value) ≤ words (part .expression) := by
  unfold headOf
  split
  · have rule : [part .call] ∈ productions .expression := by
      simp [productions, expressionRules]
    exact production_le rule
  · exact le_refl _

theorem Covers.asExpression {value : Option Expression} {gain : Nat} {final : ParserState}
    (covers : Covers total state (words (headOf value)) gain final) :
    Covers total state (words (part .expression)) gain final :=
  covers.mono (headOf_le value) (le_refl _)

/-- An expression in the middle of a phrase. -/
theorem Trusted.anExpression (trusted : Trusted total size watched plain)
    (precedence : Nat) (fed : Fed total state) (short : state.unread.length < size) :
    Runs total (watched.expression precedence) (plain.expression precedence) state
      fun value final =>
        Covers total state (words (part .expression)) (gainOf value) final :=
  (trusted.expression precedence state fed short).weaken fun _ _ covers => covers.asExpression

/-- Expressions with commas between them. -/
theorem Trusted.expressions (trusted : Trusted total size watched plain) {rounds : Nat}
    (fed : Fed total state) (short : state.unread.length < size) (enough : size ≤ rounds) :
    Runs total (repeated (matchToken .comma) (watched.expression 0) rounds)
      (repeated (matchToken .comma) (plain.expression 0) rounds) state
      fun values final => exists count, values.length = count + 1 ∧
        Covers total state (words (part .expression) *
          (words (token .comma) * words (part .expression)) ^ count) 0 final := by
  apply Runs.repeated (fun state fed => Runs.separator fed .comma) _ fed short (by omega)
  intro state fed short
  exact (trusted.anExpression 0 fed short).weaken fun _ _ covers =>
    covers.mono (le_refl _) (by omega)

theorem Covers.asArguments {count : Nat} {final : ParserState}
    (covers : Covers total state (words (part .expression) *
      (words (token .comma) * words (part .expression)) ^ count) 0 final) :
    Covers total state (words (part .arguments)) 0 final := by
  have all : Covers total state (words (part .expressions)) 0 final :=
    covers.mono (expressions_le count) (le_refl _)
  exact .produces (show [part .expressions] ∈ productions .arguments by
    simp [productions]) all (le_refl _)

theorem Covers.noArguments (fed : Fed total state) :
    Covers total state (words (part .arguments)) 0 state :=
  .produces (show [] ∈ productions .arguments by simp [productions]) (.refl fed) (le_refl _)

/-- Arguments up to a closing parenthesis, which may be none. -/
theorem parseArguments_reads (trusted : Trusted total size watched plain) {rounds : Nat}
    (fed : Fed total state) (short : state.unread.length < size) (enough : size ≤ rounds) :
    Runs total (parseArguments watched rounds) (parseArguments plain rounds) state
      fun _ final => Covers total state
        (words (part .arguments) * words (token .rightParen)) 1 final := by
  have closing : forall (arguments : List (Option Expression)) {middle : ParserState},
      Covers total state (words (part .arguments)) 0 middle ->
      Runs total
        (consume .rightParen "Expect ')' after function arguments." >>= fun _ => pure arguments)
        (consume .rightParen "Expect ')' after function arguments." >>= fun _ => pure arguments)
        middle fun _ final => Covers total state
          (words (part .arguments) * words (token .rightParen)) 1 final := by
    intro arguments middle read
    refine Runs.bind (.consume read.fed .rightParen _) fun _ final closed => ?_
    exact .pure ((read.trans closed).mono (le_refl _) (le_refl _))
  refine Runs.check ?_
  cases state.check .rightParen with
  | true => exact closing [] (.noArguments fed)
  | false =>
      refine Runs.bind (trusted.expressions fed short enough) fun values middle loops => ?_
      rcases loops with ⟨count, _, covers⟩
      exact closing values covers.asArguments

theorem parseNumberLiteral_reads (rounding : Rounding) (fed : Fed total state)
    (isType : state.current.type = .numberLiteral) :
    ReadsExpression total (parseNumberLiteral rounding) (parseNumberLiteral rounding)
      state := by
  refine Runs.bind (.advance fed isType noConfusion) fun _ final read => ?_
  have literal : Covers total state (words (part .expression)) 1 final :=
    .produces (show [token .numberLiteral] ∈ productions .expression by
      simp [productions, expressionRules, atoms]) read (le_refl _)
  refine Runs.look ?_
  by_cases isFloat : hasFloatMark final.previous.value
  · simp only [isFloat, if_true]
    cases stod rounding final.previous.value with
    | ok value => exact .pure literal
    | error exception => exact .escape exception
  · simp only [isFloat]
    cases stoll final.previous.value with
    | ok value => exact .pure literal
    | error exception => exact .escape exception

/-- A word with arguments in parentheses behind it. -/
theorem parseInitializers_reads (trusted : Trusted total size watched plain) {rounds : Nat}
    (fed : Fed total state) (short : state.unread.length ≤ size) (enough : size ≤ rounds)
    (openMessage emptyMessage closeMessage : String) :
    Runs total (parseInitializers watched rounds openMessage emptyMessage closeMessage)
      (parseInitializers plain rounds openMessage emptyMessage closeMessage) state
      fun _ final => Covers total state (words (token .leftParen) *
        (words (part .arguments) * words (token .rightParen))) 0 final := by
  refine Runs.bind (.consume fed .leftParen openMessage) fun _ opened opens => ?_
  have shorter := opens.gains
  refine Runs.check ?_
  cases opened.check .rightParen with
  | true =>
      refine Runs.bind (.consume opens.fed .rightParen emptyMessage) fun _ final closes => ?_
      have none : Covers total opened (words (part .arguments)) 0 opened :=
        .noArguments opens.fed
      exact .pure ((opens.trans (none.trans closes)).mono (le_refl _) (by omega))
  | false =>
      refine Runs.bind (trusted.expressions opens.fed (by omega) enough)
        fun _ middle loops => ?_
      rcases loops with ⟨count, _, covers⟩
      refine Runs.bind (.consume covers.fed .rightParen closeMessage) fun _ final closes => ?_
      exact .pure ((opens.trans (covers.asArguments.trans closes)).mono (le_refl _) (by omega))

/-- The words in front of initializers make an expression of them. -/
theorem Covers.collection {type : TokenType} {middle final : ParserState} {gain : Nat}
    (isCollection : type ∈ collections)
    (read : Covers total state (words (token type)) 1 middle)
    (rest : Covers total middle (words (token .leftParen) *
      (words (part .arguments) * words (token .rightParen))) gain final) :
    Covers total state (words (part .expression)) 1 final :=
  .produces (show [token type, token .leftParen, part .arguments, token .rightParen] ∈
    productions .expression by
      simp only [productions, expressionRules, List.mem_append, List.mem_map]
      exact Or.inl (Or.inr ⟨type, isCollection, rfl⟩)) (read.trans rest) (by omega)

theorem Covers.intrinsic {type : TokenType} {final : ParserState} {gain : Nat}
    (isIntrinsic : type ∈ intrinsics)
    (covers : Covers total state (words (token type) * (words (token .leftParen) *
      (words (part .expression) * words (token .rightParen)))) (1 + gain) final) :
    Covers total state (words (part .expression)) 1 final :=
  .produces (show [token type, token .leftParen, part .expression, token .rightParen] ∈
    productions .expression by
      simp only [productions, expressionRules, List.mem_append, List.mem_map]
      exact Or.inl (Or.inl (Or.inr ⟨type, isIntrinsic, rfl⟩))) covers (by omega)

theorem Covers.prefixed {type : TokenType} {final : ParserState} {gain : Nat}
    (isPrefix : type ∈ prefixes)
    (covers : Covers total state (words (token type) * words (part .expression)) (1 + gain)
      final) :
    Covers total state (words (part .expression)) 1 final :=
  .produces (show [token type, part .expression] ∈ productions .expression by
      simp only [productions, expressionRules, List.mem_append, List.mem_map]
      exact Or.inl (Or.inl (Or.inl (Or.inl (Or.inr ⟨type, isPrefix, rfl⟩))))) covers (by omega)

theorem Covers.atom {type : TokenType} {final : ParserState} (isAtom : type ∈ atoms)
    (covers : Covers total state (words (token type)) 1 final) :
    Covers total state (words (part .expression)) 1 final :=
  .produces (show [token type] ∈ productions .expression by
      simp only [productions, expressionRules, List.mem_append, List.mem_map]
      exact Or.inl (Or.inl (Or.inl (Or.inl (Or.inl ⟨type, isAtom, rfl⟩))))) covers (le_refl _)

theorem parseTableExpression_reads (trusted : Trusted total size watched plain) {rounds : Nat}
    (fed : Fed total state) (short : state.unread.length ≤ size) (enough : size ≤ rounds)
    {type : TokenType} (isType : state.current.type = type) (notEnd : type ≠ .eof)
    (isCollection : type ∈ collections) (isFloatTable : Bool) :
    ReadsExpression total (parseTableExpression watched rounds isFloatTable)
      (parseTableExpression plain rounds isFloatTable) state := by
  refine Runs.bind (.advance fed isType notEnd) fun _ middle read => ?_
  refine Runs.bind (parseInitializers_reads trusted read.fed (read.shorter.trans short) enough
    _ _ _) fun _ final rest => ?_
  exact .pure (.collection isCollection read rest)

theorem parseIntrinsic_reads (trusted : Trusted total size watched plain)
    (fed : Fed total state) (short : state.unread.length ≤ size)
    (isIntrinsic : state.current.type ∈ intrinsics) (notEnd : state.current.type ≠ .eof)
    (name : String) (op : UnaryOperator) :
    ReadsExpression total (parseIntrinsic watched name op) (parseIntrinsic plain name op)
      state := by
  refine Runs.bind (.advance fed rfl notEnd) fun _ named read => ?_
  refine Runs.bind (.consume read.fed .leftParen _) fun _ opened opens => ?_
  have enough := read.gains
  have enoughStill := opens.gains
  refine Runs.bind (trusted.anExpression 0 opens.fed (by omega)) fun _ middle operand => ?_
  refine Runs.bind (.consume operand.fed .rightParen _) fun _ final closes => ?_
  exact .pure (.intrinsic isIntrinsic (read.trans (opens.trans (operand.trans closes))))

/-- A token that is an expression by itself. -/
theorem atom_reads (fed : Fed total state) {type : TokenType}
    (isType : state.current.type = type) (notEnd : type ≠ .eof) (isAtom : type ∈ atoms)
    {tree : Expression} (notCall : headOf (some tree) = part .expression) :
    ReadsExpression total (advance >>= fun _ => pure (some tree))
      (advance >>= fun _ => pure (some tree)) state := by
  refine Runs.bind (.advance fed isType notEnd) fun _ final read => ?_
  refine .pure ?_
  rw [notCall]
  exact .atom isAtom read

/-- A word in front of an expression. -/
theorem prefixed_reads (trusted : Trusted total size watched plain) (fed : Fed total state)
    (short : state.unread.length ≤ size) {type : TokenType}
    (isType : state.current.type = type) (notEnd : type ≠ .eof) (isPrefix : type ∈ prefixes)
    (precedence : Nat) {tree : Option Expression -> Expression}
    (notCall : forall operand, headOf (some (tree operand)) = part .expression) :
    ReadsExpression total
      (advance >>= fun _ => watched.expression precedence >>= fun operand =>
        pure (some (tree operand)))
      (advance >>= fun _ => plain.expression precedence >>= fun operand =>
        pure (some (tree operand))) state := by
  refine Runs.bind (.advance fed isType notEnd) fun _ middle read => ?_
  have enough := read.gains
  refine Runs.bind (trusted.anExpression precedence read.fed (by omega))
    fun operand final covers => ?_
  refine .pure ?_
  rw [notCall]
  exact .prefixed isPrefix (read.trans covers)

/-- A word in front of a statement. -/
theorem valof_reads (trusted : Trusted total size watched plain) (fed : Fed total state)
    (short : state.unread.length ≤ size) {type : TokenType}
    (isType : state.current.type = type) (notEnd : type ≠ .eof)
    (rule : [token type, part .statement] ∈ productions .expression)
    {tree : Option Statement -> Expression}
    (notCall : forall body, headOf (some (tree body)) = part .expression) :
    ReadsExpression total
      (advance >>= fun _ => watched.statement >>= fun body => pure (some (tree body)))
      (advance >>= fun _ => plain.statement >>= fun body => pure (some (tree body)))
      state := by
  refine Runs.bind (.advance fed isType notEnd) fun _ middle read => ?_
  have enough := read.gains
  refine Runs.bind (trusted.statement middle read.fed (by omega)) fun body final covers => ?_
  refine .pure ?_
  rw [notCall]
  exact .produces rule (read.trans covers) (Nat.le_add_right 1 _)

theorem parseGroupedExpression_reads (trusted : Trusted total size watched plain)
    (fed : Fed total state) (short : state.unread.length ≤ size)
    (isType : state.current.type = .leftParen) :
    ReadsExpression total (advance >>= fun _ => parseGroupedExpression watched)
      (advance >>= fun _ => parseGroupedExpression plain) state := by
  refine Runs.bind (.advance fed isType noConfusion) fun _ opened opens => ?_
  have enough := opens.gains
  refine Runs.bind (trusted.expression 0 opened opens.fed (by omega))
    fun value middle covers => ?_
  refine Runs.bind (.consume covers.fed .rightParen _) fun _ final closes => ?_
  have whole := opens.trans (covers.trans closes)
  have gain : gainOf value ≤ 1 + (gainOf value + 1) := by omega
  refine .pure ?_
  cases shape : headOf value with
  | terminal type =>
      unfold headOf at shape
      split at shape <;> cases shape
  | nonterminal name =>
      rw [shape] at whole
      unfold headOf at shape
      split at shape <;> cases shape
      · exact .produces (show [token .leftParen, part .call, token .rightParen] ∈
          productions .call by simp [productions]) whole (by omega)
      · exact .produces (show [token .leftParen, part .expression, token .rightParen] ∈
          productions .expression by simp [productions, expressionRules]) whole (by omega)

theorem parsePlainPrimary_reads (rounding : Rounding)
    (trusted : Trusted total size watched plain) {rounds : Nat} (fed : Fed total state)
    (short : state.unread.length ≤ size) (enough : size ≤ rounds) :
    ReadsExpression total (parsePlainPrimary rounding watched rounds state.current)
      (parsePlainPrimary rounding plain rounds state.current) state := by
  have collection : forall {type : TokenType} (tree : List (Option Expression) -> Expression),
      (forall values, headOf (some (tree values)) = part .expression) ->
      state.current.type = type -> type ≠ .eof -> type ∈ collections ->
      forall openMessage emptyMessage closeMessage, ReadsExpression total
        (advance >>= fun _ => parseInitializers watched rounds openMessage emptyMessage
          closeMessage >>= fun values => pure (some (tree values)))
        (advance >>= fun _ => parseInitializers plain rounds openMessage emptyMessage
          closeMessage >>= fun values => pure (some (tree values))) state := by
    intro type tree notCall isType notEnd isCollection openMessage emptyMessage closeMessage
    refine Runs.bind (.advance fed isType notEnd) fun _ middle read => ?_
    refine Runs.bind (parseInitializers_reads trusted read.fed (read.shorter.trans short) enough
      _ _ _) fun values final rest => ?_
    refine .pure ?_
    rw [notCall]
    exact .collection isCollection read rest
  unfold parsePlainPrimary
  split
  · next isType => exact parseNumberLiteral_reads rounding fed isType
  · next isType =>
      exact atom_reads fed isType noConfusion (by simp [atoms]) rfl
  · next isType =>
      exact atom_reads fed isType noConfusion (by simp [atoms]) rfl
  · next isType =>
      exact atom_reads fed isType noConfusion (by simp [atoms]) rfl
  · next isType =>
      exact collection (fun values => .list values false) (fun _ => rfl) isType
        noConfusion (by simp [collections]) _ _ _
  · next isType =>
      exact collection (fun values => .list values true) (fun _ => rfl) isType
        noConfusion (by simp [collections]) _ _ _
  · next isType =>
      exact atom_reads fed isType noConfusion (by simp [atoms]) rfl
  · next isType => exact parseGroupedExpression_reads trusted fed short isType
  · next isType =>
      exact valof_reads trusted fed short isType noConfusion
        (by simp [productions, expressionRules]) fun _ => rfl
  · next isType =>
      exact valof_reads trusted fed short isType noConfusion
        (by simp [productions, expressionRules]) fun _ => rfl
  · next isType =>
      refine Runs.bind (.advance fed isType noConfusion) fun _ middle read => ?_
      refine Runs.check ?_
      cases middle.check .leftParen with
      | true =>
          refine Runs.bind (parseInitializers_reads trusted read.fed
            (read.shorter.trans short) enough _ _ _) fun values final rest => ?_
          exact .pure (.collection (by simp [collections]) read rest)
      | false =>
          have less := read.gains
          refine Runs.bind (trusted.anExpression 0 read.fed (by omega))
            fun operand final covers => ?_
          exact .pure (.prefixed (by simp [prefixes]) (read.trans covers))
  · next isType =>
      exact prefixed_reads trusted fed short isType noConfusion
        (by simp [prefixes]) 0 fun _ => rfl
  · next isType =>
      exact prefixed_reads trusted fed short isType noConfusion
        (by simp [prefixes]) 0 fun _ => rfl
  · next isType =>
      exact parseTableExpression_reads trusted fed short enough isType noConfusion
        (by simp [collections]) false
  · next isType =>
      exact parseTableExpression_reads trusted fed short enough isType noConfusion
        (by simp [collections]) true
  · exact Runs.error (.pure ((Covers.refl fed).error _ (le_refl _)))

theorem typeConstant_isAtom {type : TokenType} {value : Int}
    (constant : typeConstant type = some value) : type ∈ atoms ∧ type ≠ .eof := by
  unfold typeConstant at constant
  split at constant <;> simp_all [atoms]

theorem intrinsic_isIntrinsic {type : TokenType} {entry : String × UnaryOperator}
    (isIntrinsic : intrinsic type = some entry) : type ∈ intrinsics ∧ type ≠ .eof := by
  unfold intrinsic at isIntrinsic
  split at isIntrinsic <;> simp_all [intrinsics]

theorem prefixOperator_isPrefix {type : TokenType} {op : UnaryOperator}
    (isOperator : prefixOperator type = some op) : type ∈ prefixes ∧ type ≠ .eof := by
  unfold prefixOperator at isOperator
  split at isOperator <;> simp_all [prefixes]

theorem toBinaryOp_isOperator {type : TokenType} {op : BinaryOperator}
    (isOperator : toBinaryOp type = some op) : type ∈ binaryOperators := by
  unfold toBinaryOp at isOperator
  split at isOperator <;> simp_all [binaryOperators]

theorem parsePrimaryExpression_reads (rounding : Rounding)
    (trusted : Trusted total size watched plain) {rounds : Nat} (fed : Fed total state)
    (short : state.unread.length ≤ size) (enough : size ≤ rounds) :
    ReadsExpression total (parsePrimaryExpression rounding watched rounds)
      (parsePrimaryExpression rounding plain rounds) state := by
  refine Runs.look ?_
  cases constant : typeConstant state.current.type with
  | some value =>
      rcases typeConstant_isAtom constant with ⟨isAtom, notEnd⟩
      exact atom_reads fed rfl notEnd isAtom rfl
  | none =>
      cases isIntrinsic : intrinsic state.current.type with
      | some entry =>
          rcases intrinsic_isIntrinsic isIntrinsic with ⟨member, notEnd⟩
          exact parseIntrinsic_reads trusted fed short member notEnd entry.1 entry.2
      | none => exact parsePlainPrimary_reads rounding trusted fed short enough

theorem parseOperand_reads (rounding : Rounding)
    (trusted : Trusted total size watched plain) {rounds : Nat} (fed : Fed total state)
    (short : state.unread.length ≤ size) (enough : size ≤ rounds) :
    ReadsExpression total (parseOperand rounding watched rounds)
      (parseOperand rounding plain rounds) state := by
  refine Runs.look ?_
  cases isOperator : prefixOperator state.current.type with
  | some op =>
      rcases prefixOperator_isPrefix isOperator with ⟨isPrefix, notEnd⟩
      exact prefixed_reads trusted fed short rfl notEnd isPrefix 8 fun _ => rfl
  | none => exact parsePrimaryExpression_reads rounding trusted fed short enough

section Infix

variable {start : ParserState} {left : Expression} {type : TokenType} {middle : ParserState}

/-- An expression has been read from the start, the last part of it from the middle. -/
def Continues (total : Nat) (start middle : ParserState) (value : Option Expression)
    (final : ParserState) : Prop :=
  Covers total start (words (headOf value)) (gainOf value) final ∧
    final.unread.length ≤ middle.unread.length

theorem Covers.binary {final : ParserState} {gain more : Nat}
    (isOperator : type ∈ binaryOperators)
    (before : Covers total start (words (headOf (some left))) 1 state)
    (operator : Covers total state (words (token type)) 1 middle)
    (right : Covers total middle (words (part .expression)) gain final)
    (less : more ≤ 1) : Covers total start (words (part .expression)) more final :=
  .produces (show [part .expression, token type, part .expression] ∈
    productions .expression by
      simp only [productions, expressionRules, List.mem_append, List.mem_map]
      exact Or.inl (Or.inl (Or.inl (Or.inr ⟨type, isOperator, rfl⟩))))
    (before.asExpression.trans (operator.trans right)) (by omega)

/-- An operator with an operand behind it that is any expression. -/
theorem operand_reads (trusted : Trusted total size watched plain)
    (before : Covers total start (words (headOf (some left))) 1 state)
    (operator : Covers total state (words (token type)) 1 middle)
    (short : start.unread.length ≤ size) (isOperator : type ∈ binaryOperators)
    (precedence : Nat) {tree : Option Expression -> Expression}
    (notCall : forall operand, headOf (some (tree operand)) = part .expression) :
    Runs total
      (watched.expression precedence >>= fun operand => pure (some (tree operand)))
      (plain.expression precedence >>= fun operand => pure (some (tree operand))) middle
      fun value final => Continues total start middle value final := by
  have less := before.gains
  have lessStill := operator.gains
  refine Runs.bind (trusted.anExpression precedence operator.fed (by omega))
    fun operand final right => ?_
  refine .pure ⟨?_, right.shorter⟩
  rw [notCall]
  exact .binary isOperator before operator right (le_refl _)

theorem parseBitfield_reads (trusted : Trusted total size watched plain)
    (before : Covers total start (words (headOf (some left))) 1 state)
    (operator : Covers total state (words (token .bitfield)) 1 middle)
    (short : start.unread.length ≤ size) :
    Runs total (parseBitfield watched left) (parseBitfield plain left) middle
      fun value final => Continues total start middle value final := by
  have lessFirst := before.gains
  have lessThen := operator.gains
  refine Runs.bind (.consume operator.fed .leftParen _) fun _ opened opens => ?_
  have lessNow := opens.gains
  refine Runs.bind (trusted.anExpression 0 opens.fed (by omega)) fun startBit later first => ?_
  refine Runs.bind (.consume first.fed .comma _) fun _ between comma => ?_
  have lessStill := first.gains
  have lessYet := comma.gains
  refine Runs.bind (trusted.anExpression 0 comma.fed (by omega)) fun width last second => ?_
  refine Runs.bind (.consume second.fed .rightParen _) fun _ final closes => ?_
  have rest := opens.trans (first.trans (comma.trans (second.trans closes)))
  exact .pure ⟨.produces (show [part .expression, token .bitfield, token .leftParen,
    part .expression, token .comma, part .expression, token .rightParen] ∈
      productions .expression by simp [productions, expressionRules])
    (before.asExpression.trans (operator.trans rest)) (Nat.le_add_right 1 _), rest.shorter⟩

theorem parseConditional_reads (trusted : Trusted total size watched plain)
    (before : Covers total start (words (headOf (some left))) 1 state)
    (operator : Covers total state (words (token .conditional)) 1 middle)
    (short : start.unread.length ≤ size) :
    Runs total (parseConditional watched left) (parseConditional plain left) middle
      fun value final => Continues total start middle value final := by
  have lessFirst := before.gains
  have lessThen := operator.gains
  refine Runs.bind (trusted.anExpression 0 operator.fed (by omega)) fun trueExpr later first => ?_
  refine Runs.bind (.consume first.fed .comma _) fun _ between comma => ?_
  have lessStill := first.gains
  have lessYet := comma.gains
  refine Runs.bind (trusted.anExpression 1 comma.fed (by omega)) fun falseExpr final second => ?_
  have rest := first.trans (comma.trans second)
  exact .pure ⟨.produces (show [part .expression, token .conditional, part .expression,
    token .comma, part .expression] ∈ productions .expression by
      simp [productions, expressionRules])
    (before.asExpression.trans (operator.trans rest)) (Nat.le_add_right 1 _), rest.shorter⟩

theorem parseBinary_reads (trusted : Trusted total size watched plain)
    (before : Covers total start (words (headOf (some left))) 1 state)
    (operator : Covers total state (words (token type)) 1 middle)
    (short : start.unread.length ≤ size) :
    Runs total (parseBinary watched type left) (parseBinary plain type left) middle
      fun value final => Continues total start middle value final := by
  have lessFirst := before.gains
  have lessThen := operator.gains
  unfold parseBinary
  cases isOperator : toBinaryOp type with
  | none => exact .escape .logicError
  | some op =>
      refine Runs.bind (trusted.anExpression (tokenPrecedence type) operator.fed (by omega))
        fun right final covers => ?_
      have whole : Covers total start (words (part .expression)) 1 final :=
        .binary (toBinaryOp_isOperator isOperator) before operator covers (le_refl _)
      cases right with
      | none => exact Runs.error (.pure ⟨whole.error _ (Nat.zero_le _), covers.shorter⟩)
      | some right => exact .pure ⟨whole, covers.shorter⟩

/-- One round of the loop over operators, with what stands before it. -/
theorem parseInfix_reads (trusted : Trusted total size watched plain) {rounds : Nat}
    (before : Covers total start (words (headOf (some left))) 1 state)
    (operator : Covers total state (words (token type)) 1 middle)
    (short : start.unread.length ≤ size) (enough : size ≤ rounds) :
    Runs total (parseInfix watched rounds type left) (parseInfix plain rounds type left) middle
      fun value final => Continues total start middle value final := by
  unfold parseInfix
  split
  · have lessFirst := before.gains
    have lessThen := operator.gains
    refine Runs.bind (parseArguments_reads trusted operator.fed (by omega) enough)
      fun arguments final covers => ?_
    exact .pure ⟨.produces (show [part .expression, token .leftParen, part .arguments,
      token .rightParen] ∈ productions .call by simp [productions])
      (before.asExpression.trans (operator.trans covers)) (Nat.le_add_right 1 _), covers.shorter⟩
  · exact operand_reads trusted before operator short (by simp [binaryOperators]) 9
      fun _ => rfl
  · exact operand_reads trusted before operator short (by simp [binaryOperators]) 9
      fun _ => rfl
  · exact operand_reads trusted before operator short (by simp [binaryOperators]) 9
      fun _ => rfl
  · exact parseBitfield_reads trusted before operator short
  · exact parseConditional_reads trusted before operator short
  · exact parseBinary_reads trusted before operator short

end Infix

/-- The loop over operators: what has been read is one expression after each round. -/
theorem infixLoop_reads (trusted : Trusted total size watched plain) {rounds : Nat}
    {start : ParserState} (short : start.unread.length ≤ size) (enough : size ≤ rounds)
    (precedence : Nat) {remaining : Nat} {left : Option Expression}
    (before : Covers total start (words (headOf left)) (gainOf left) state)
    (rest : state.unread.length < remaining) :
    Runs total (infixLoop watched rounds precedence remaining left)
      (infixLoop plain rounds precedence remaining left) state
      fun value final => Covers total start (words (headOf value)) (gainOf value) final := by
  induction remaining generalizing state left with
  | zero => omega
  | succ remaining hypothesis =>
      cases left with
      | none => exact .pure before
      | some left =>
          refine Runs.look ?_
          by_cases binds : precedence < tokenPrecedence state.current.type
          · rw [if_pos binds, if_pos binds]
            have notEnd : state.current.type ≠ .eof := by
              intro ended
              rw [ended] at binds
              exact absurd binds (Nat.not_lt_zero precedence)
            refine Runs.bind (.advance before.fed rfl notEnd) fun _ middle operator => ?_
            refine Runs.bind (parseInfix_reads trusted before operator short enough)
              fun next later continues => ?_
            have less := operator.gains
            have shorter := continues.2
            exact hypothesis continues.1 (by omega)
          · rw [if_neg binds, if_neg binds]
            exact .pure before

/-- `parse_expression` on a state with at most the given number of tokens left. -/
theorem parseExpression_reads (rounding : Rounding)
    (trusted : Trusted total size watched plain) {rounds : Nat} (fed : Fed total state)
    (short : state.unread.length ≤ size) (enough : size < rounds) (precedence : Nat) :
    ReadsExpression total (parseExpression rounding watched rounds precedence)
      (parseExpression rounding plain rounds precedence) state := by
  refine Runs.bind (parseOperand_reads rounding trusted fed short (le_of_lt enough))
    fun left middle before => ?_
  have shorter := before.gains
  exact infixLoop_reads trusted short (le_of_lt enough) precedence before (by omega)

end Expressions
end Parsing
end NewBcpl
