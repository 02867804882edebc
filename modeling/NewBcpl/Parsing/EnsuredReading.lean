import NewBcpl.Parsing.SpelledPrograms

namespace NewBcpl
namespace Parsing

open Parse
open TokenType (noConfusion)

/-!
# What a run without an error has read

The converse of what the parser does on spelled phrases: when a function returns and no
error has been reported, what it has read is a phrase that spells what it returns. The
rules here put together what the primitive operations ensure, from any state in which the
parser can stand; the expressions come after them.
-/

/-- The tokens from the current one on. -/
def ParserState.ahead (state : ParserState) : List Token :=
  if state.isAtEnd then [] else state.current :: state.rest

/-- The states of a run on a finite list of tokens: the end comes only behind the tokens,
a lexical error is never the current token, and the flag tells of every error. -/
structure Standing (state : ParserState) : Prop where
  ends : state.ending.type = .eof
  inside : forall token, token ∈ state.rest -> token.type ≠ .eof
  atEnd : state.isAtEnd = true -> state.rest = []
  readable : state.current.type ≠ .error
  marked : state.fatal = true <-> state.errors ≠ []

/-- The tokens are what has been read from one state to another, without an error before. -/
structure Between (state : ParserState) (tokens : List Token) (final : ParserState) : Prop where
  clean : state.fatal = false
  read : state.ahead = tokens ++ final.ahead

/-- What a function ensures when it returns without an error: the value is related to the
tokens that it has read and to the type of what follows them. An error is reported before
it is thrown. -/
def Ensures {Value : Type} (function : Parse Value) (state : ParserState)
    (after : Value -> List Token -> TokenType -> Prop) : Prop :=
  Standing state ->
    match function state with
    | .done value final => Standing final ∧ (final.fatal = false ->
        exists tokens, Between state tokens final ∧ after value tokens final.current.type)
    | .thrown final => Standing final ∧ final.fatal = true
    | .escaped _ _ | .halted _ _ | .exhausted => True

/-- The token, when it is known to be of the type. -/
def Token.as (token : Token) (type : TokenType) : Token := { token with type := type }

theorem Token.as_self {token : Token} {type : TokenType} (isType : token.type = type) :
    token.as type = token := by
  subst isType
  rfl

section States

variable {state final : ParserState}

theorem ahead_of_atEnd (ended : state.isAtEnd = true) : state.ahead = [] := by
  unfold ParserState.ahead
  rw [if_pos ended]

theorem ahead_of_not_atEnd (goesOn : state.isAtEnd = false) :
    state.ahead = state.current :: state.rest := by
  unfold ParserState.ahead
  rw [if_neg (by rw [goesOn]; exact Bool.false_ne_true)]

theorem firstType_ahead : firstType state.ahead .eof = state.current.type := by
  cases ended : state.isAtEnd with
  | true =>
      rw [ahead_of_atEnd ended]
      exact (beq_iff_eq.mp ended).symm
  | false =>
      rw [ahead_of_not_atEnd ended]
      rfl

theorem Between.facing {tokens : List Token} (between : Between state tokens final) :
    state.current.type = firstType tokens final.current.type := by
  rw [<- firstType_ahead, between.read, firstType_append, firstType_ahead]

theorem check_eq (type : TokenType) (notEnd : type ≠ .eof) :
    state.check type = (state.current.type == type) := by
  unfold ParserState.check
  cases ended : state.isAtEnd with
  | true =>
      rw [if_pos rfl, beq_iff_eq.mp ended]
      exact (beq_false_of_ne notEnd.symm).symm
  | false => rfl

theorem Standing.error (stands : Standing state) (message : String) :
    Standing (state.error message) :=
  ⟨stands.ends, stands.inside, stands.atEnd, stands.readable,
    ⟨fun _ => by simp [ParserState.error], fun _ => rfl⟩⟩

theorem takeToken_standing {tokens : List Token}
    (inside : forall token, token ∈ tokens -> token.type ≠ .eof)
    (ends : state.ending.type = .eof) (marked : state.fatal = true <-> state.errors ≠ []) :
    Standing (state.takeToken tokens) ∧ ((state.takeToken tokens).fatal = false ->
      state.fatal = false ∧ (state.takeToken tokens).ahead = tokens) := by
  induction tokens generalizing state with
  | nil =>
      have ended : ParserState.isAtEnd { state with current := state.ending, rest := [] } =
          true := beq_iff_eq.mpr ends
      refine ⟨⟨ends, by simp [ParserState.takeToken], fun _ => rfl, ?_, marked⟩,
        fun clean => ⟨clean, ahead_of_atEnd ended⟩⟩
      change state.ending.type ≠ .error
      rw [ends]
      exact noConfusion
  | cons token tokens hypothesis =>
      have later : forall other, other ∈ tokens -> other.type ≠ .eof :=
        fun other member => inside other (List.mem_cons_of_mem _ member)
      unfold ParserState.takeToken
      by_cases lexical : token.type = .error
      · rw [if_pos lexical]
        rcases @hypothesis (state.error ("Lexical error: " ++ String.ofList token.value))
          later ends ⟨fun _ => by simp [ParserState.error], fun _ => rfl⟩ with
          ⟨stands, clean⟩
        exact ⟨stands, fun none => Bool.noConfusion (clean none).1⟩
      · rw [if_neg lexical]
        have goesOn : ParserState.isAtEnd
            { state with current := token, rest := tokens } = false :=
          beq_false_of_ne (inside token (List.mem_cons_self ..))
        refine ⟨⟨ends, later, fun ended => ?_, lexical, marked⟩,
          fun clean => ⟨clean, ahead_of_not_atEnd goesOn⟩⟩
        rw [goesOn] at ended
        cases ended

theorem takeToken_previous (tokens : List Token) :
    (state.takeToken tokens).previous = state.previous := by
  induction tokens generalizing state with
  | nil => rfl
  | cons token tokens hypothesis =>
      unfold ParserState.takeToken
      split
      · exact hypothesis
      · rfl

/-- Reading a token, also at the end. -/
theorem Standing.advance (stands : Standing state) :
    Standing state.advance ∧ (state.advance.fatal = false ->
      state.fatal = false ∧ state.rest = state.advance.ahead) := by
  rcases @takeToken_standing { state with previous := state.current } state.rest
    stands.inside stands.ends stands.marked with ⟨next, clean⟩
  exact ⟨next, fun none => ⟨(clean none).1, (clean none).2.symm⟩⟩

end States

namespace Ensures

variable {First Second : Type} {function : Parse First} {next : First -> Parse Second}
  {state : ParserState} {after between : First -> List Token -> TokenType -> Prop}
  {last : Second -> List Token -> TokenType -> Prop}

/-- What is ensured may be weakened where the current token is the first that is read. -/
theorem weakenFacing (ensures : Ensures function state between)
    (included : forall value tokens following, between value tokens following ->
      state.current.type = firstType tokens following -> after value tokens following) :
    Ensures function state after := by
  intro stands
  have ensured := ensures stands
  cases outcome : function state with
  | done value final =>
      rw [outcome] at ensured
      refine ⟨ensured.1, fun clean => ?_⟩
      rcases ensured.2 clean with ⟨tokens, read, related⟩
      exact ⟨tokens, read, included value tokens _ related read.facing⟩
  | thrown final =>
      rw [outcome] at ensured
      exact ensured
  | escaped | halted | exhausted => trivial

theorem weaken (ensures : Ensures function state between)
    (included : forall value tokens following, between value tokens following ->
      after value tokens following) : Ensures function state after :=
  ensures.weakenFacing fun value tokens following related _ =>
    included value tokens following related

/-- A lexical error is never the current token. -/
theorem readable (ensures : state.current.type ≠ .error -> Ensures function state after) :
    Ensures function state after := fun stands => ensures stands.readable stands

/-- A function in a state ensures what it returns there. -/
theorem of_eq {function other : Parse Second} (same : function state = other state)
    (ensures : Ensures other state last) : Ensures function state last := by
  unfold Ensures
  rw [same]
  exact ensures

/-- A function whose outcome is known in front of another. -/
theorem bind_of_done {value : First} {middle : ParserState}
    (outcome : function state = .done value middle)
    (step : Standing state -> Standing middle ∧ (middle.fatal = false ->
      exists front, Between state front middle ∧ between value front middle.current.type))
    (goesOn : Ensures (next value) middle fun result tokens following =>
      forall front, between value front (firstType tokens following) ->
        last result (front ++ tokens) following) :
    Ensures (function >>= next) state last := by
  intro stands
  rcases step stands with ⟨middleStands, reads⟩
  have later := goesOn middleStands
  rw [bind_done outcome]
  cases result : next value middle with
  | done result final =>
      rw [result] at later
      refine ⟨later.1, fun clean => ?_⟩
      rcases later.2 clean with ⟨tokens, behind, related⟩
      rcases reads behind.clean with ⟨front, read, facts⟩
      rw [behind.facing] at facts
      refine ⟨front ++ tokens, ⟨read.clean, ?_⟩, related front facts⟩
      rw [read.read, behind.read, List.append_assoc]
  | thrown final =>
      rw [result] at later
      exact later
  | escaped | halted | exhausted => trivial

theorem bind (first : Ensures function state between)
    (second : forall value middle, Ensures (next value) middle fun result tokens following =>
      forall front, between value front (firstType tokens following) ->
        last result (front ++ tokens) following) :
    Ensures (function >>= next) state last := by
  intro stands
  have begins := first stands
  cases outcome : function state with
  | done value middle =>
      rw [outcome] at begins
      exact bind_of_done outcome (fun _ => begins) (second value middle) stands
  | thrown final =>
      rw [outcome] at begins
      rw [bind_thrown outcome]
      exact begins
  | escaped exception final =>
      rw [bind_escaped outcome]
      trivial
  | halted place final =>
      rw [bind_halted outcome]
      trivial
  | exhausted =>
      rw [bind_exhausted outcome]
      trivial

theorem pure {value : First} (related : after value [] state.current.type) :
    Ensures (Pure.pure value) state after :=
  fun stands => ⟨stands, fun clean => ⟨[], ⟨clean, rfl⟩, related⟩⟩

/-- The last function, whose value is put into the result. -/
theorem yields {build : First -> Second} (first : Ensures function state between)
    (related : forall value tokens following, between value tokens following ->
      last (build value) tokens following) :
    Ensures (function >>= fun value => Pure.pure (build value)) state last := by
  refine bind first fun value middle => pure ?_
  intro front facts
  rw [List.append_nil]
  exact related value front _ facts

theorem outOfRounds : Ensures (Parse.outOfRounds : Parse First) state after := fun _ => trivial

theorem escape (exception : Escape) : Ensures (Parsing.escape exception : Parse First) state
    after := fun _ => trivial

/-- After an error nothing has to be related. -/
theorem error {message : String} {next : Unit -> Parse Second}
    (goesOn : Ensures (next ()) (state.error message) fun _ _ _ => True) :
    Ensures (Parsing.error message >>= next) state last :=
  @bind_of_done Unit Second _ next state (fun _ _ _ => False) last () _ rfl
    (fun stands => ⟨stands.error message, fun clean => Bool.noConfusion clean⟩)
    (goesOn.weaken fun _ _ _ _ _ impossible => impossible.elim)

/-- A value behind an error. -/
theorem broken {value : First} (isBroken : state.fatal = true) :
    Ensures (Pure.pure value) state after := by
  refine fun stands => ⟨stands, fun clean => ?_⟩
  rw [isBroken] at clean
  cases clean

/-- A handler of an error that has been thrown. -/
theorem tryCatch {body handler : Parse First} (ensures : Ensures body state after)
    (handles : forall middle, Ensures handler middle fun _ _ _ => True) :
    Ensures (Parsing.tryCatch body handler) state after := by
  intro stands
  have ensured := ensures stands
  unfold Parsing.tryCatch
  cases outcome : body state with
  | thrown middle =>
      rw [outcome] at ensured
      have handled := handles middle ensured.1
      change match handler middle with
        | .done value final => Standing final ∧ (final.fatal = false -> exists tokens,
            Between state tokens final ∧ after value tokens final.current.type)
        | .thrown final => Standing final ∧ final.fatal = true
        | .escaped _ _ | .halted _ _ | .exhausted => True
      cases result : handler middle with
      | done value final =>
          rw [result] at handled
          refine ⟨handled.1, fun clean => ?_⟩
          rcases handled.2 clean with ⟨tokens, read, _⟩
          exact absurd ensured.2 (ne_true_of_eq_false read.clean)
      | thrown final =>
          rw [result] at handled
          exact handled
      | escaped | halted | exhausted => trivial
  | done | escaped | halted | exhausted =>
      rw [outcome] at ensured
      exact ensured

/-- An error in the place of a value. -/
theorem failure {message : String} {value : Second} :
    Ensures (Parsing.error message >>= fun _ => Pure.pure value) state last :=
  error (pure trivial)

theorem look {next : ParserState -> Parse Second} (goesOn : Ensures (next state) state last) :
    Ensures (Parse.look >>= next) state last := goesOn

theorem check {type : TokenType} {next : Bool -> Parse Second} (notEnd : type ≠ .eof)
    (goesOn : Ensures (next (state.current.type == type)) state last) :
    Ensures (Parsing.check type >>= next) state last := by
  rw [<- check_eq type notEnd] at goesOn
  exact goesOn

/-- A function that reads the current token in front of another. -/
theorem taken {value : First} (outcome : function state = .done value state.advance)
    (notEnd : state.current.type ≠ .eof)
    (goesOn : forall middle, middle.previous = state.current ->
      Ensures (next value) middle fun result tokens following =>
        last result (state.current :: tokens) following) :
    Ensures (function >>= next) state last := by
  refine @bind_of_done _ _ _ _ _ (fun _ front _ => front = [state.current]) _ _ _ outcome ?_
    ((goesOn state.advance (takeToken_previous state.rest)).weaken ?_)
  · intro stands
    refine ⟨stands.advance.1, fun clean => ⟨_, ⟨(stands.advance.2 clean).1, ?_⟩, rfl⟩⟩
    rw [ahead_of_not_atEnd (beq_false_of_ne notEnd), (stands.advance.2 clean).2]
    rfl
  · rintro result tokens following related _ rfl
    exact related

theorem advance {next : Unit -> Parse Second} (notEnd : state.current.type ≠ .eof)
    (goesOn : forall middle, Ensures (next ()) middle fun result tokens following =>
      last result (state.current :: tokens) following) :
    Ensures (Parsing.advance >>= next) state last := taken rfl notEnd fun middle _ => goesOn middle

/-- An expected token in front of a function. -/
theorem expect {type : TokenType} {message : String} {next : Unit -> Parse Second}
    (notEnd : type ≠ .eof)
    (goesOn : forall middle, Ensures (next ()) middle fun result tokens following =>
      last result (state.current.as type :: tokens) following) :
    Ensures (Parsing.consume type message >>= next) state last := by
  by_cases isType : state.current.type = type
  · have outcome : Parsing.consume type message state = .done () state.advance := by
      unfold Parsing.consume
      rw [check_eq type notEnd, beq_iff_eq.mpr isType, if_pos rfl]
    rw [Token.as_self isType] at goesOn
    exact taken outcome (isType.trans_ne notEnd) fun middle _ => goesOn middle
  · have outcome : exists text, Parsing.consume type message state =
        .thrown (state.error text) := by
      unfold Parsing.consume
      rw [check_eq type notEnd, beq_false_of_ne isType, if_neg Bool.false_ne_true]
      exact ⟨_, rfl⟩
    rcases outcome with ⟨text, outcome⟩
    intro stands
    rw [bind_thrown outcome]
    exact ⟨stands.error text, rfl⟩

/-- Reading a token, also at the end. -/
theorem advanced : Ensures Parsing.advance state fun _ _ _ => True := by
  intro stands
  refine ⟨stands.advance.1, fun clean => ?_⟩
  rcases stands.advance.2 clean with ⟨before, rest⟩
  cases ended : state.isAtEnd with
  | true =>
      refine ⟨[], ⟨before, ?_⟩, trivial⟩
      rw [ahead_of_atEnd ended, <- rest, stands.atEnd ended]
      rfl
  | false =>
      refine ⟨[state.current], ⟨before, ?_⟩, trivial⟩
      rw [ahead_of_not_atEnd ended, rest]
      rfl

/-- A name in front of a function. -/
theorem named {message : String} {next : List Char -> Parse Second}
    (goesOn : forall middle, Ensures (next (state.current.as .identifier).value) middle
      fun result tokens following =>
        last result (state.current.as .identifier :: tokens) following) :
    Ensures (Parsing.parseName message >>= next) state last := by
  have expected : Ensures (Parsing.consume .identifier message >>= fun _ =>
      next state.current.value) state last := expect noConfusion goesOn
  refine of_eq ?_ expected
  change andThen (andThen _ fun _ => Pure.pure state.current.value) next state = andThen _ _ state
  unfold andThen
  cases Parsing.consume .identifier message state <;> rfl

theorem matchToken_taken {type : TokenType} (isType : state.current.type = type)
    (notEnd : type ≠ .eof) : Parsing.matchToken type state = .done true state.advance := by
  unfold Parsing.matchToken
  rw [check_eq type notEnd, beq_iff_eq.mpr isType, if_pos rfl]

theorem matchToken_missed {type : TokenType} (isOther : state.current.type ≠ type)
    (notEnd : type ≠ .eof) : Parsing.matchToken type state = .done false state := by
  unfold Parsing.matchToken
  rw [check_eq type notEnd, beq_false_of_ne isOther, if_neg Bool.false_ne_true]

/-- The two ways on after an optional token. -/
theorem matched {type : TokenType} {next : Bool -> Parse Second} (notEnd : type ≠ .eof)
    (taken : forall middle, Ensures (next true) middle fun result tokens following =>
      last result (state.current.as type :: tokens) following)
    (missed : state.current.type ≠ type -> Ensures (next false) state last) :
    Ensures (Parsing.matchToken type >>= next) state last := by
  by_cases isType : state.current.type = type
  · rw [Token.as_self isType] at taken
    exact Ensures.taken (matchToken_taken isType notEnd) (isType.trans_ne notEnd)
      fun middle _ => taken middle
  · have same : (Parsing.matchToken type >>= next) state = next false state :=
      bind_done (matchToken_missed isType notEnd)
    exact of_eq same (missed isType)

/-- The two ways on after an optional separator. -/
theorem separated {next : Bool -> Parse Second}
    (taken : (state.current.type = .semicolon ∨ state.current.type = .comma) ->
      forall middle, Ensures (next true) middle fun result tokens following =>
        last result (state.current :: tokens) following)
    (missed : state.current.type ≠ .semicolon -> state.current.type ≠ .comma ->
      Ensures (next false) state last) :
    Ensures (matchSeparator >>= next) state last := by
  by_cases isSemicolon : state.current.type = .semicolon
  · have outcome : matchSeparator state = .done true state.advance :=
      bind_done (matchToken_taken isSemicolon noConfusion)
    exact Ensures.taken outcome (isSemicolon.trans_ne noConfusion)
      fun middle _ => taken (Or.inl isSemicolon) middle
  have missesFirst := matchToken_missed isSemicolon noConfusion
  by_cases isComma : state.current.type = .comma
  · have outcome : matchSeparator state = .done true state.advance :=
      (bind_done missesFirst).trans (matchToken_taken isComma noConfusion)
    exact Ensures.taken outcome (isComma.trans_ne noConfusion)
      fun middle _ => taken (Or.inr isComma) middle
  · have outcome : matchSeparator state = .done false state :=
      (bind_done missesFirst).trans (matchToken_missed isComma noConfusion)
    have same : (matchSeparator >>= next) state = next false state := bind_done outcome
    exact of_eq same (missed isSemicolon isComma)

/-- A number whose conversion does not throw. -/
theorem converted {conversion : List Char -> Except Escape Int} {next : Int -> Parse Second}
    (goesOn : forall value, conversion state.current.value = .ok value ->
      Ensures (next value) state last) :
    Ensures (convertCurrent conversion >>= next) state last := by
  cases converts : conversion state.current.value with
  | error exception =>
      have outcome : convertCurrent conversion state = .escaped exception state := by
        unfold convertCurrent
        rw [bind_done (show Parse.look state = .done state state from rfl), converts]
        rfl
      intro stands
      rw [bind_escaped outcome]
      trivial
  | ok value =>
      have outcome : convertCurrent conversion state = .done value state := by
        unfold convertCurrent
        rw [bind_done (show Parse.look state = .done state state from rfl), converts]
        rfl
      have same : (convertCurrent conversion >>= next) state = next value state :=
        bind_done outcome
      exact of_eq same (goesOn value converts)

end Ensures

section Honesty

variable (rounding : Rounding)

/-- A function in a state returns a tree that is spelled by what it has read. -/
def EnsuresTree {Tree : Type} (phrase : Tree -> Phrase) (function : Parse (Option Tree))
    (state : ParserState) : Prop :=
  Ensures function state fun value tokens following =>
    exists tree, value = some tree ∧ Spells rounding (phrase tree) tokens following

/-- A function behind a token returns a tree that is spelled by the token and by what the
function has read. -/
def EnsuresBehind (token : Token) (function : Parse (Option Expression))
    (state : ParserState) : Prop :=
  Ensures function state fun value tokens following => exists tree, value = some tree ∧
    Spells rounding (.operand tree) (token :: tokens) following

/-- Expressions with commas between them, or none, in front of a closing parenthesis. -/
def AreClosed (values : List (Option Expression)) (tokens : List Token) : Prop :=
  exists trees front closing, values = trees.map some ∧ tokens = front ++ [closing] ∧
    Spells rounding (.arguments trees) front .rightParen ∧ closing.type = .rightParen

/-- The functions that are called back ensure what they are for. -/
structure Honest (callees : Callees) : Prop where
  expression : forall precedence {state}, EnsuresTree rounding (.expression precedence)
    (callees.expression precedence) state
  statement : forall {state}, EnsuresTree rounding .statement callees.statement state
  definition : forall {state}, state.current.type ≠ .identifier ->
    EnsuresTree rounding .definition callees.blockDeclaration state
  skip : forall {state},
    Ensures callees.skipToBrace state fun _ tokens _ => IsSkipped tokens

end Honesty

section Expressions

variable {rounding : Rounding} {callees : Callees} {rounds : Nat} {state : ParserState}
  {token : Token}

/-- A primary of one token. -/
theorem ensures_token {tree : Expression} (isAtom : atomTree state.current = some tree) :
    EnsuresTree rounding .operand (advance >>= fun _ => pure (some tree)) state :=
  .advance (ne_of_starts (starts_of_atomTree isAtom) rfl) fun _ =>
    .pure ⟨_, rfl, .atom isAtom⟩

theorem atomTree_of_constant {value : Int} (isConstant : typeConstant token.type = some value) :
    atomTree token = some (.integerLiteral value) := by
  unfold atomTree
  split <;> simp_all [typeConstant]

/-- The value of a number literal where it has one. -/
theorem ensures_literal {text : List Char} :
    Ensures
      (if hasFloatMark text then
        match stod rounding text with
        | .ok value => pure (some (.floatLiteral value))
        | .error exception => escape exception
      else
        match stoll text with
        | .ok value => pure (some (.integerLiteral value))
        | .error exception => escape exception) state
      fun value tokens _ => exists tree, value = some tree ∧
        numberTree rounding text = .ok tree ∧ tokens = [] := by
  unfold numberTree
  by_cases isFloat : hasFloatMark text
  · rw [if_pos isFloat, if_pos isFloat]
    cases stod rounding text with
    | ok value => exact .pure ⟨_, rfl, rfl, rfl⟩
    | error exception => exact .escape exception
  · rw [if_neg isFloat, if_neg isFloat]
    cases stoll text with
    | ok value => exact .pure ⟨_, rfl, rfl, rfl⟩
    | error exception => exact .escape exception

theorem ensures_number (isNumber : state.current.type = .numberLiteral) :
    EnsuresTree rounding .operand (parseNumberLiteral rounding) state := by
  refine .taken (show advance state = .done () state.advance from rfl)
    (isNumber.trans_ne noConfusion) fun middle previous => .look ?_
  rw [previous]
  refine ensures_literal.weaken ?_
  rintro _ _ following ⟨tree, rfl, denotes, rfl⟩
  exact ⟨tree, rfl, .number isNumber denotes⟩

theorem ensures_noneClosed {message : String} :
    Ensures (consume .rightParen message >>= fun _ => pure []) state
      fun values tokens _ => AreClosed rounding values tokens :=
  .expect noConfusion fun _ => .pure ⟨[], [], _, rfl, rfl, .noArguments, rfl⟩

variable (honest : Honest rounding callees)

include honest

/-- A token in front of an expression. -/
theorem ensures_prefixed {op : UnaryOperator} (isPrefix : prefixOperator token.type = some op) :
    EnsuresBehind rounding token
      (callees.expression 8 >>= fun operand => pure (some (.unaryOp op operand))) state := by
  refine .yields (honest.expression 8) ?_
  rintro _ tokens following ⟨tree, rfl, spelled⟩
  exact ⟨_, rfl, .prefixed isPrefix spelled⟩

/-- An intrinsic on one argument. -/
theorem ensures_intrinsic {name : String} {op : UnaryOperator}
    (isIntrinsic : intrinsic state.current.type = some (name, op)) :
    EnsuresTree rounding .operand (parseIntrinsic callees name op) state := by
  have starts : startsExpression state.current.type = true :=
    starts_of_table (by simp [isIntrinsic])
  refine .advance (ne_of_starts starts rfl) fun opening => .expect noConfusion fun argument => ?_
  refine .bind (honest.expression 0) fun value closing => .expect noConfusion fun final => ?_
  refine .pure ?_
  rintro tokens ⟨tree, rfl, spelled⟩
  exact ⟨_, rfl, .intrinsic isIntrinsic rfl spelled rfl⟩

theorem ensures_expressions :
    Ensures (repeated (matchToken .comma) (callees.expression 0) rounds) state
      fun values tokens following => exists trees, values = trees.map some ∧
        Spells rounding (.expressions trees) tokens following := by
  induction rounds generalizing state with
  | zero => exact .outOfRounds
  | succ rounds hypothesis =>
      refine .bind (honest.expression 0) fun value middle => ?_
      refine .matched noConfusion (fun later => .yields hypothesis ?_) fun ends => .pure ?_
      · rintro _ others following ⟨trees, rfl, spelledOthers⟩ tokens ⟨tree, rfl, spelled⟩
        exact ⟨tree :: trees, rfl, .moreExpressions spelled rfl spelledOthers⟩
      · rintro tokens ⟨tree, rfl, spelled⟩
        rw [List.append_nil]
        exact ⟨[tree], rfl, .lastExpression spelled ends⟩

theorem ensures_someClosed {message : String} :
    Ensures (repeated (matchToken .comma) (callees.expression 0) rounds >>= fun values =>
        consume .rightParen message >>= fun _ => pure values) state
      fun values tokens _ => AreClosed rounding values tokens := by
  refine .bind (ensures_expressions honest) fun values closing =>
    .expect noConfusion fun final => ?_
  refine .pure ?_
  rintro tokens ⟨trees, rfl, spelled⟩
  exact ⟨trees, tokens, _, rfl, rfl, .someArguments spelled, rfl⟩

/-- Initializers in parentheses behind a word. -/
theorem ensures_collection {build : List (Option Expression) -> Expression}
    {openMessage emptyMessage closeMessage : String}
    (isCollection : collectionTree token.type = some build) :
    EnsuresBehind rounding token
      (parseInitializers callees rounds openMessage emptyMessage closeMessage >>=
        fun initializers => pure (some (build initializers))) state := by
  have initializers : Ensures
      (parseInitializers callees rounds openMessage emptyMessage closeMessage) state
      fun values tokens _ => exists others,
        tokens = state.current.as .leftParen :: others ∧ AreClosed rounding values others := by
    unfold parseInitializers
    refine .expect noConfusion fun inside => .check noConfusion ?_
    cases inside.current.type == .rightParen with
    | true => exact ensures_noneClosed.weaken fun _ tokens _ closed => ⟨tokens, rfl, closed⟩
    | false =>
        exact (ensures_someClosed honest).weaken fun _ tokens _ closed => ⟨tokens, rfl, closed⟩
  refine .yields initializers ?_
  rintro _ _ following ⟨_, rfl, trees, front, closing, rfl, rfl, spelled, closes⟩
  exact ⟨_, rfl, .collection isCollection rfl spelled closes⟩

/-- A size behind a word. -/
theorem ensures_allocation {build : Option Expression -> Expression}
    (isAllocation : allocationTree token.type = some build)
    (apart : token.type = .vecKeyword -> state.current.type ≠ .leftParen) :
    EnsuresBehind rounding token
      (callees.expression 0 >>= fun size => pure (some (build size))) state := by
  have size : Ensures (callees.expression 0) state fun value tokens following =>
      (exists tree, value = some tree ∧ Spells rounding (.expression 0 tree) tokens following) ∧
        state.current.type = firstType tokens following :=
    (honest.expression 0).weakenFacing fun _ _ _ spelled faces => ⟨spelled, faces⟩
  refine .yields size ?_
  rintro _ tokens following ⟨⟨tree, rfl, spelled⟩, faces⟩
  rw [faces] at apart
  exact ⟨_, rfl, .allocation isAllocation apart spelled⟩

theorem ensures_valof {build : Option Statement -> Expression}
    (isValof : valofTree token.type = some build) :
    EnsuresBehind rounding token
      (callees.statement >>= fun body => pure (some (build body))) state := by
  refine .yields honest.statement ?_
  rintro _ tokens following ⟨tree, rfl, spelled⟩
  exact ⟨_, rfl, .valof isValof spelled⟩

theorem ensures_group (opens : token.type = .leftParen) :
    EnsuresBehind rounding token (parseGroupedExpression callees) state := by
  refine .bind (honest.expression 0) fun value closing => .expect noConfusion fun final => ?_
  refine .pure ?_
  rintro tokens ⟨tree, rfl, spelled⟩
  exact ⟨_, rfl, .group opens spelled rfl⟩

theorem ensures_plainPrimary :
    EnsuresTree rounding .operand (parsePlainPrimary rounding callees rounds state.current)
      state := by
  unfold parsePlainPrimary
  split <;> rename_i isType
  case h_16 => exact .failure
  case h_1 => exact ensures_number isType
  case h_2 | h_3 | h_4 | h_7 => exact ensures_token (by unfold atomTree; rw [isType])
  all_goals refine .advance (isType.trans_ne noConfusion) fun middle => ?_
  case h_8 => exact ensures_group honest isType
  case h_9 | h_10 => exact ensures_valof honest (by rw [isType]; rfl)
  case h_11 =>
      refine .check noConfusion ?_
      cases opens : middle.current.type == .leftParen with
      | true => exact ensures_collection honest (by rw [isType]; rfl)
      | false =>
          exact ensures_allocation honest (by rw [isType]; rfl) fun _ => ne_of_beq_false opens
  case h_12 | h_13 =>
      refine ensures_allocation honest (by rw [isType]; rfl) fun isVec => ?_
      rw [isType] at isVec
      cases isVec
  all_goals exact ensures_collection honest (by rw [isType]; rfl)

theorem ensures_operand :
    EnsuresTree rounding .operand (parseOperand rounding callees rounds) state := by
  refine .look ?_
  cases isPrefix : prefixOperator state.current.type with
  | some op =>
      have starts : startsExpression state.current.type = true :=
        starts_of_table (by simp [isPrefix])
      exact .advance (ne_of_starts starts rfl) fun _ => ensures_prefixed honest isPrefix
  | none =>
      refine .look ?_
      cases isConstant : typeConstant state.current.type with
      | some value => exact ensures_token (atomTree_of_constant isConstant)
      | none =>
          cases isIntrinsic : intrinsic state.current.type with
          | some named => exact ensures_intrinsic honest isIntrinsic
          | none => exact ensures_plainPrimary honest

/-- The arguments of a call. -/
theorem ensures_arguments :
    Ensures (parseArguments callees rounds) state
      fun values tokens _ => AreClosed rounding values tokens := by
  refine .check noConfusion ?_
  cases state.current.type == .rightParen with
  | true => exact ensures_noneClosed
  | false => exact ensures_someClosed honest

theorem ensures_index {type : TokenType} {left : Expression}
    {build : Expression -> Option Expression -> Expression}
    (isIndex : indexTree type = some build) :
    EnsuresTree rounding (.infixed type left)
      (callees.expression 9 >>= fun index => pure (some (build left index))) state := by
  refine .yields (honest.expression 9) ?_
  rintro _ tokens following ⟨tree, rfl, spelled⟩
  exact ⟨_, rfl, .index isIndex spelled⟩

theorem ensures_bitfield {left : Expression} :
    EnsuresTree rounding (.infixed .bitfield left) (parseBitfield callees left) state := by
  refine .expect noConfusion fun opened => .bind (honest.expression 0) fun start comma => ?_
  refine .expect noConfusion fun second => .bind (honest.expression 0) fun width closing => ?_
  refine .expect noConfusion fun final => .pure ?_
  rintro widths ⟨widthTree, rfl, spelledWidth⟩ starts ⟨startTree, rfl, spelledStart⟩
  exact ⟨_, rfl, .bitfield rfl spelledStart rfl spelledWidth rfl⟩

theorem ensures_conditional {left : Expression} :
    EnsuresTree rounding (.infixed .conditional left) (parseConditional callees left)
      state := by
  refine .bind (honest.expression 0) fun trueExpr comma => .expect noConfusion fun second => ?_
  refine .yields (honest.expression 1) ?_
  rintro _ falses following ⟨falseTree, rfl, spelledFalse⟩ trues ⟨trueTree, rfl, spelledTrue⟩
  exact ⟨_, rfl, .conditional spelledTrue rfl spelledFalse⟩

/-- One round of the loop over operators, behind the operator's token. -/
theorem ensures_operation {type : TokenType} {left : Expression} :
    EnsuresTree rounding (.infixed type left) (parseInfix callees rounds type left) state := by
  unfold parseInfix
  split
  · refine .yields (ensures_arguments honest) ?_
    rintro _ _ following ⟨trees, front, closing, rfl, rfl, spelled, closes⟩
    exact ⟨_, rfl, .call spelled closes⟩
  · exact ensures_index honest rfl
  · exact ensures_index honest rfl
  · exact ensures_index honest rfl
  · exact ensures_bitfield honest
  · exact ensures_conditional honest
  · unfold parseBinary
    cases isBinary : toBinaryOp type with
    | none => exact .escape _
    | some op =>
        refine .bind (honest.expression _) fun right final => ?_
        cases right with
        | none => exact .failure
        | some right =>
            refine .pure ?_
            rintro tokens ⟨_, ⟨⟩, spelled⟩
            rw [List.append_nil]
            exact ⟨_, rfl, .binary isBinary spelled⟩

theorem ensures_infixLoop {precedence remaining : Nat} {left : Option Expression} :
    Ensures (infixLoop callees rounds precedence remaining left) state
      fun value tokens following => forall tree, left = some tree ->
        exists result, value = some result ∧
          Spells rounding (.further precedence tree result) tokens following := by
  induction remaining generalizing state left with
  | zero => exact .outOfRounds
  | succ remaining hypothesis =>
  cases left with
  | none =>
      refine .pure ?_
      rintro tree ⟨⟩
  | some left =>
      refine .look ?_
      by_cases binds : precedence < tokenPrecedence state.current.type
      · rw [if_pos binds]
        have notEnd : state.current.type ≠ .eof := by
          intro isEnd
          rw [isEnd] at binds
          exact absurd binds (Nat.not_lt_zero _)
        refine .advance notEnd fun operand =>
          .bind (ensures_operation honest) fun value middle => ?_
        refine hypothesis.weaken ?_
        rintro value others following further tokens ⟨tree, same, spelled⟩ _ ⟨⟩
        rcases further tree same with ⟨result, rfl, spelledOthers⟩
        exact ⟨result, rfl, .further binds spelled spelledOthers⟩
      · rw [if_neg binds]
        refine .pure ?_
        rintro _ ⟨⟩
        exact ⟨left, rfl, .noFurther (Nat.le_of_not_lt binds)⟩

theorem ensures_expression {precedence : Nat} :
    EnsuresTree rounding (.expression precedence)
      (parseExpression rounding callees rounds precedence) state := by
  refine .bind (ensures_operand honest) fun value middle => ?_
  refine (ensures_infixLoop honest).weaken ?_
  rintro _ others following further tokens ⟨tree, same, spelled⟩
  rcases further tree same with ⟨result, rfl, spelledOthers⟩
  exact ⟨result, rfl, .expression spelled spelledOthers⟩

end Expressions

end Parsing
end NewBcpl
