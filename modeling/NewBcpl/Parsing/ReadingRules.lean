import NewBcpl.Parsing.ProgramGrammar
import NewBcpl.Parsing.ProgramParser

namespace NewBcpl
namespace Parsing

open Grammars Parse

/-!
# Rules for runs of the parser

A run of an observed parser beside the same run without an observer. As long as no
error is reported, what has been read from one state to another is a word of a
language; when a run throws, an error has been reported. The rules put the runs of
the parser's functions together.
-/

namespace ParserState

/-- The types of the tokens from the current one on. -/
def unread (state : ParserState) : List TokenType :=
  if state.isAtEnd then [] else (state.current :: state.rest).map Token.type

end ParserState

/-- A result that is not null has cost a token. -/
def gainOf {Value : Type} : Option Value -> Nat
  | some _ => 1
  | none => 0

section Covering

variable (total : Nat)

/-- What holds of every state of a run on a finite list of tokens: the end comes only
behind the tokens, a lexical error is never the current token, and the flag tells
whether there has been an error. -/
structure Fed (state : ParserState) : Prop where
  ends : state.ending.type = .eof
  inside : forall token, token ∈ state.rest -> token.type ≠ .eof
  atEnd : state.isAtEnd = true -> state.rest = []
  readable : state.current.type ≠ .error
  marked : state.fatal = true <-> state.errors ≠ []
  short : state.unread.length ≤ total

/-- From one state to another the parser has read at least the given number of
tokens, and without an error a word of the language. -/
structure Covers (state : ParserState) (language : Language TokenType) (gain : Nat)
    (final : ParserState) : Prop where
  fed : Fed total final
  gains : final.unread.length + gain ≤ state.unread.length
  clean : final.errors = [] -> state.errors = []
  reads : final.errors = [] ->
    exists word, word ∈ language ∧ state.unread = word ++ final.unread

/-- The run of an observed function, and the run of the function itself. The second
is the same unless the observer halts the first; it never ends where the first is
halted at a declaration in a block. -/
def Runs {Value : Type} (watched plain : Parse Value) (state : ParserState)
    (after : Value -> ParserState -> Prop) : Prop :=
  match watched state with
  | .done value final => plain state = .done value final ∧ after value final
  | .thrown final => plain state = .thrown final ∧ Fed total final ∧ final.errors ≠ []
  | .escaped exception final => plain state = .escaped exception final
  | .halted place _ => place = .blockDeclaration -> plain state = .exhausted
  | .exhausted => False

end Covering

section Rules

variable {total : Nat} {First Second : Type}

namespace Covers

variable {state middle final : ParserState} {language other : Language TokenType}
  {gain more : Nat}

theorem refl (fed : Fed total state) : Covers total state 1 0 state where
  fed := fed
  gains := le_refl _
  clean := fun clean => clean
  reads := fun _ => ⟨[], Language.nil_mem_one, rfl⟩

theorem trans (first : Covers total state language gain middle)
    (second : Covers total middle other more final) :
    Covers total state (language * other) (gain + more) final where
  fed := second.fed
  gains := by
    have early := first.gains
    have late := second.gains
    omega
  clean := fun clean => first.clean (second.clean clean)
  reads := by
    intro clean
    rcases first.reads (second.clean clean) with ⟨early, inFirst, before⟩
    rcases second.reads clean with ⟨late, inSecond, behind⟩
    refine ⟨early ++ late, Language.append_mem_mul inFirst inSecond, ?_⟩
    rw [before, behind, List.append_assoc]

/-- A larger language and a smaller gain. -/
theorem mono (covers : Covers total state language gain final) (included : language ≤ other)
    (less : more ≤ gain) : Covers total state other more final where
  fed := covers.fed
  gains := by
    have gains := covers.gains
    omega
  clean := covers.clean
  reads := by
    intro clean
    rcases covers.reads clean with ⟨word, member, same⟩
    exact ⟨word, included member, same⟩

theorem equal (covers : Covers total state language gain final) (same : language = other) :
    Covers total state other gain final :=
  covers.mono (le_of_eq same) (le_refl gain)

/-- Where no word can have been read there has been an error. -/
theorem impossible (covers : Covers total state 0 gain final) (less : more ≤ gain) :
    Covers total state other more final :=
  covers.mono (fun _ member => (Language.notMem_zero _ member).elim) less

/-- The right side of a rule has been read. -/
theorem produces {name : Nonterminal} {pieces : List Piece}
    (member : pieces ∈ productions name)
    (covers : Covers total state (row programGrammar pieces) gain final) (less : more ≤ gain) :
    Covers total state (words (part name)) more final :=
  covers.mono (production_le member) less

/-- After an error it does not matter what has been read. -/
theorem spoiled (fed : Fed total final) (errors : final.errors ≠ [])
    (gains : final.unread.length + gain ≤ state.unread.length) :
    Covers total state language gain final where
  fed := fed
  gains := gains
  clean := fun clean => absurd clean errors
  reads := fun clean => absurd clean errors

theorem shorter (covers : Covers total state language gain final) :
    final.unread.length ≤ state.unread.length := by
  have gains := covers.gains
  omega

end Covers

namespace Runs

variable {watched plain : Parse First} {next plainNext : First -> Parse Second}
  {state : ParserState} {after between : First -> ParserState -> Prop}
  {last : Second -> ParserState -> Prop}

theorem bind (first : Runs total watched plain state between)
    (second : forall value middle, between value middle ->
      Runs total (next value) (plainNext value) middle last) :
    Runs total (watched >>= next) (plain >>= plainNext) state last := by
  unfold Runs at first ⊢
  cases outcome : watched state with
  | done value middle =>
      rw [outcome] at first
      rw [bind_done outcome, bind_done first.1]
      exact second value middle first.2
  | thrown final =>
      rw [outcome] at first
      rw [bind_thrown outcome, bind_thrown first.1]
      exact ⟨rfl, first.2⟩
  | escaped exception final =>
      rw [outcome] at first
      rw [bind_escaped outcome, bind_escaped first]
  | halted place final =>
      rw [outcome] at first
      rw [bind_halted outcome]
      exact fun here => bind_exhausted (first here)
  | exhausted =>
      rw [outcome] at first
      exact first.elim

theorem weaken (runs : Runs total watched plain state between)
    (weaker : forall value final, between value final -> after value final) :
    Runs total watched plain state after := by
  unfold Runs at runs ⊢
  cases outcome : watched state with
  | done value final =>
      rw [outcome] at runs
      exact ⟨runs.1, weaker value final runs.2⟩
  | thrown final | escaped exception final | halted place final | exhausted =>
      rw [outcome] at runs
      exact runs

theorem pure {value : First} (holds : after value state) :
    Runs total (pure value) (pure value) state after := ⟨rfl, holds⟩

theorem escape (exception : Escape) :
    Runs total (Parsing.escape exception : Parse First) (Parsing.escape exception) state
      after := rfl

end Runs

section Primitives

variable {state : ParserState}

theorem unread_of_isAtEnd (ended : state.isAtEnd = true) : state.unread = [] := by
  unfold ParserState.unread
  rw [if_pos ended]

theorem unread_of_not_isAtEnd (goesOn : state.isAtEnd = false) :
    state.unread = state.current.type :: state.rest.map Token.type := by
  unfold ParserState.unread
  rw [goesOn]
  rfl

theorem check_eq_true {type : TokenType} (found : state.check type = true) :
    state.isAtEnd = false ∧ state.current.type = type := by
  unfold ParserState.check at found
  cases ended : state.isAtEnd <;> simp_all

/-- Taking a token passes over lexical errors and reports them. -/
theorem takeToken_facts (tokens : List Token)
    (inside : forall token, token ∈ tokens -> token.type ≠ .eof)
    (ends : state.ending.type = .eof) (marked : state.fatal = true <-> state.errors ≠ []) :
    (state.takeToken tokens).ending.type = .eof ∧
      (forall token, token ∈ (state.takeToken tokens).rest -> token.type ≠ .eof) ∧
      ((state.takeToken tokens).isAtEnd = true -> (state.takeToken tokens).rest = []) ∧
      (state.takeToken tokens).current.type ≠ .error ∧
      ((state.takeToken tokens).fatal = true <-> (state.takeToken tokens).errors ≠ []) ∧
      (state.takeToken tokens).unread.length ≤ tokens.length ∧
      ((state.takeToken tokens).errors = [] -> state.errors = [] ∧
        tokens.map Token.type = (state.takeToken tokens).unread) := by
  induction tokens generalizing state with
  | nil =>
      have ended : (state.takeToken []).isAtEnd = true := by
        change (state.ending.type == .eof) = true
        rw [ends]
        rfl
      rw [unread_of_isAtEnd ended]
      refine ⟨ends, fun _ member => absurd member List.not_mem_nil, fun _ => rfl, ?_, marked,
        Nat.zero_le _, fun clean => ⟨clean, rfl⟩⟩
      change state.ending.type ≠ .error
      rw [ends]
      exact TokenType.noConfusion
  | cons token tokens hypothesis =>
      have later : forall other, other ∈ tokens -> other.type ≠ .eof :=
        fun other member => inside other (List.mem_cons_of_mem _ member)
      unfold ParserState.takeToken
      by_cases lexical : token.type = .error
      · rw [if_pos lexical]
        have reported : (state.error ("Lexical error: " ++
            String.ofList token.value)).errors ≠ [] := by simp [ParserState.error]
        rcases @hypothesis (state.error ("Lexical error: " ++ String.ofList token.value))
          later ends ⟨fun _ => reported, fun _ => rfl⟩ with
          ⟨keepsEnd, keepsInside, keepsRest, readable, keepsMark, shorter, clean⟩
        exact ⟨keepsEnd, keepsInside, keepsRest, readable, keepsMark, Nat.le_succ_of_le shorter,
          fun none => absurd (clean none).1 reported⟩
      · rw [if_neg lexical]
        have goesOn : ParserState.isAtEnd
            { state with current := token, rest := tokens } = false := by
          change (token.type == .eof) = false
          exact beq_false_of_ne (inside token (List.mem_cons_self ..))
        rw [unread_of_not_isAtEnd goesOn]
        refine ⟨ends, later, ?_, lexical, marked, ?_, fun clean => ⟨clean, rfl⟩⟩
        · intro ended
          rw [goesOn] at ended
          cases ended
        · simp

theorem Fed.advance_facts (fed : Fed total state) :
    Fed total state.advance ∧ state.advance.unread.length ≤ state.rest.length ∧
      (state.advance.errors = [] -> state.errors = [] ∧
        state.rest.map Token.type = state.advance.unread) := by
  rcases @takeToken_facts { state with previous := state.current } state.rest fed.inside
    fed.ends fed.marked with
    ⟨ends, inside, atEnd, readable, marked, shorter, clean⟩
  refine ⟨⟨ends, inside, atEnd, readable, marked, ?_⟩, shorter, clean⟩
  have short := fed.short
  cases ended : state.isAtEnd with
  | true =>
      have empty := fed.atEnd ended
      have none : state.rest.length = 0 := by rw [empty]; rfl
      exact shorter.trans (by omega)
  | false =>
      rw [unread_of_not_isAtEnd ended] at short
      simp only [List.length_cons, List.length_map] at short
      exact shorter.trans (by omega)

/-- Reading a token that is not the end. -/
theorem Covers.advance (fed : Fed total state) (goesOn : state.isAtEnd = false) :
    Covers total state (words (token state.current.type)) 1 state.advance := by
  rcases fed.advance_facts with ⟨fed, shorter, clean⟩
  refine ⟨fed, ?_, fun none => (clean none).1, fun none => ?_⟩
  · rw [unread_of_not_isAtEnd goesOn]
    simpa using shorter
  · refine ⟨[state.current.type], rfl, ?_⟩
    rw [unread_of_not_isAtEnd goesOn, (clean none).2]
    rfl

theorem error_errors (message : String) : (state.error message).errors ≠ [] := by
  simp [ParserState.error]

theorem Fed.error (fed : Fed total state) (message : String) :
    Fed total (state.error message) :=
  ⟨fed.ends, fed.inside, fed.atEnd, fed.readable,
    ⟨fun _ => error_errors message, fun _ => rfl⟩, fed.short⟩

@[simp] theorem error_unread (message : String) :
    (state.error message).unread = state.unread := rfl

/-- An error in the place of what is missing. -/
theorem Covers.error {final : ParserState} {language other : Language TokenType}
    {gain more : Nat} (covers : Covers total state language gain final) (message : String)
    (less : more ≤ gain) :
    Covers total state other more (final.error message) := by
  refine .spoiled (covers.fed.error message) (error_errors message) ?_
  have gains := covers.gains
  rw [error_unread]
  omega

namespace Runs

variable {next plainNext : First -> Parse Second}
  {last : Second -> ParserState -> Prop}

theorem advance (fed : Fed total state) {type : TokenType} (isType : state.current.type = type)
    (notEnd : type ≠ .eof) :
    Runs total Parsing.advance Parsing.advance state
      fun _ final => Covers total state (words (token type)) 1 final := by
  refine ⟨rfl, ?_⟩
  subst isType
  exact .advance fed (beq_false_of_ne notEnd)

/-- Looking at the state does not change it. -/
theorem look {next plainNext : ParserState -> Parse Second}
    (goesOn : Runs total (next state) (plainNext state) state last) :
    Runs total (Parse.look >>= next) (Parse.look >>= plainNext) state last := goesOn

theorem check {type : TokenType} {next plainNext : Bool -> Parse Second}
    (goesOn : Runs total (next (state.check type)) (plainNext (state.check type)) state last) :
    Runs total (Parsing.check type >>= next) (Parsing.check type >>= plainNext) state last :=
  goesOn

/-- A function goes on after an error. -/
theorem error {message : String} {next plainNext : Unit -> Parse Second}
    (goesOn : Runs total (next ()) (plainNext ()) (state.error message) last) :
    Runs total (Parsing.error message >>= next) (Parsing.error message >>= plainNext) state
      last := goesOn

theorem consume (fed : Fed total state) (type : TokenType) (message : String) :
    Runs total (Parsing.consume type message) (Parsing.consume type message) state
      fun _ final => Covers total state (words (token type)) 1 final := by
  unfold Runs Parsing.consume
  cases found : state.check type with
  | true =>
      rcases check_eq_true found with ⟨goesOn, isType⟩
      subst isType
      exact ⟨rfl, .advance fed goesOn⟩
  | false => exact ⟨rfl, fed.error _, error_errors _⟩

theorem matchToken (fed : Fed total state) (type : TokenType) :
    Runs total (Parsing.matchToken type) (Parsing.matchToken type) state fun found final =>
      (found = true ∧ Covers total state (words (token type)) 1 final) ∨
        (found = false ∧ final = state ∧ state.check type = false) := by
  unfold Runs Parsing.matchToken
  cases found : state.check type with
  | true =>
      rcases check_eq_true found with ⟨goesOn, isType⟩
      subst isType
      exact ⟨rfl, Or.inl ⟨rfl, .advance fed goesOn⟩⟩
  | false => exact ⟨rfl, Or.inr ⟨rfl, rfl, rfl⟩⟩

/-- A token that separates items. -/
theorem separator (fed : Fed total state) (type : TokenType) :
    Runs total (Parsing.matchToken type) (Parsing.matchToken type) state fun found final =>
      (found = true ∧ Covers total state (words (token type)) 1 final) ∨
        (found = false ∧ final = state) :=
  (matchToken fed type).weaken fun _ _ outcome =>
    outcome.imp_right fun missed => ⟨missed.1, missed.2.1⟩

/-- The two ways on after an optional token. -/
theorem matched (fed : Fed total state) {type : TokenType}
    {next plainNext : Bool -> Parse Second}
    (taken : forall middle, Covers total state (words (token type)) 1 middle ->
      Runs total (next true) (plainNext true) middle last)
    (missed : state.check type = false ->
      Runs total (next false) (plainNext false) state last) :
    Runs total (Parsing.matchToken type >>= next) (Parsing.matchToken type >>= plainNext)
      state last := by
  refine bind (matchToken fed type) fun found middle outcome => ?_
  rcases outcome with ⟨same, covers⟩ | ⟨same, still, other⟩
  · rw [same]
    exact taken middle covers
  · rw [same, still]
    exact missed other

theorem parseName (fed : Fed total state) (message : String) :
    Runs total (Parsing.parseName message) (Parsing.parseName message) state
      fun _ final => Covers total state (words (token .identifier)) 1 final :=
  look (bind (consume fed .identifier message) fun _ _ covers => pure covers)

/-- A loop over items with separators between them. -/
theorem repeated {Value : Type} {again : Parse Bool} {item plainItem : Parse Value}
    {element separator : Language TokenType} {size : Nat}
    (separates : forall state, Fed total state -> Runs total again again state
      fun more final => (more = true ∧ Covers total state separator 1 final) ∨
        (more = false ∧ final = state))
    (items : forall state, Fed total state -> state.unread.length < size ->
      Runs total item plainItem state fun _ final => Covers total state element 0 final)
    {rounds : Nat} (fed : Fed total state) (short : state.unread.length < size)
    (enough : state.unread.length < rounds) :
    Runs total (Parsing.repeated again item rounds) (Parsing.repeated again plainItem rounds)
      state fun values final => exists count, values.length = count + 1 ∧
        Covers total state (element * (separator * element) ^ count) 0 final := by
  induction rounds generalizing state with
  | zero => omega
  | succ rounds hypothesis =>
      refine bind (items state fed short) fun first middle read => ?_
      refine bind (separates middle read.fed) fun more later separated => ?_
      rcases separated with ⟨same, covers⟩ | ⟨same, still⟩
      · have shorter := read.gains
        have shorterStill := covers.gains
        rw [same]
        refine bind (hypothesis covers.fed (by omega) (by omega)) fun rest final loops => ?_
        rcases loops with ⟨count, length, others⟩
        refine pure ⟨count + 1, by rw [List.length_cons, length], ?_⟩
        refine (read.trans (covers.trans others)).mono (le_of_eq ?_) (Nat.zero_le _)
        rw [pow_succ', mul_assoc separator]
      · rw [same, still]
        refine pure ⟨0, rfl, ?_⟩
        rw [pow_zero, mul_one]
        exact read

end Runs

end Primitives

end Rules

end Parsing
end NewBcpl
