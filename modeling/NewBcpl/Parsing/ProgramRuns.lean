import Mathlib.Tactic.IntervalCases
import NewBcpl.Parsing.DeclarationReading
import NewBcpl.Parsing.NumberNotations

namespace NewBcpl
namespace Parsing

open Grammars Parse

/-!
# Runs of the parser on token streams

The recovery after an error, the loop of `parse_program`, and what becomes of a run on
any finite stream of tokens: it returns, with an error unless the stream is a program,
or the watched run shows what hinders it.
-/

section Programs

variable {total : Nat} {watched plain : Callees} {state : ParserState}

/-- A handler of a thrown error, where an error has been reported. -/
theorem Runs.tryCatch {Value : Type} {body plainBody handler plainHandler : Parse Value}
    {after : Value -> ParserState -> Prop} (runs : Runs total body plainBody state after)
    (handles : forall middle, Fed total middle -> middle.errors ≠ [] ->
      Runs total handler plainHandler middle after) :
    Runs total (Parsing.tryCatch body handler) (Parsing.tryCatch plainBody plainHandler) state
      after := by
  unfold Runs at runs
  cases outcome : body state with
  | done value final =>
      rw [outcome] at runs
      unfold Runs Parsing.tryCatch
      rw [outcome, runs.1]
      exact ⟨rfl, runs.2⟩
  | thrown middle =>
      rw [outcome] at runs
      have handled := handles middle runs.2.1 runs.2.2
      unfold Runs at handled ⊢
      unfold Parsing.tryCatch
      rw [outcome, runs.1]
      exact handled
  | escaped exception final =>
      rw [outcome] at runs
      unfold Runs Parsing.tryCatch
      rw [outcome, runs]
  | halted place final =>
      rw [outcome] at runs
      unfold Runs Parsing.tryCatch
      rw [outcome]
      exact fun here => by rw [runs here]
  | exhausted =>
      rw [outcome] at runs
      exact runs.elim

/-- After an error, reading a token keeps the errors. -/
theorem Fed.advance_errors (fed : Fed total state) (errors : state.errors ≠ []) :
    Fed total state.advance ∧ state.advance.errors ≠ [] := by
  rcases fed.advance_facts with ⟨next, _, clean⟩
  exact ⟨next, fun none => errors (clean none).1⟩

theorem synchronizeLoop_reads (fed : Fed total state) (errors : state.errors ≠ [])
    {rounds : Nat} (enough : state.unread.length < rounds) :
    Runs total (synchronizeLoop rounds) (synchronizeLoop rounds) state
      fun _ final => Fed total final ∧ final.errors ≠ [] := by
  induction rounds generalizing state with
  | zero => omega
  | succ rounds hypothesis =>
      refine Runs.look ?_
      cases stops : state.isAtEnd || state.previous.type == .semicolon ||
          startsStatement state.current.type with
      | true => exact .pure ⟨fed, errors⟩
      | false =>
          have goesOn : state.isAtEnd = false :=
            (Bool.or_eq_false_iff.mp (Bool.or_eq_false_iff.mp stops).1).1
          have less := (Covers.advance fed goesOn).gains
          rcases fed.advance_errors errors with ⟨next, keeps⟩
          exact hypothesis next keeps (by omega)

theorem synchronize_reads (fed : Fed total state) (errors : state.errors ≠ []) {rounds : Nat}
    (enough : total < rounds) :
    Runs total (synchronize rounds) (synchronize rounds) state
      fun _ final => Fed total final ∧ final.errors ≠ [] := by
  rcases fed.advance_errors errors with ⟨next, keeps⟩
  have loop := synchronizeLoop_reads next keeps (lt_of_le_of_lt next.short enough)
  exact loop

/-- One round of the loop of `parse_program`: a declaration has been read, or an
error has been reported. -/
theorem programRound_reads (trusted : Trusted total (total + 1) watched plain) {rounds : Nat}
    (fed : Fed total state) (enough : total < rounds) :
    Runs total (programRound watched rounds) (programRound plain rounds) state
      fun result final => Fed total final ∧ (final.errors ≠ [] ∨
        result.2 = true ∧ Covers total state (words (part .topDeclaration)) 1 final) := by
  have short : state.unread.length ≤ total + 1 := Nat.le_succ_of_le fed.short
  refine Runs.tryCatch (Runs.look ?_) fun middle middleFed errors => ?_
  · cases isLet : state.check .letKeyword || state.check .fletKeyword with
    | true =>
        have letType : state.current.type = .letKeyword ∨
            state.current.type = .fletKeyword :=
          (Bool.or_eq_true_iff.mp isLet).imp (fun found => (check_eq_true found).2)
            fun found => (check_eq_true found).2
        refine Runs.bind (parseToplevelLetDeclaration_reads trusted fed short enough letType)
          fun declaration final read => ?_
        exact .pure ⟨read.fed, Or.inr ⟨rfl, read⟩⟩
    | false =>
    cases declares : isDeclarationStart state.current.type with
    | true =>
        rcases declarationStart_cases declares with stuck | starts
        · have reported : Runs total (parseDeclaration watched rounds)
              (parseDeclaration plain rounds) state fun _ final =>
                final = state.error "Unknown or unexpected declaration type." := by
            unfold Runs
            rw [parseDeclaration_stuck watched rounds stuck,
              parseDeclaration_stuck plain rounds stuck]
            exact ⟨rfl, rfl⟩
          refine Runs.bind reported fun declaration final same => ?_
          rw [same]
          exact .pure ⟨fed.error _, Or.inl (error_errors _)⟩
        · refine Runs.bind (parseDeclaration_reads trusted fed short enough starts)
            fun declaration final read => ?_
          refine .pure ⟨read.fed, Or.inr ⟨rfl, ?_⟩⟩
          exact .produces (show [part .definitionBlock] ∈ productions .topDeclaration by
            simp [productions]) read (le_refl _)
    | false =>
        refine Runs.error (Runs.bind (synchronize_reads (fed.error _) (error_errors _) enough)
          fun _ final after => ?_)
        exact .pure ⟨after.1, Or.inl after.2⟩
  · refine Runs.bind (synchronize_reads middleFed errors enough) fun _ final after => ?_
    exact .pure ⟨after.1, Or.inl after.2⟩

/-- After an error the loop of `parse_program` ends. -/
theorem programLoop_broken (fed : Fed total state) (errors : state.errors ≠ [])
    {rounds remaining : Nat} (later : 0 < remaining) :
    Runs total (programLoop watched rounds remaining) (programLoop plain rounds remaining) state
      fun _ final => final = state := by
  cases remaining with
  | zero => omega
  | succ remaining =>
      refine Runs.look ?_
      rw [fed.marked.mpr errors, Bool.or_true]
      exact .pure rfl

/-- The loop of `parse_program`: without an error everything has been read, and it is
a program. -/
theorem programLoop_reads (trusted : Trusted total (total + 1) watched plain) {rounds : Nat}
    (enough : total < rounds) (fed : Fed total state) {remaining : Nat}
    (rest : state.unread.length + 1 < remaining) :
    Runs total (programLoop watched rounds remaining) (programLoop plain rounds remaining) state
      fun _ final => Fed total final ∧ (final.errors = [] ->
        state.errors = [] ∧ state.unread ∈ words (part .program)) := by
  induction remaining generalizing state with
  | zero => omega
  | succ remaining hypothesis =>
      refine Runs.look ?_
      cases stops : state.isAtEnd || state.fatal with
      | true =>
          refine .pure ⟨fed, fun clean => ⟨clean, ?_⟩⟩
          have notFatal : state.fatal = false := by
            by_contra broken
            exact fed.marked.mp (by simpa using broken) clean
          rw [notFatal, Bool.or_false] at stops
          rw [unread_of_isAtEnd stops]
          have rule : [] ∈ productions .program := by simp [productions]
          exact production_le rule Language.nil_mem_one
      | false =>
          refine Runs.bind (programRound_reads trusted fed enough) fun result middle round => ?_
          rcases round with ⟨middleFed, errors | ⟨again, read⟩⟩
          · have later : 0 < remaining := by omega
            cases result.2 with
            | false => exact .pure ⟨middleFed, fun clean => absurd clean errors⟩
            | true =>
                refine Runs.bind (programLoop_broken middleFed errors later)
                  fun others final same => ?_
                rw [same]
                exact .pure ⟨middleFed, fun clean => absurd clean errors⟩
          · rw [again]
            have less := read.gains
            refine Runs.bind (hypothesis middleFed (by omega)) fun others final after => ?_
            refine .pure ⟨after.1, fun clean => ?_⟩
            rcases after.2 clean with ⟨cleanMiddle, isProgram⟩
            rcases read.reads cleanMiddle with ⟨word, member, before⟩
            refine ⟨read.clean cleanMiddle, ?_⟩
            rw [before]
            have rule : [part .topDeclaration, part .program] ∈ productions .program := by
              simp [productions]
            exact production_le rule (Language.append_mem_mul member isProgram)

/-- The functions that are called back are trusted on every level of the recursion
that has two rounds for each token that is left: one for the statement and one for
the expression in front of which nothing has been read yet. -/
theorem callees_trusted (rounding : Rounding) (size : Nat) {rounds : Nat}
    (enough : 2 * size + 1 ≤ rounds) :
    Trusted total size (callees rounding watcher rounds)
      (callees rounding Observer.none rounds) := by
  have expressions : forall rounds precedence state, Fed total state ->
      2 * state.unread.length + 2 ≤ rounds ->
      (forall size, 2 * size + 1 ≤ rounds - 1 -> Trusted total size
        (callees rounding watcher (rounds - 1)) (callees rounding Observer.none (rounds - 1))) ->
      ReadsExpression total ((callees rounding watcher rounds).expression precedence)
        ((callees rounding Observer.none rounds).expression precedence) state := by
    intro rounds precedence state fed enough trusted
    cases rounds with
    | zero => omega
    | succ rounds =>
        exact parseExpression_reads rounding (trusted state.unread.length (by omega)) fed
          (le_refl _) (by omega) precedence
  induction rounds using Nat.strong_induction_on generalizing size with
  | _ rounds hypothesis =>
      cases rounds with
      | zero => omega
      | succ rounds =>
          have below : forall level, level ≤ rounds -> forall size, 2 * size + 1 ≤ level ->
              Trusted total size (callees rounding watcher level)
                (callees rounding Observer.none level) :=
            fun level lower size enough => hypothesis level (by omega) size enough
          refine ⟨?_, ?_, ?_, ?_, ?_⟩
          · intro precedence state fed short
            exact expressions (rounds + 1) precedence state fed (by omega)
              fun size enough => below rounds (le_refl _) size (by simpa using enough)
          · intro state fed short
            refine parseStatement_reads (below rounds (le_refl _) state.unread.length (by omega))
              fed (le_refl _) (by omega) ?_
            exact expressions rounds 0 state fed (by omega)
              fun size enough => below (rounds - 1) (by omega) size enough
          · intro state fed short starts
            have notRoutine : atRoutine state = false := by
              unfold atRoutine
              rcases starts with same | same | same <;> rw [same] <;> rfl
            have goesOn : (callees rounding watcher (rounds + 1)).blockDeclaration state =
                parseDeclaration (callees rounding watcher rounds) rounds state :=
              if_neg (by simpa [watcher] using notRoutine)
            have reads := parseDeclaration_reads
              (below rounds (le_refl _) state.unread.length (by omega)) fed (le_refl _)
              (show state.unread.length ≤ rounds by omega) starts
            unfold Runs at reads ⊢
            rw [goesOn]
            exact reads
          · intro state stuck
            refine ⟨if_pos ((atRoutine_iff state).mpr stuck), _,
              parseDeclaration_stuck _ _ stuck⟩
          · intro state fed short
            exact skipToBrace_reads fed (show state.unread.length < rounds by omega)

end Programs

section Streams

/-- A finite stream of tokens: the lexer gives the tokens, among which is no end, and
then the end again and again. -/
structure TokenStream where
  tokens : List Token
  ending : Token
  inside : forall token, token ∈ tokens -> token.type ≠ .eof
  ends : ending.type = .eof

variable (rounding : Rounding)

/-- The run of `parse_program` on a stream, under an observer. -/
def TokenStream.run (stream : TokenStream) (observer : Observer) (rounds : Nat) :
    Outcome Program :=
  parseProgram rounding observer rounds stream.tokens stream.ending

/-- `parse_program` returns, and where the stream is not a program there is an
error. -/
def TokenStream.Answered (stream : TokenStream) (rounds : Nat) : Prop :=
  exists program final, stream.run rounding Observer.none rounds = .done program final ∧
    (¬ WellFormed stream.tokens -> final.errors ≠ [])

/-- Rounds that are enough for a stream. -/
def TokenStream.enough (stream : TokenStream) : Nat := 2 * stream.tokens.length + 3

/-- The state after the first token has been read. -/
theorem TokenStream.starts (stream : TokenStream) :
    Fed stream.tokens.length
      (ParserState.initial stream.tokens stream.ending).advance ∧
    ((ParserState.initial stream.tokens stream.ending).advance.errors = [] ->
      stream.tokens.map Token.type =
        (ParserState.initial stream.tokens stream.ending).advance.unread) := by
  have unmarked : (ParserState.initial stream.tokens stream.ending).fatal = true <->
      (ParserState.initial stream.tokens stream.ending).errors ≠ [] :=
    ⟨fun broken => Bool.noConfusion broken, fun errors => absurd rfl errors⟩
  rcases @takeToken_facts { ParserState.initial stream.tokens stream.ending with
      previous := Token.blank } stream.tokens stream.inside stream.ends unmarked with
    ⟨ends, inside, atEnd, readable, marked, short, clean⟩
  exact ⟨⟨ends, inside, atEnd, readable, marked, short⟩, fun none => (clean none).2⟩

/-- `parse_program` after its first token. -/
def reader (observer : Observer) (rounds : Nat) : Parse Program :=
  programLoop (callees rounding observer rounds) rounds rounds >>= fun declarations =>
    pure { declarations := declarations }

theorem TokenStream.run_eq (stream : TokenStream) (observer : Observer) (rounds : Nat) :
    stream.run rounding observer rounds = reader rounding observer rounds
      (ParserState.initial stream.tokens stream.ending).advance := rfl

/-- The run beside the watched run. -/
theorem TokenStream.run_reads (stream : TokenStream) {rounds : Nat}
    (enough : stream.enough ≤ rounds) :
    Runs stream.tokens.length (reader rounding watcher rounds)
      (reader rounding Observer.none rounds)
      (ParserState.initial stream.tokens stream.ending).advance
      fun _ final => final.errors = [] -> WellFormed stream.tokens := by
  rcases stream.starts with ⟨fed, clean⟩
  have short := fed.short
  unfold TokenStream.enough at enough
  have trusted : Trusted stream.tokens.length (stream.tokens.length + 1)
      (callees rounding watcher rounds) (callees rounding Observer.none rounds) :=
    callees_trusted rounding _ (by omega)
  refine Runs.bind (programLoop_reads trusted (by omega) fed (by omega))
    fun declarations final after => .pure fun none => ?_
  rcases after.2 none with ⟨cleanStart, isProgram⟩
  rw [<- clean cleanStart] at isProgram
  exact isProgram

section Steadiness

variable {First Second : Type}

/-- A function that never throws. -/
def Steady (function : Parse First) : Prop :=
  forall state final, function state ≠ .thrown final

theorem Steady.returns {function : Parse First}
    (done : forall state, exists value final, function state = .done value final) :
    Steady function := by
  intro state final thrown
  rcases done state with ⟨value, other, same⟩
  rw [same] at thrown
  cases thrown

theorem Steady.bind {first : Parse First} {next : First -> Parse Second}
    (steady : Steady first) (steadyNext : forall value, Steady (next value)) :
    Steady (first >>= next) := by
  intro state final thrown
  cases outcome : first state with
  | done value middle =>
      rw [bind_done outcome] at thrown
      exact steadyNext value middle final thrown
  | thrown middle => exact steady state middle outcome
  | escaped exception middle =>
      rw [bind_escaped outcome] at thrown
      cases thrown
  | halted place middle =>
      rw [bind_halted outcome] at thrown
      cases thrown
  | exhausted =>
      rw [bind_exhausted outcome] at thrown
      cases thrown

theorem Steady.pure (value : First) : Steady (pure value) :=
  .returns fun state => ⟨value, state, rfl⟩

theorem Steady.look : Steady look := .returns fun state => ⟨state, state, rfl⟩

theorem Steady.advance : Steady advance := .returns fun state => ⟨(), state.advance, rfl⟩

theorem Steady.outOfRounds : Steady (outOfRounds : Parse First) := by
  intro state final thrown
  cases thrown

theorem Steady.tryCatch (body : Parse First) {handler : Parse First}
    (steady : Steady handler) : Steady (Parsing.tryCatch body handler) := by
  intro state final thrown
  unfold Parsing.tryCatch at thrown
  cases outcome : body state with
  | thrown middle =>
      rw [outcome] at thrown
      exact steady middle final thrown
  | done | escaped | halted | exhausted =>
      rw [outcome] at thrown
      cases thrown

theorem synchronize_steady (rounds : Nat) : Steady (synchronize rounds) := by
  have loop : forall remaining, Steady (synchronizeLoop remaining) := by
    intro remaining
    induction remaining with
    | zero => exact .outOfRounds
    | succ remaining hypothesis =>
        refine .bind .look fun state => ?_
        split
        · exact .pure ()
        · exact .bind .advance fun _ => hypothesis
  exact .bind .advance fun _ => loop rounds

/-- `parse_program` catches every error that is thrown in its loop. -/
theorem programLoop_steady (callees : Callees) (rounds remaining : Nat) :
    Steady (programLoop callees rounds remaining) := by
  induction remaining with
  | zero => exact .outOfRounds
  | succ remaining hypothesis =>
      refine .bind .look fun state => ?_
      split
      · exact .pure []
      · refine .bind (.tryCatch _ (.bind (synchronize_steady rounds) fun _ => .pure _))
          fun result => ?_
        split
        · exact .bind hypothesis fun _ => .pure _
        · exact .pure _

end Steadiness

/-- The watched run is not halted, and it lets no exception through: no block comes
to `FUNCTION` or `ROUTINE`, nothing but definitions is skipped in front of a closing
brace before the first error, and no conversion of a number throws. -/
def TokenStream.Unhindered (stream : TokenStream) (rounds : Nat) : Prop :=
  match stream.run rounding watcher rounds with
  | .halted _ _ | .escaped _ _ => False
  | _ => True

/-- A run that is not hindered returns, with an error unless the stream is a program.
A run that comes to `FUNCTION` or `ROUTINE` in a block never ends, and an exception of
a conversion leaves `parse_program`. -/
theorem TokenStream.run_answers (stream : TokenStream) (rounds : Nat)
    (enough : stream.enough ≤ rounds) :
    (stream.Unhindered rounding rounds -> stream.Answered rounding rounds) ∧
      ((exists state, stream.run rounding watcher rounds = .halted .blockDeclaration state) ->
        stream.run rounding Observer.none rounds = .exhausted) ∧
      ((exists exception state,
          stream.run rounding watcher rounds = .escaped exception state) ->
        exists exception state,
          stream.run rounding Observer.none rounds = .escaped exception state) := by
  have reads := stream.run_reads rounding enough
  have steady : Steady (reader rounding watcher rounds) :=
    .bind (programLoop_steady _ rounds rounds) fun _ => .pure _
  unfold TokenStream.Unhindered TokenStream.Answered
  simp only [stream.run_eq]
  unfold Runs at reads
  cases outcome : reader rounding watcher rounds
      (ParserState.initial stream.tokens stream.ending).advance with
  | done program final =>
      rw [outcome] at reads
      refine ⟨fun _ => ⟨program, final, reads.1, fun malformed none => ?_⟩, ?_, ?_⟩
      · exact malformed (reads.2 none)
      · rintro ⟨state, halted⟩
        cases halted
      · rintro ⟨exception, state, escaped⟩
        cases escaped
  | thrown final => exact absurd outcome (steady _ final)
  | escaped exception final =>
      rw [outcome] at reads
      refine ⟨fun unhindered => unhindered.elim, ?_, fun _ => ⟨exception, final, reads⟩⟩
      rintro ⟨state, halted⟩
      cases halted
  | halted place final =>
      rw [outcome] at reads
      refine ⟨fun unhindered => unhindered.elim, ?_, ?_⟩
      · rintro ⟨state, halted⟩
        cases halted
        exact reads rfl
      · rintro ⟨exception, state, escaped⟩
        cases escaped
  | exhausted =>
      rw [outcome] at reads
      exact reads.elim

section Examples

/-- `LET f() BE $( FUNCTION`. -/
def endlessBlock : TokenStream where
  tokens := [⟨.letKeyword, [], 1, 1⟩, ⟨.identifier, ['f'], 1, 5⟩, ⟨.leftParen, [], 1, 6⟩,
    ⟨.rightParen, [], 1, 7⟩, ⟨.beKeyword, [], 1, 9⟩, ⟨.leftBrace, [], 1, 12⟩,
    ⟨.functionKeyword, [], 1, 15⟩]
  ending := Token.blank
  inside := by simp
  ends := rfl

theorem endlessBlock_run (rounds : Nat) :
    endlessBlock.run noDoubles Observer.none (rounds + 17) = .exhausted := by
  have halted : exists state, endlessBlock.run noDoubles watcher (rounds + 17) =
      .halted .blockDeclaration state := ⟨_, rfl⟩
  have enough : endlessBlock.enough ≤ rounds + 17 := by
    simp [TokenStream.enough, endlessBlock]
  rcases halted with ⟨state, halted⟩
  have reads := endlessBlock.run_reads noDoubles enough
  rw [endlessBlock.run_eq] at halted ⊢
  unfold Runs at reads
  rw [halted] at reads
  exact reads rfl

/-- The parser never returns from it: no number of rounds is enough. -/
theorem endlessBlock_exhausted :
    ¬ exists rounds, endlessBlock.run noDoubles Observer.none rounds ≠ .exhausted := by
  rintro ⟨rounds, returns⟩
  apply returns
  rcases Nat.lt_or_ge rounds 17 with few | many
  · interval_cases rounds <;> rfl
  · rcases Nat.exists_eq_add_of_le' many with ⟨more, rfl⟩
    exact endlessBlock_run more

/-- `LET f() BE FINISH`. -/
def shortProgram : TokenStream where
  tokens := [⟨.letKeyword, [], 1, 1⟩, ⟨.identifier, ['f'], 1, 5⟩, ⟨.leftParen, [], 1, 6⟩,
    ⟨.rightParen, [], 1, 7⟩, ⟨.beKeyword, [], 1, 9⟩, ⟨.finishKeyword, [], 1, 12⟩]
  ending := Token.blank
  inside := by simp
  ends := rfl

theorem shortProgram_answered : shortProgram.Answered noDoubles 15 :=
  (shortProgram.run_answers noDoubles 15 (le_refl _)).1 trivial

end Examples

end Streams

end Parsing
end NewBcpl
