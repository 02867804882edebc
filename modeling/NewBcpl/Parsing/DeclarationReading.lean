import NewBcpl.Parsing.StatementReading

namespace NewBcpl
namespace Parsing

open Grammars Parse

/-!
# What the parser of declarations reads

The declarations under an observer that halts a run at two kinds of places: where a
block comes to `FUNCTION` or `ROUTINE`, and where tokens that are no definitions are
about to be skipped without an error.
-/

section Watching

/-- `FUNCTION` or `ROUTINE` comes next. -/
def atRoutine (state : ParserState) : Bool :=
  state.current.type == .functionKeyword || state.current.type == .routineKeyword

/-- Tokens in front of a closing brace that are neither definitions nor lexical
errors, and that no error has been reported before. -/
def Junk (state : ParserState) : Prop :=
  state.errors = [] ∧ exists skipped after, state.unread = skipped ++ .rightBrace :: after ∧
    .rightBrace ∉ skipped ∧ .error ∉ skipped ∧ skipped ∉ words (part .moreDefinitions)

open Classical in
/-- The observer of the two kinds of places. -/
noncomputable def watcher : Observer := ⟨atRoutine, fun state => decide (Junk state)⟩

theorem atRoutine_iff (state : ParserState) :
    atRoutine state = true <-> startsRoutine state.current.type := by
  unfold atRoutine startsRoutine
  rw [Bool.or_eq_true, beq_iff_eq, beq_iff_eq]

end Watching

section Skipping

variable {total : Nat} {state : ParserState}

/-- The loop that skips stops at the first closing brace or at the end. -/
theorem skipToBrace_stops (fed : Fed total state) {rounds : Nat}
    (enough : state.unread.length < rounds) :
    exists final, skipToBrace rounds state = .done () final ∧ Fed total final ∧
      final.unread.length ≤ state.unread.length ∧
      (final.check .rightBrace = true ∨ final.isAtEnd = true) ∧
      (final.errors = [] -> state.errors = [] ∧ exists skipped,
        state.unread = skipped ++ final.unread ∧
          .rightBrace ∉ skipped ∧ .error ∉ skipped) := by
  induction rounds generalizing state with
  | zero => omega
  | succ rounds hypothesis =>
      cases stops : state.check .rightBrace || state.isAtEnd with
      | true =>
          refine ⟨state, ?_, fed, le_refl _, by simpa using stops, fun clean =>
            ⟨clean, [], rfl, List.not_mem_nil, List.not_mem_nil⟩⟩
          refine (bind_done (show look state = .done state state from rfl)).trans ?_
          simp only [stops, if_true]
          rfl
      | false =>
          rcases Bool.or_eq_false_iff.mp stops with ⟨noBrace, goesOn⟩
          have reads := Covers.advance fed goesOn
          have less := reads.gains
          rcases hypothesis reads.fed (by omega) with
            ⟨final, skips, finalFed, shorter, ended, clean⟩
          refine ⟨final, ?_, finalFed, by omega, ended, fun none => ?_⟩
          · refine (bind_done (show look state = .done state state from rfl)).trans ?_
            simp only [stops]
            exact skips
          · rcases clean none with ⟨cleanNext, skipped, same, noBraces, noErrors⟩
            rcases reads.reads cleanNext with ⟨word, member, here⟩
            have single : word = [state.current.type] := member
            have notBrace : state.current.type ≠ .rightBrace := by
              intro brace
              unfold ParserState.check at noBrace
              simp [goesOn, brace] at noBrace
            refine ⟨reads.clean cleanNext, state.current.type :: skipped, ?_, ?_, ?_⟩
            · rw [here, single, same]
              rfl
            · simpa using ⟨notBrace.symm, noBraces⟩
            · simpa using ⟨fed.readable.symm, noErrors⟩

/-- What an unhalted run skips are definitions. -/
theorem skipToBrace_reads (fed : Fed total state) {rounds : Nat}
    (enough : state.unread.length < rounds) :
    Runs total (observed .skipToBrace watcher.atSkip (skipToBrace rounds))
      (observed .skipToBrace Observer.none.atSkip (skipToBrace rounds)) state
      fun _ final => Skipped total state final := by
  rcases skipToBrace_stops fed enough with ⟨final, skips, finalFed, shorter, ended, clean⟩
  have same : observed .skipToBrace Observer.none.atSkip (skipToBrace rounds) state =
      .done () final := skips
  by_cases junk : Junk state
  · have halts : observed .skipToBrace watcher.atSkip (skipToBrace rounds) state =
        .halted .skipToBrace state := if_pos (by simpa [watcher] using junk)
    unfold Runs
    rw [halts]
    intro other
    cases other
  · have goesOn : observed .skipToBrace watcher.atSkip (skipToBrace rounds) state =
        .done () final := (if_neg (by simpa [watcher] using junk)).trans skips
    unfold Runs
    rw [goesOn]
    refine ⟨same, finalFed, shorter, fun none => (clean none).1, fun none brace => ?_⟩
    rcases clean none with ⟨cleanStart, skipped, before, noBraces, noErrors⟩
    refine ⟨skipped, ?_, before⟩
    rcases check_eq_true brace with ⟨inside, isBrace⟩
    by_contra other
    apply junk
    refine ⟨cleanStart, skipped, final.rest.map Token.type, ?_, noBraces, noErrors, other⟩
    rw [before, unread_of_not_isAtEnd inside, isBrace]

theorem Skipped.closes {final : ParserState} (skipped : Skipped total state final)
    (message : String) :
    Runs total (consume .rightBrace message) (consume .rightBrace message) final
      fun _ last => Covers total state
        (words (part .moreDefinitions) * words (token .rightBrace)) 1 last := by
  unfold Runs consume
  cases brace : final.check .rightBrace with
  | false => exact ⟨rfl, skipped.fed.error _, error_errors _⟩
  | true =>
      rcases check_eq_true brace with ⟨goesOn, isBrace⟩
      have reads := Covers.advance skipped.fed goesOn
      rw [isBrace] at reads
      refine ⟨rfl, reads.fed, ?_, fun clean => skipped.clean (reads.clean clean), fun clean => ?_⟩
      · have less := reads.gains
        have shorter := skipped.shorter
        omega
      · rcases skipped.reads (reads.clean clean) brace with ⟨word, member, before⟩
        rcases reads.reads clean with ⟨last, isLast, here⟩
        refine ⟨word ++ last, Language.append_mem_mul member isLast, ?_⟩
        rw [before, here, List.append_assoc]

end Skipping

section Declarations

variable {total size : Nat} {watched plain : Callees} {state : ParserState}

theorem convertCurrent_reads (conversion : List Char -> Except Escape Int) :
    Runs total (convertCurrent conversion) (convertCurrent conversion) state
      fun _ final => final = state := by
  refine Runs.look ?_
  cases conversion state.current.value with
  | ok value => exact .pure rfl
  | error exception => exact .escape exception

theorem parseManifestDeclaration_reads (trusted : Trusted total size watched plain)
    (fed : Fed total state) (short : state.unread.length ≤ size) :
    Runs total (parseManifestDeclaration watched) (parseManifestDeclaration plain) state
      fun _ final => Covers total state (words (part .definitionBlock)) 1 final := by
  refine Runs.bind (.consume fed .manifestKeyword _) fun _ opened opens => ?_
  refine Runs.bind (.consume opens.fed .leftBrace _) fun _ inside brace => ?_
  refine Runs.bind (.parseName brace.fed _) fun _ named name => ?_
  refine Runs.bind (.consume name.fed .equal _) fun _ marked equals => ?_
  refine Runs.bind (convertCurrent_reads stoll) fun _ still same => ?_
  rw [same]
  refine Runs.bind (.consume equals.fed .numberLiteral _) fun _ valued number => ?_
  have head := opens.trans (brace.trans (name.trans (equals.trans number)))
  have less := head.gains
  refine Runs.bind (trusted.skip valued number.fed (by omega)) fun _ middle skipped => ?_
  refine Runs.bind (skipped.closes _) fun _ final closes => ?_
  have literal : Covers total marked (words (part .expression)) 1 valued :=
    .atom (by simp [atoms]) number
  exact .pure (.produces (show [token .manifestKeyword, token .leftBrace, token .identifier,
    token .equal, part .expression, part .moreDefinitions, token .rightBrace] ∈
      productions .definitionBlock by simp [productions])
    (opens.trans (brace.trans (name.trans (equals.trans (literal.trans closes))))) (by omega))

theorem parseStaticDeclaration_reads (trusted : Trusted total size watched plain)
    (fed : Fed total state) (short : state.unread.length ≤ size) :
    Runs total (parseStaticDeclaration watched) (parseStaticDeclaration plain) state
      fun _ final => Covers total state (words (part .definitionBlock)) 1 final := by
  refine Runs.bind (.consume fed .staticKeyword _) fun _ opened opens => ?_
  refine Runs.bind (.consume opens.fed .leftBrace _) fun _ inside brace => ?_
  refine Runs.bind (.parseName brace.fed _) fun _ named name => ?_
  refine Runs.bind (.consume name.fed .equal _) fun _ marked equals => ?_
  have head := opens.trans (brace.trans (name.trans equals))
  have less := head.gains
  refine Runs.bind (trusted.anExpression 0 equals.fed (by omega)) fun _ valued value => ?_
  have shorter := value.shorter
  refine Runs.bind (trusted.skip valued value.fed (by omega)) fun _ middle skipped => ?_
  refine Runs.bind (skipped.closes _) fun _ final closes => ?_
  exact .pure (.produces (show [token .staticKeyword, token .leftBrace, token .identifier,
    token .equal, part .expression, part .moreDefinitions, token .rightBrace] ∈
      productions .definitionBlock by simp [productions])
    (opens.trans (brace.trans (name.trans (equals.trans (value.trans closes))))) (by omega))

/-- Globals with semicolons or commas between them. -/
theorem globals_le (count : Nat) :
    words (token .identifier) * (words (token .colon) * words (token .numberLiteral)) *
      ((words (token .semicolon) + words (token .comma)) * (words (token .identifier) *
        (words (token .colon) * words (token .numberLiteral)))) ^ count ≤
      words (part .globals) := by
  have single : [token .identifier, token .colon, token .numberLiteral] ∈
      productions .globals := by simp [productions]
  have semicolon : [token .identifier, token .colon, token .numberLiteral, token .semicolon,
      part .globals] ∈ productions .globals := by simp [productions]
  have comma : [token .identifier, token .colon, token .numberLiteral, token .comma,
      part .globals] ∈ productions .globals := by simp [productions]
  refine separated_le (production_le single) ?_ count
  rw [add_mul, mul_add]
  have head := row_append programGrammar
    [token .identifier, token .colon, token .numberLiteral]
  refine add_le (le_trans (le_of_eq ?_) (production_le semicolon))
    (le_trans (le_of_eq ?_) (production_le comma))
  · exact (head [token .semicolon, part .globals]).symm
  · exact (head [token .comma, part .globals]).symm

theorem parseGlobalDeclaration_reads (fed : Fed total state) {rounds : Nat}
    (enough : state.unread.length ≤ rounds) :
    Runs total (parseGlobalDeclaration rounds) (parseGlobalDeclaration rounds) state
      fun _ final => Covers total state (words (part .definitionBlock)) 1 final := by
  refine Runs.bind (.consume fed .globalKeyword _) fun _ opened opens => ?_
  refine Runs.bind (.consume opens.fed .leftBrace _) fun _ inside brace => ?_
  have less := opens.gains
  have lessStill := brace.gains
  have separates : forall state, Fed total state ->
      Runs total matchSeparator matchSeparator state fun more final =>
        (more = true ∧ Covers total state
          (words (token .semicolon) + words (token .comma)) 1 final) ∨
        (more = false ∧ final = state) := by
    intro state fed
    refine Runs.matched fed (fun middle semicolon => ?_) fun _ => ?_
    · exact .pure (Or.inl ⟨rfl, semicolon.mono le_self_add (le_refl _)⟩)
    · refine (Runs.separator fed .comma).weaken fun more final outcome => ?_
      exact outcome.imp_left fun comma => ⟨comma.1, comma.2.mono le_add_self (le_refl _)⟩
  have items : forall state, Fed total state -> state.unread.length < total + 1 ->
      Runs total parseGlobal parseGlobal state fun _ final => Covers total state
        (words (token .identifier) * (words (token .colon) * words (token .numberLiteral))) 0
        final := by
    intro state fed _
    refine Runs.bind (.parseName fed _) fun _ named name => ?_
    refine Runs.bind (.consume name.fed .colon _) fun _ marked colon => ?_
    refine Runs.bind (convertCurrent_reads stoi) fun _ still same => ?_
    rw [same]
    refine Runs.bind (.consume colon.fed .numberLiteral _) fun _ final number => ?_
    exact .pure ((name.trans (colon.trans number)).mono (le_refl _) (by omega))
  have loop := Runs.repeated separates items brace.fed
    (Nat.lt_succ_of_le brace.fed.short) (show inside.unread.length < rounds by omega)
  refine Runs.bind loop fun globals middle loops => ?_
  rcases loops with ⟨count, _, read⟩
  refine Runs.bind (.consume read.fed .rightBrace _) fun _ final closes => ?_
  have list : Covers total inside (words (part .globals)) 0 middle :=
    read.mono (globals_le count) (le_refl _)
  exact .pure (.produces (show [token .globalKeyword, token .leftBrace, part .globals,
    token .rightBrace] ∈ productions .definitionBlock by simp [productions])
    (opens.trans (brace.trans (list.trans closes))) (by omega))

/-- `parse_declaration` in front of a block of definitions. -/
theorem parseDeclaration_reads (trusted : Trusted total size watched plain) {rounds : Nat}
    (fed : Fed total state) (short : state.unread.length ≤ size) (enough : size ≤ rounds)
    (starts : startsDefinitions state.current.type) :
    Runs total (parseDeclaration watched rounds) (parseDeclaration plain rounds) state
      fun _ final => Covers total state (words (part .definitionBlock)) 1 final := by
  have noLabel : (state.check .identifier && state.peekType == .colon) = false := by
    unfold ParserState.check ParserState.isAtEnd
    rcases starts with same | same | same <;> rw [same] <;> rfl
  refine Runs.look ?_
  rw [noLabel]
  rcases starts with same | same | same
  · rw [same]
    exact parseManifestDeclaration_reads trusted fed short
  · rw [same]
    exact parseStaticDeclaration_reads trusted fed short
  · rw [same]
    exact parseGlobalDeclaration_reads fed (short.trans enough)

/-- `parse_declaration` in front of `FUNCTION` or `ROUTINE` reads nothing. -/
theorem parseDeclaration_stuck (callees : Callees) (rounds : Nat)
    (stuck : startsRoutine state.current.type) :
    parseDeclaration callees rounds state =
      .done none (state.error "Unknown or unexpected declaration type.") := by
  have noLabel : (state.check .identifier && state.peekType == .colon) = false := by
    unfold ParserState.check ParserState.isAtEnd
    rcases stuck with same | same <;> rw [same] <;> rfl
  refine (bind_done (show look state = .done state state from rfl)).trans ?_
  simp only [noLabel]
  rcases stuck with same | same <;> rw [same] <;> rfl

theorem parseFunctionOrRoutineBody_reads (trusted : Trusted total size watched plain)
    (fed : Fed total state) (short : state.unread.length ≤ size) (name : List Char)
    (params : List (List Char)) :
    Runs total (parseFunctionOrRoutineBody watched name params)
      (parseFunctionOrRoutineBody plain name params) state
      fun _ final => Covers total state (words (part .body)) 0 final := by
  refine Runs.matched fed (fun middle equals => ?_) fun _ => ?_
  · have less := equals.gains
    refine Runs.bind (trusted.anExpression 0 equals.fed (by omega)) fun _ final body => ?_
    exact .pure (.produces (show [token .equal, part .expression] ∈ productions .body by
      simp [productions]) (equals.trans body) (by omega))
  refine Runs.matched fed (fun middle be => ?_) fun _ => ?_
  · have less := be.gains
    refine Runs.bind (trusted.statement middle be.fed (by omega)) fun _ final body => ?_
    exact .pure (.produces (show [token .beKeyword, part .statement] ∈ productions .body by
      simp [productions]) (be.trans body) (by omega))
  · exact Runs.error (.pure ((Covers.refl fed).error _ (le_refl _)))

/-- Names with commas between them are a list of names. -/
theorem names_le (count : Nat) :
    words (token .identifier) * (words (token .comma) * words (token .identifier)) ^ count ≤
      words (part .names) := by
  have single : [token .identifier] ∈ productions .names := by simp [productions]
  have more : [token .identifier, token .comma, part .names] ∈ productions .names := by
    simp [productions]
  exact separated_le (production_le single) (production_le more) count

theorem parseParameters_reads (fed : Fed total state) {rounds : Nat}
    (enough : state.unread.length < rounds) :
    Runs total (parseParameters rounds) (parseParameters rounds) state fun _ final =>
      Covers total state (words (token .leftParen) *
        (words (part .parameters) * words (token .rightParen))) 0 final := by
  refine Runs.bind (.consume fed .leftParen _) fun _ opened opens => ?_
  have less := opens.gains
  have closing : forall (params : List (List Char)) {middle : ParserState},
      Covers total opened (words (part .parameters)) 0 middle ->
      Runs total
        (consume .rightParen "Expect ')' after function parameters." >>= fun _ => pure params)
        (consume .rightParen "Expect ')' after function parameters." >>= fun _ => pure params)
        middle fun _ final => Covers total state (words (token .leftParen) *
          (words (part .parameters) * words (token .rightParen))) 0 final := by
    intro params middle read
    refine Runs.bind (.consume read.fed .rightParen _) fun _ final closed => ?_
    exact .pure ((opens.trans (read.trans closed)).mono (le_refl _) (by omega))
  refine Runs.check ?_
  cases opened.check .rightParen with
  | true =>
      exact closing [] (.produces (show [] ∈ productions .parameters by simp [productions])
        (.refl opens.fed) (le_refl _))
  | false =>
      refine Runs.bind (parseNames_reads opens.fed (by omega) _) fun params middle loops => ?_
      rcases loops with ⟨count, _, read⟩
      have names : Covers total opened (words (part .names)) 0 middle :=
        read.mono (names_le count) (le_refl _)
      exact closing params (.produces (show [part .names] ∈ productions .parameters by
        simp [productions]) names (le_refl _))

theorem parseFurtherNames_reads (fed : Fed total state) {remaining : Nat}
    (enough : state.unread.length < remaining) :
    Runs total (parseFurtherNames remaining) (parseFurtherNames remaining) state
      fun names final => Covers total state
        ((words (token .comma) * words (token .identifier)) ^ names.length) 0 final := by
  induction remaining generalizing state with
  | zero => omega
  | succ remaining hypothesis =>
      refine Runs.matched fed (fun middle comma => ?_) fun _ => .pure ?_
      · refine Runs.bind (.parseName comma.fed _) fun name later named => ?_
        have less := comma.gains
        have lessStill := named.gains
        refine Runs.bind (hypothesis named.fed (by omega)) fun rest final others => ?_
        refine .pure ((comma.trans (named.trans others)).mono (le_of_eq ?_) (by omega))
        rw [List.length_cons, pow_succ', mul_assoc]
      · rw [List.length_nil, pow_zero]
        exact .refl fed

/-- The bindings of a global variable declaration, after the first name. -/
theorem parseGlobalVariables_reads (trusted : Trusted total size watched plain)
    {rounds : Nat} {start : ParserState} (short : start.unread.length ≤ size)
    (enough : size ≤ rounds) (isFloat : Bool) (name : List Char)
    (before : Covers total start (words (token .identifier)) 1 state) :
    Runs total (parseGlobalVariables watched rounds isFloat name)
      (parseGlobalVariables plain rounds isFloat name) state
      fun _ final => Covers total start (words (part .bindings)) 0 final := by
  have less := before.gains
  refine Runs.bind (parseFurtherNames_reads before.fed (by omega)) fun others middle names => ?_
  refine Runs.bind (.consume names.fed .equal _) fun _ later equals => ?_
  have lessStill := names.gains
  have lessYet := equals.gains
  refine Runs.bind (trusted.expressions equals.fed (by omega) enough)
    fun initializers final loops => ?_
  rcases loops with ⟨count, length, values⟩
  have whole := (before.trans names).trans (equals.trans values)
  by_cases same : (name :: others).length ≠ initializers.length
  · rw [if_pos same]
    exact Runs.error (.pure (whole.error _ (by omega)))
  · rw [if_neg same]
    have counted : others.length = count := by
      rw [List.length_cons, length] at same
      omega
    rw [counted] at whole
    exact .pure (whole.mono (bindings_le count) (by omega))

/-- A `LET` or `FLET` outside of all blocks. -/
theorem parseToplevelLetDeclaration_reads (trusted : Trusted total size watched plain)
    {rounds : Nat} (fed : Fed total state) (short : state.unread.length ≤ size)
    (enough : size ≤ rounds)
    (isLet : state.current.type = .letKeyword ∨ state.current.type = .fletKeyword) :
    Runs total (parseToplevelLetDeclaration watched rounds)
      (parseToplevelLetDeclaration plain rounds) state
      fun _ final => Covers total state (words (part .topDeclaration)) 1 final := by
  have notEnd : state.current.type ≠ .eof := by
    rcases isLet with same | same <;> rw [same] <;> exact TokenType.noConfusion
  refine Runs.check ?_
  refine Runs.bind (.advance fed rfl notEnd) fun _ opened opens => ?_
  have less := opens.gains
  refine Runs.bind (.parseName opens.fed _) fun name named identifier => ?_
  have lessStill := identifier.gains
  refine Runs.check ?_
  cases named.check .leftParen with
  | true =>
      refine Runs.bind (parseParameters_reads identifier.fed (by omega))
        fun params middle parameters => ?_
      have lessYet := parameters.gains
      refine (parseFunctionOrRoutineBody_reads trusted parameters.fed (by omega) name
        params).weaken fun _ final body => ?_
      have rule : [token state.current.type, token .identifier, token .leftParen,
          part .parameters, token .rightParen, part .body] ∈ productions .topDeclaration := by
        rcases isLet with same | same <;> simp [same, productions]
      exact .produces rule ((opens.trans (identifier.trans (parameters.trans body))).equal
        (by simp only [mul_assoc]; rfl)) (by omega)
  | false =>
      refine (parseGlobalVariables_reads trusted (by omega) enough _ name identifier).weaken
        fun _ final bindings => ?_
      have rule : [token state.current.type, part .bindings] ∈
          productions .topDeclaration := by
        rcases isLet with same | same <;> simp [same, productions]
      exact .produces rule (opens.trans bindings) (le_refl _)

end Declarations

end Parsing
end NewBcpl
