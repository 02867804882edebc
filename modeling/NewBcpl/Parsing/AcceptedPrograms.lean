import NewBcpl.Parsing.EnsuredStatements
import NewBcpl.Parsing.ProgramRuns

namespace NewBcpl
namespace Parsing

open Parse
open TokenType (noConfusion)

/-!
# Exactly the programs that are accepted

What a run over declarations has read, and from it, with what the parser does on spelled
phrases, the language of the parser: a list of tokens is accepted without an error exactly
when it spells a program, and the tree is the one that it spells.
-/

section Declarations

variable {rounding : Rounding} {callees : Callees} {rounds : Nat} {state : ParserState}

/-- Names with numbers whose conversions do not throw. -/
theorem ensures_globals (rounding : Rounding) :
    Ensures (repeated matchSeparator parseGlobal rounds) state
      fun globals tokens following => Spells rounding (.globals globals) tokens following := by
  have global : forall {middle}, Ensures parseGlobal middle fun entry tokens _ =>
      exists name colon number offset, entry = (name.value, offset) ∧
        tokens = [name, colon, number] ∧ name.type = .identifier ∧ colon.type = .colon ∧
          number.type = .numberLiteral ∧ stoi number.value = .ok offset := by
    intro middle
    refine .named fun colon => .expect noConfusion fun number =>
      .converted fun offset converts => ?_
    exact .expect noConfusion fun final =>
      .pure ⟨_, _, _, offset, rfl, rfl, rfl, rfl, rfl, converts⟩
  induction rounds generalizing state with
  | zero => exact .outOfRounds
  | succ rounds hypothesis =>
      refine .bind global fun entry separator => .separated (fun separates middle => ?_)
        fun notSemicolon notComma => .pure ?_
      · refine .yields hypothesis ?_
        rintro globals others following spelled _
          ⟨name, colon, number, offset, rfl, rfl, isName, isColon, isNumber, converts⟩
        exact .moreGlobals isName isColon isNumber converts separates spelled
      · rintro _ ⟨name, colon, number, offset, rfl, rfl, isName, isColon, isNumber, converts⟩
        exact .lastGlobal isName isColon isNumber converts notSemicolon notComma

theorem ensures_globalBlock :
    EnsuresTree rounding .definition (parseGlobalDeclaration rounds) state := by
  refine .expect noConfusion fun opening => .expect noConfusion fun inside => ?_
  refine .bind (ensures_globals rounding) fun globals closing => .expect noConfusion fun _ => ?_
  exact .pure fun tokens spelled => ⟨_, rfl, .globalBlock rfl rfl spelled rfl⟩

theorem ensures_skip {remaining : Nat} :
    Ensures (skipToBrace remaining) state fun _ tokens _ => IsSkipped tokens := by
  induction remaining generalizing state with
  | zero => exact .outOfRounds
  | succ remaining hypothesis =>
      refine .readable fun readable => .look ?_
      cases closed : state.check .rightBrace || state.isAtEnd with
      | true => exact .pure fun token member => absurd member List.not_mem_nil
      | false =>
          rcases goesOn_of_notClosed closed with ⟨notBrace, notEnd⟩
          refine .advance notEnd fun middle => hypothesis.weaken ?_
          intro value skipped following isSkipped token member
          rcases List.mem_cons.mp member with rfl | inside
          · exact ⟨notBrace, notEnd, readable⟩
          · exact isSkipped token inside

theorem ensures_parameters (rounding : Rounding) :
    Ensures (parseParameters rounds) state fun names tokens _ =>
      exists opening front closing, tokens = opening :: (front ++ [closing]) ∧
        opening.type = .leftParen ∧ Spells rounding (.parameters names) front .rightParen ∧
          closing.type = .rightParen := by
  refine .expect noConfusion fun inside => .check noConfusion ?_
  cases inside.current.type == .rightParen with
  | true =>
      exact .expect noConfusion fun _ => .pure ⟨_, [], _, rfl, rfl, .noParameters, rfl⟩
  | false =>
      refine .bind (ensures_names rounding) fun names closing => .expect noConfusion fun _ => ?_
      exact .pure fun front spelled => ⟨_, front, _, rfl, rfl, .someParameters spelled, rfl⟩

theorem ensures_furtherNames {remaining : Nat} (rounding : Rounding) :
    Ensures (parseFurtherNames remaining) state fun names tokens following =>
      forall token : Token, token.type = .identifier ->
        Spells rounding (.names (token.value :: names)) (token :: tokens) following := by
  induction remaining generalizing state with
  | zero => exact .outOfRounds
  | succ remaining hypothesis =>
      refine .matched noConfusion (fun name => .named fun middle => .yields hypothesis ?_)
        fun ends => .pure fun token isToken => .lastName isToken ends
      intro names tokens following spells token isToken
      exact .moreNames isToken rfl (spells _ rfl)

theorem ensures_synchronize : Ensures (synchronize rounds) state fun _ _ _ => True := by
  have loop : forall remaining {state},
      Ensures (synchronizeLoop remaining) state fun _ _ _ => True := by
    intro remaining
    induction remaining with
    | zero => exact .outOfRounds
    | succ remaining hypothesis =>
        refine .look ?_
        split
        · exact .pure trivial
        · exact .bind .advanced fun _ middle => hypothesis.weaken fun _ _ _ _ _ _ => trivial
  exact .bind .advanced fun _ middle => (loop rounds).weaken fun _ _ _ _ _ _ => trivial

section Called

variable (honest : Honest rounding callees)

include honest

theorem ensures_manifestBlock :
    EnsuresTree rounding .definition (parseManifestDeclaration callees) state := by
  refine .expect noConfusion fun opening => .expect noConfusion fun name => .named fun equal => ?_
  refine .expect noConfusion fun number => .converted fun value converts => ?_
  refine .expect noConfusion fun skipped => .bind honest.skip fun _ closing => ?_
  exact .expect noConfusion fun final => .pure fun skipped isSkipped =>
    ⟨_, rfl, .manifestBlock rfl rfl rfl rfl rfl converts isSkipped rfl⟩

theorem ensures_staticBlock :
    EnsuresTree rounding .definition (parseStaticDeclaration callees) state := by
  refine .expect noConfusion fun opening => .expect noConfusion fun name => .named fun equal => ?_
  refine .expect noConfusion fun value => .bind (honest.expression 0) fun tree skipped => ?_
  refine .bind honest.skip fun _ closing => .expect noConfusion fun final => .pure ?_
  rintro skipped isSkipped tokens ⟨tree, rfl, spelled⟩
  rw [firstType_append] at spelled
  exact ⟨_, rfl, .staticBlock rfl rfl rfl rfl spelled isSkipped rfl⟩

/-- `parse_declaration` in front of anything but a label. -/
theorem ensures_definition (notName : state.current.type ≠ .identifier) :
    EnsuresTree rounding .definition (parseDeclaration callees rounds) state := by
  refine .look ?_
  rw [check_eq .identifier noConfusion, beq_false_of_ne notName, Bool.false_and,
    if_neg Bool.false_ne_true]
  split
  · exact ensures_manifestBlock honest
  · exact ensures_staticBlock honest
  · exact ensures_globalBlock
  · exact .failure

/-- The body of a function behind `=`, or of a routine behind `BE`. -/
theorem ensures_body {name : List Char} {parameters : List (List Char)} :
    Ensures (parseFunctionOrRoutineBody callees name parameters) state
      fun value tokens following => forall {token nameToken opening closing : Token} {front},
        isLet token.type -> nameToken.type = .identifier -> nameToken.value = name ->
          opening.type = .leftParen -> Spells rounding (.parameters parameters) front .rightParen ->
            closing.type = .rightParen -> exists tree, value = some tree ∧
              Spells rounding (.declaration tree)
                (token :: nameToken :: opening :: (front ++ closing :: tokens)) following := by
  refine .matched noConfusion (fun body => .yields (honest.expression 0) ?_) fun _ => ?_
  · rintro _ tokens following ⟨tree, rfl, spelled⟩ token nameToken opening closing front isWord
      isName rfl opens spelledNames closes
    exact ⟨_, rfl, .function isWord isName opens spelledNames closes rfl spelled⟩
  · refine .matched noConfusion (fun body => .yields honest.statement ?_) fun _ => .failure
    rintro _ tokens following ⟨tree, rfl, spelled⟩ token nameToken opening closing front isWord
      isName rfl opens spelledNames closes
    exact ⟨_, rfl, .routine isWord isName opens spelledNames closes rfl spelled⟩

theorem ensures_toplevelLet (isWord : isLet state.current.type) :
    EnsuresTree rounding .declaration (parseToplevelLetDeclaration callees rounds) state := by
  have notEnd : state.current.type ≠ .eof := by
    rcases isWord with isType | isType <;> exact isType.trans_ne noConfusion
  refine .check noConfusion (.advance notEnd fun name => .named fun behind => ?_)
  refine .check noConfusion ?_
  cases behind.current.type == .leftParen with
  | true =>
      refine .bind (ensures_parameters rounding) fun parameters body => ?_
      refine (ensures_body honest).weaken ?_
      rintro value tokens following spells _ ⟨opening, front, closing, rfl, opens, names, closes⟩
      rw [List.cons_append, List.append_assoc]
      exact spells isWord rfl rfl opens names closes
  | false =>
      refine .bind (ensures_furtherNames rounding) fun others equal =>
        .expect noConfusion fun _ => ?_
      refine .bind (ensures_expressions honest) fun initializers final => ?_
      by_cases count : ((name.current.as .identifier).value :: others).length ≠ initializers.length
      · rw [if_pos count]
        exact .error (.pure trivial)
      · rw [if_neg count]
        change Ensures (pure _) final _
        refine .pure ?_
        rintro second ⟨trees, rfl, spelledValues⟩ first spells
        rw [List.append_nil]
        exact ⟨_, rfl, .globalVariables isWord (spells _ rfl) rfl spelledValues
          (by simpa using not_not.mp count)⟩

theorem ensures_round :
    Ensures (programRound callees rounds) state fun result tokens following =>
      exists tree, result = ([some tree], true) ∧
        Spells rounding (.declaration tree) tokens following := by
  refine .tryCatch (.look ?_) fun middle => .yields ensures_synchronize fun _ _ _ _ => trivial
  cases binds : state.check .letKeyword || state.check .fletKeyword with
  | true =>
      refine .yields (ensures_toplevelLet honest (isLet_of_checks binds)) ?_
      rintro _ tokens following ⟨tree, rfl, spelled⟩
      exact ⟨tree, rfl, spelled⟩
  | false =>
  cases declares : isDeclarationStart state.current.type with
  | true =>
      refine .yields (ensures_definition honest (notName_of_declares declares)) ?_
      rintro _ tokens following ⟨tree, rfl, spelled⟩
      exact ⟨tree, rfl, .definition spelled⟩
  | false => exact .error (.yields ensures_synchronize fun _ _ _ _ => trivial)

theorem ensures_program {remaining : Nat} :
    Ensures (programLoop callees rounds remaining) state fun declarations tokens following =>
      exists trees, declarations = trees.map some ∧ following = .eof ∧
        Spells rounding (.declarations trees) tokens .eof := by
  induction remaining generalizing state with
  | zero => exact .outOfRounds
  | succ remaining hypothesis =>
      refine .look ?_
      by_cases isBroken : state.fatal = true
      · rw [isBroken, Bool.or_true, if_pos rfl]
        exact .broken isBroken
      rw [Bool.eq_false_of_not_eq_true isBroken, Bool.or_false]
      cases ended : state.isAtEnd with
      | true => exact .pure ⟨[], rfl, beq_iff_eq.mp ended, .noDeclarations⟩
      | false =>
          refine .bind (ensures_round honest) fun result middle => ?_
          rcases result with ⟨declarations, more⟩
          cases more with
          | false =>
              refine .pure ?_
              rintro _ ⟨tree, ⟨⟩, _⟩
          | true =>
              refine .yields hypothesis ?_
              rintro _ tokens _ ⟨trees, rfl, rfl, spelledOthers⟩ front ⟨tree, ⟨⟩, spelled⟩
              exact ⟨tree :: trees, rfl, rfl, .moreDeclarations spelled spelledOthers⟩

end Called

/-- The functions of every level of the recursion ensure what they are for. -/
theorem honest_callees (rounding : Rounding) (rounds : Nat) :
    Honest rounding (level rounding rounds) := by
  induction rounds with
  | zero => exact ⟨fun _ _ => .outOfRounds, .outOfRounds, fun _ => .outOfRounds, .outOfRounds⟩
  | succ rounds honest =>
      refine ⟨fun precedence state => ensures_expression honest,
        ensures_statement honest (ensures_primaryStatement honest), fun notName => ?_, ?_⟩
      · refine .of_eq (congrFun (observed_none .blockDeclaration _) _) ?_
        exact ensures_definition honest notName
      · rw [level_skipToBrace]
        exact ensures_skip

end Declarations

section Programs

variable {rounding : Rounding}

theorem ne_error {Value : Type} {reads : TokenType -> Option Value} {type : TokenType}
    {value : Value} (absent : reads .error = none) (found : reads type = some value) :
    type ≠ .error := by
  rintro rfl
  rw [absent] at found
  cases found

/-- No phrase has an error among its tokens. -/
theorem Spells.readable {rounding : Rounding} {phrase : Phrase} {tokens : List Token}
    {next : TokenType} (spelled : Spells rounding phrase tokens next) : Readable tokens := by
  have isWord : forall {type : TokenType}, isDoOrThen type -> type ≠ .error := by
    rintro type (rfl | rfl) <;> exact noConfusion
  have isBinding : forall {type : TokenType}, isLet type -> type ≠ .error := by
    rintro type (rfl | rfl) <;> exact noConfusion
  have skips : forall {skipped : List Token}, IsSkipped skipped -> Readable skipped :=
    fun skipped token member => (skipped token member).2.2
  induction spelled
  -- Most rules name the types of their tokens; the others choose by a table.
  all_goals try simp only [readable_cons, readable_append, readable_nil, and_true]
  all_goals try simp_all
  case atom read =>
    intro isError
    unfold atomTree at read
    rw [isError] at read
    cases read
  case prefixed found _ _ => exact ne_error rfl found
  case intrinsic found _ _ _ _ => exact ne_error rfl found
  case collection found _ _ _ _ => exact ne_error rfl found
  case allocation found _ _ _ => exact ne_error rfl found
  case valof found _ _ => exact ne_error rfl found
  case further above _ _ _ _ =>
    intro isError
    rw [isError] at above
    exact Nat.not_lt_zero _ above
  case repeatedWith found _ _ _ => exact ne_error rfl found
  case keyword found => exact ne_error rfl found
  case keywordExpression found _ _ => exact ne_error rfl found
  case branch found _ _ _ _ _ => exact ne_error rfl found
  case moreGlobals separates _ _ =>
    rcases separates with isSeparator | isSeparator <;>
      (rw [isSeparator]; exact noConfusion)

/-- A parser that has read its first token stands in front of the tokens. -/
theorem initial_facing (stream : TokenStream) (legible : Legible stream.tokens) :
    (ParserState.initial stream.tokens stream.ending).advance =
      (ParserState.initial stream.tokens stream.ending).facing Token.blank stream.tokens := by
  rcases stream with ⟨tokens, ending, inside, ends⟩
  rcases ending with ⟨type, value, line, column⟩
  have isEnd : type = .eof := ends
  subst isEnd
  cases tokens with
  | nil => rfl
  | cons token rest =>
      have readable : token.type ≠ .error := legible
      change ParserState.takeToken _ (token :: rest) = _
      unfold ParserState.takeToken
      rw [if_neg readable]
      rfl

/-- The program that a list of tokens spells is what the parser returns for it, without
an error. -/
theorem run_spelled (stream : TokenStream) {trees : List Declaration} {rounds : Nat}
    (spelled : Spells rounding (.declarations trees) stream.tokens .eof)
    (enough : 2 * stream.tokens.length < rounds) :
    exists final, stream.run rounding Observer.none rounds =
      .done { declarations := trees.map some } final ∧ final.errors = [] := by
  have legible : Legible stream.tokens := by
    unfold Legible
    rw [<- List.append_nil stream.tokens, nextType_append rfl]
    exact spelled.readable.first noConfusion
  have read := spelled.reads rounds rounds enough (by omega)
  rcases read (ParserState.initial stream.tokens stream.ending) Token.blank [] rfl rfl
    noConfusion spelled.readable with ⟨last, done⟩
  rw [List.append_nil, <- initial_facing stream legible] at done
  refine ⟨(ParserState.initial stream.tokens stream.ending).facing last [], ?_, rfl⟩
  rw [stream.run_eq]
  exact bind_done done

/-- What the parser returns without an error is spelled by the tokens. -/
theorem spelled_of_run (stream : TokenStream) {program : Program} {final : ParserState}
    {rounds : Nat}
    (returns : stream.run rounding Observer.none rounds = .done program final)
    (clean : final.errors = []) :
    exists trees, program.declarations = trees.map some ∧
      Spells rounding (.declarations trees) stream.tokens .eof := by
  have unmarked : (ParserState.initial stream.tokens stream.ending).fatal = true <->
      (ParserState.initial stream.tokens stream.ending).errors ≠ [] :=
    ⟨fun broken => Bool.noConfusion broken, fun errors => absurd rfl errors⟩
  rcases @takeToken_standing { ParserState.initial stream.tokens stream.ending with
      previous := Token.blank } stream.tokens stream.inside stream.ends unmarked with
    ⟨stands, first⟩
  rw [stream.run_eq] at returns
  have ensures : Ensures (reader rounding Observer.none rounds)
      (ParserState.initial stream.tokens stream.ending).advance fun program tokens following =>
        exists trees, program.declarations = trees.map some ∧ following = .eof ∧
          Spells rounding (.declarations trees) tokens .eof :=
    .yields (ensures_program (honest_callees rounding rounds)) fun _ _ _ read => read
  have ensured := ensures stands
  rw [returns] at ensured
  have unbroken : final.fatal = false := by
    cases broken : final.fatal with
    | false => rfl
    | true => exact absurd clean (ensured.1.marked.mp broken)
  rcases ensured.2 unbroken with ⟨tokens, read, trees, same, atEnd, spelled⟩
  have all : stream.tokens = tokens ++ final.ahead := (first read.clean).2.symm.trans read.read
  rw [ahead_of_atEnd (beq_iff_eq.mpr atEnd), List.append_nil] at all
  rw [all]
  exact ⟨trees, same, spelled⟩

/-- The language of the parser: it returns a program without an error exactly when the
tokens spell it, and nothing in the tree of an accepted program is missing. -/
theorem TokenStream.accepts_iff (rounding : Rounding) (stream : TokenStream)
    (program : Program) {rounds : Nat} (enough : 2 * stream.tokens.length < rounds) :
    (exists final, stream.run rounding Observer.none rounds = .done program final ∧
        final.errors = []) <->
      exists trees, program.declarations = trees.map some ∧
        Spells rounding (.declarations trees) stream.tokens .eof := by
  constructor
  · rintro ⟨final, returns, clean⟩
    exact spelled_of_run stream returns clean
  · rintro ⟨trees, same, spelled⟩
    rcases run_spelled stream spelled enough with ⟨final, returns, clean⟩
    refine ⟨final, ?_, clean⟩
    rcases program with ⟨declarations⟩
    rw [returns]
    exact congrArg (fun trees => Outcome.done (Program.mk trees) final) same.symm

/-- No stream of tokens spells two programs: the places where the grammar leaves a
choice, an `ELSE` behind two `TEST`s, a `REPEAT` behind a branch, an operator behind a
prefixed operand or the size of a vector, are all decided by the token that follows. -/
theorem TokenStream.spelling_unique (stream : TokenStream)
    {trees others : List Declaration}
    (spelled : Spells rounding (.declarations trees) stream.tokens .eof)
    (again : Spells rounding (.declarations others) stream.tokens .eof) : trees = others := by
  rcases run_spelled stream spelled (Nat.lt_succ_self _) with ⟨final, returns, _⟩
  rcases run_spelled stream again (Nat.lt_succ_self _) with ⟨last, returnsAgain, _⟩
  have same := returns.symm.trans returnsAgain
  rw [Outcome.done.injEq, Program.mk.injEq] at same
  exact List.map_injective_iff.mpr (Option.some_injective _) same.1

/-- `LET f() BE FINISH` spells a routine without parameters. -/
theorem shortProgram_spelled :
    Spells rounding (.declarations [.routineDeclaration ['f'] [] (some .finish)])
      shortProgram.tokens .eof := by
  have body : Spells rounding (.statement .finish) [⟨.finishKeyword, [], 1, 12⟩] .eof :=
    .statement (.keyword rfl) TokenType.noConfusion
  have routine := @Spells.routine rounding ⟨.letKeyword, [], 1, 1⟩ ⟨.identifier, ['f'], 1, 5⟩
    ⟨.leftParen, [], 1, 6⟩ ⟨.rightParen, [], 1, 7⟩ ⟨.beKeyword, [], 1, 9⟩ _ _ _ _ _
    (Or.inl rfl) rfl rfl .noParameters rfl rfl body
  exact @Spells.moreDeclarations rounding _ _ _ [] routine .noDeclarations

theorem shortProgram_accepts :
    2 * shortProgram.tokens.length < 13 ∧
      ((exists final, shortProgram.run noDoubles Observer.none 13 =
          .done { declarations := [some (.routineDeclaration ['f'] [] (some .finish))] } final ∧
            final.errors = []) <->
        exists trees, [some (.routineDeclaration ['f'] [] (some .finish))] = trees.map some ∧
          Spells noDoubles (.declarations trees) shortProgram.tokens .eof) :=
  ⟨by decide, TokenStream.accepts_iff noDoubles shortProgram _ (by decide)⟩

theorem shortProgram_unique : [Declaration.routineDeclaration ['f'] [] (some .finish)] =
    [.routineDeclaration ['f'] [] (some .finish)] :=
  shortProgram.spelling_unique (@shortProgram_spelled noDoubles) shortProgram_spelled

end Programs

end Parsing
end NewBcpl
