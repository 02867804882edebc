import NewBcpl.Parsing.EnsuredReading

namespace NewBcpl
namespace Parsing

open Parse
open TokenType (noConfusion)

/-!
# What a run over statements has read

A statement that is returned without an error is spelled by the tokens that have been
read for it, and so are the items of a block and the cases of a `SWITCHON`.
-/

section Statements

variable {rounding : Rounding} {callees : Callees} {rounds : Nat} {state : ParserState}

theorem ensures_names (rounding : Rounding) {message : String} :
    Ensures (repeated (matchToken .comma) (parseName message) rounds) state
      fun names tokens following => Spells rounding (.names names) tokens following := by
  induction rounds generalizing state with
  | zero => exact .outOfRounds
  | succ rounds hypothesis =>
      refine .named fun middle => .matched noConfusion (fun later => ?_) fun ends => ?_
      · exact .yields hypothesis fun names others following spelled =>
          .moreNames rfl rfl spelled
      · exact .pure (.lastName rfl ends)

theorem ensures_keyword {type : TokenType} {tree : Statement} {message : String}
    (notEnd : type ≠ .eof) (isKeyword : keywordTree type = some tree) :
    EnsuresTree rounding .simple (parseKeyword type message tree) state :=
  .expect notEnd fun _ => .pure ⟨_, rfl, .keyword isKeyword⟩

theorem ensures_doOrThen :
    Ensures matchDoOrThen state fun found tokens _ => found = true ->
      exists word, tokens = [word] ∧ isDoOrThen word.type := by
  refine .matched noConfusion (fun middle => .pure fun _ => ⟨_, rfl, Or.inl rfl⟩) fun _ => ?_
  have same : matchToken .thenKeyword state =
      (matchToken .thenKeyword >>= fun found => pure found) state := by
    change _ = andThen _ _ state
    unfold andThen
    cases matchToken .thenKeyword state <;> rfl
  refine .of_eq same (.matched noConfusion (fun middle => .pure fun _ => ⟨_, rfl, Or.inr rfl⟩) ?_)
  exact fun _ => .pure fun missed => Bool.noConfusion missed

/-- The test for the end of a block fails in front of another token. -/
theorem goesOn_of_notClosed
    (notClosed : (state.check .rightBrace || state.isAtEnd) = false) :
    state.current.type ≠ .rightBrace ∧ state.current.type ≠ .eof := by
  rcases Bool.or_eq_false_iff.mp notClosed with ⟨notBrace, notEnd⟩
  rw [check_eq .rightBrace noConfusion] at notBrace
  exact ⟨ne_of_beq_false notBrace, ne_of_beq_false notEnd⟩

theorem isLet_of_checks
    (binds : (state.check .letKeyword || state.check .fletKeyword) = true) :
    isLet state.current.type := by
  rw [check_eq .letKeyword noConfusion, check_eq .fletKeyword noConfusion] at binds
  exact (Bool.or_eq_true_iff.mp binds).imp beq_iff_eq.mp beq_iff_eq.mp

theorem notName_of_declares (declares : isDeclarationStart state.current.type = true) :
    state.current.type ≠ .identifier := by
  intro isName
  rw [isName] at declares
  cases declares

variable (honest : Honest rounding callees)

include honest

/-- What may stand behind a statement. -/
theorem ensures_repeatSuffix {statement : Option Statement} :
    Ensures (parseRepeatSuffix callees statement) state fun value others following =>
      forall tree tokens, statement = some tree ->
        Spells rounding (.simple tree) tokens (firstType others following) ->
          exists result, value = some result ∧
            Spells rounding (.statement result) (tokens ++ others) following := by
  have loop : forall {type loopType} {middle : ParserState}, suffixLoop type = some loopType ->
      Ensures (callees.expression 0 >>= fun condition =>
          pure (some (.repeatStatement loopType statement condition))) middle
        fun value others following => forall (token word : Token) tree tokens,
          word.type = type -> token.type = .repeatKeyword -> statement = some tree ->
            Spells rounding (.simple tree) tokens .repeatKeyword ->
              exists result, value = some result ∧ Spells rounding (.statement result)
                (tokens ++ token :: word :: others) following := by
    intro type loopType middle isLoop
    refine .yields (honest.expression 0) ?_
    rintro _ others following ⟨condition, rfl, spelled⟩ token word tree tokens rfl isRepeat rfl
      simple
    exact ⟨_, rfl, .repeatedWith simple isRepeat isLoop spelled⟩
  refine .matched noConfusion (fun middle => ?_) fun ends => .pure ?_
  · refine .matched noConfusion (fun later => ?_) fun notWhile => ?_
    · exact (@loop .whileKeyword _ _ rfl).weaken fun _ _ _ spells _ _ same simple =>
        spells _ _ _ _ rfl rfl same simple
    · refine .matched noConfusion (fun later => ?_) fun notUntil => .pure ?_
      · exact (@loop .untilKeyword _ _ rfl).weaken fun _ _ _ spells _ _ same simple =>
          spells _ _ _ _ rfl rfl same simple
      · rintro tree tokens rfl simple
        refine ⟨_, rfl, .repeated simple rfl ?_⟩
        unfold suffixLoop
        split <;> rename_i isType
        · exact absurd isType notWhile
        · exact absurd isType notUntil
        · rfl
  · rintro tree tokens rfl simple
    rw [List.append_nil]
    exact ⟨tree, rfl, .statement simple ends⟩

/-- A statement, when a primary statement is what it is for. -/
theorem ensures_statement
    (primary : EnsuresTree rounding .simple (parsePrimaryStatement callees rounds) state) :
    EnsuresTree rounding .statement (parseStatement callees rounds) state := by
  refine .look ?_
  by_cases isBroken : state.fatal = true
  · rw [if_pos isBroken]
    exact .broken isBroken
  rw [if_neg isBroken]
  refine .bind primary fun value middle => .look ?_
  by_cases broken : middle.fatal = true
  · rw [if_pos broken]
    exact .broken broken
  rw [if_neg broken]
  refine (ensures_repeatSuffix honest).weaken ?_
  rintro result others following spells tokens ⟨tree, same, spelled⟩
  exact spells tree tokens same spelled

theorem ensures_keywordExpression {type : TokenType} {build : Expression -> Statement}
    {make : Option Expression -> Statement} {message : String}
    (notEnd : type ≠ .eof)
    (isKeyword : keywordExpressionTree type = some build)
    (same : forall tree, make (some tree) = build tree) :
    EnsuresTree rounding .simple (parseKeywordExpression callees type message make) state := by
  refine .expect notEnd fun middle => .yields (honest.expression 0) ?_
  rintro _ tokens following ⟨tree, rfl, spelled⟩
  exact ⟨build tree, by rw [same], .keywordExpression isKeyword spelled⟩

theorem ensures_free (isType : state.current.type = .freevecKeyword) :
    EnsuresTree rounding .simple (parseFreeStatement callees) state := by
  refine .matched noConfusion (fun middle => .bind (honest.expression 0) fun value final => ?_)
    fun other => absurd isType other
  cases value with
  | none => exact .failure
  | some tree =>
      refine .pure ?_
      rintro tokens ⟨_, ⟨⟩, spelled⟩
      rw [List.append_nil]
      exact ⟨_, rfl, .keywordExpression rfl spelled⟩

/-- The head of `IF`, `UNLESS` and `TEST`. -/
theorem ensures_condition {type : TokenType} {message missing : String}
    (notEnd : type ≠ .eof) :
    Ensures (parseCondition callees type message missing) state fun head tokens _ =>
      exists condition first word, head = (some condition, true) ∧
        tokens = state.current.as type :: (first ++ [word]) ∧
          Spells rounding (.expression 0 condition) first word.type ∧
            isDoOrThen word.type := by
  refine .expect notEnd fun middle => .bind (honest.expression 0) fun value word => ?_
  refine .bind ensures_doOrThen fun found final => ?_
  cases found with
  | false => exact .failure
  | true =>
      refine .pure ?_
      rintro _ isWord first ⟨condition, rfl, spelled⟩
      rcases isWord rfl with ⟨word, rfl, found⟩
      exact ⟨condition, first, word, rfl, rfl, spelled, found⟩

theorem ensures_branch {type : TokenType} {message missing : String}
    {build : Option Expression -> Option Statement -> Statement}
    (notEnd : type ≠ .eof)
    (isBranch : branchTree type = some build) :
    EnsuresTree rounding .simple
      (parseCondition callees type message missing >>= fun head =>
        if head.2 then callees.statement >>= fun thenBranch =>
          pure (some (build head.1 thenBranch))
        else pure none) state := by
  refine .bind (ensures_condition honest notEnd) fun head middle => ?_
  rcases head with ⟨condition, found⟩
  cases found with
  | false =>
      refine .pure ?_
      rintro _ ⟨_, _, _, ⟨⟩, _⟩
  | true =>
      refine .yields honest.statement ?_
      rintro _ second following ⟨tree, rfl, spelledBody⟩ _
        ⟨condition, first, word, ⟨⟩, rfl, spelled, isWord⟩
      rw [List.cons_append, List.append_assoc]
      exact ⟨_, rfl, .branch isBranch spelled isWord spelledBody⟩

theorem ensures_test :
    EnsuresTree rounding .simple (parseTestStatement callees) state := by
  refine .bind (ensures_condition honest noConfusion) fun head middle => ?_
  rcases head with ⟨condition, found⟩
  cases found with
  | false =>
      refine .pure ?_
      rintro _ ⟨_, _, _, ⟨⟩, _⟩
  | true =>
      refine .bind honest.statement fun value later => ?_
      refine .matched noConfusion (fun other => .yields honest.statement ?_) fun ends => .pure ?_
      · rintro _ third following ⟨other, rfl, spelledOther⟩ second ⟨tree, rfl, spelledBody⟩ _
          ⟨condition, first, word, ⟨⟩, rfl, spelled, isWord⟩
        rw [List.cons_append, List.append_assoc]
        exact ⟨_, rfl, .testElse rfl spelled isWord spelledBody rfl spelledOther⟩
      · rintro second ⟨tree, rfl, spelledBody⟩ _
          ⟨condition, first, word, ⟨⟩, rfl, spelled, isWord⟩
        rw [List.cons_append, List.append_assoc, List.append_nil]
        exact ⟨_, rfl, .test rfl spelled isWord spelledBody ends⟩

theorem ensures_while :
    EnsuresTree rounding .simple (parseWhileStatement callees) state := by
  refine .expect noConfusion fun condition => .bind (honest.expression 0) fun value word => ?_
  refine .expect noConfusion fun body => .yields honest.statement ?_
  rintro _ second following ⟨tree, rfl, spelledBody⟩ first ⟨condition, rfl, spelled⟩
  exact ⟨_, rfl, .whileLoop rfl spelled rfl spelledBody⟩

theorem ensures_until :
    EnsuresTree rounding .simple (parseRepeatStatement callees) state := by
  refine .expect noConfusion fun body => .bind honest.statement fun value word => ?_
  refine .expect noConfusion fun condition => .yields (honest.expression 0) ?_
  rintro _ second following ⟨condition, rfl, spelledCondition⟩ first ⟨tree, rfl, spelled⟩
  exact ⟨_, rfl, .untilLoop rfl spelled rfl spelledCondition⟩

/-- The step of a `FOR`: an expression behind `BY`, or nothing. -/
theorem ensures_step :
    Ensures (parseStep callees) state fun value tokens following =>
      (value = none ∧ tokens = []) ∨
        exists step word third, value = some step ∧ tokens = word :: third ∧
          word.type = .byKeyword ∧ Spells rounding (.expression 0 step) third following := by
  refine .matched noConfusion (fun middle => (honest.expression 0).weaken ?_) fun _ => ?_
  · rintro value third following ⟨step, same, spelled⟩
    exact Or.inr ⟨step, _, third, same, rfl, rfl, spelled⟩
  · exact .pure (Or.inl ⟨rfl, rfl⟩)

theorem ensures_for :
    EnsuresTree rounding .simple (parseForStatement callees) state := by
  refine .expect noConfusion fun _ => .named fun _ => .expect noConfusion fun _ => ?_
  refine .bind (honest.expression 0) fun start toWord => .expect noConfusion fun _ => ?_
  refine .bind (honest.expression 0) fun limit byWord =>
    .bind (ensures_step honest) fun step _ => ?_
  refine .expect noConfusion fun body => .yields honest.statement ?_
  rintro _ fourth following ⟨tree, rfl, spelledBody⟩ _
    (⟨rfl, rfl⟩ | ⟨step, word, third, rfl, rfl, isBy, spelledStep⟩) second
    ⟨limit, rfl, spelledLimit⟩ first ⟨start, rfl, spelledStart⟩
  · exact ⟨_, rfl, .forLoop rfl rfl rfl spelledStart rfl spelledLimit rfl spelledBody⟩
  · rw [List.cons_append, firstType_cons, isBy] at spelledLimit
    exact ⟨_, rfl, .forLoopBy rfl rfl rfl spelledStart rfl spelledLimit isBy spelledStep rfl
      spelledBody⟩

theorem ensures_forEach (isType : state.current.type = .forEachKeyword) :
    EnsuresTree rounding .simple (parseForeachStatement callees) state := by
  have names : forall {middle}, Ensures parseLoopNames middle fun names tokens _ =>
      (exists name, names = (name.value, []) ∧ tokens = [name] ∧ name.type = .identifier) ∨
        exists first comma name, names = (name.value, first.value) ∧
          tokens = [first, comma, name] ∧ first.type = .identifier ∧ comma.type = .comma ∧
            name.type = .identifier := by
    intro middle
    refine .named fun comma => .matched noConfusion (fun _ => .named fun final => ?_) fun _ => ?_
    · exact .pure (Or.inr ⟨_, _, _, rfl, rfl, rfl, rfl, rfl⟩)
    · exact .pure (Or.inl ⟨_, rfl, rfl, rfl⟩)
  refine .advance (isType.trans_ne noConfusion) fun _ => .bind names fun _ _ => ?_
  refine .expect noConfusion fun _ => .bind (honest.expression 0) fun collection word => ?_
  refine .expect noConfusion fun body => .yields honest.statement ?_
  rintro _ second following ⟨tree, rfl, spelledBody⟩ first ⟨collection, rfl, spelled⟩ _
    (⟨name, rfl, rfl, isName⟩ | ⟨typeName, comma, name, rfl, rfl, isFirst, isComma, isName⟩)
  · exact ⟨_, rfl, .forEach isType isName rfl spelled rfl spelledBody⟩
  · exact ⟨_, rfl, .forEachTyped isType isFirst isComma isName rfl spelled rfl spelledBody⟩

/-- The targets of an assignment behind the first one. -/
theorem ensures_targets {remaining : Nat} :
    Ensures (parseTargets callees remaining) state fun values tokens following =>
      exists trees, values = trees.map some ∧
        Spells rounding (.targets trees) tokens following := by
  induction remaining generalizing state with
  | zero => exact .outOfRounds
  | succ remaining hypothesis =>
      refine .matched noConfusion (fun target => .bind (honest.expression 0) fun value later => ?_)
        fun ends => .pure ⟨[], rfl, .noTargets ends⟩
      refine .yields hypothesis ?_
      rintro _ others following ⟨trees, rfl, spelledOthers⟩ tokens ⟨tree, rfl, spelled⟩
      exact ⟨tree :: trees, rfl, .moreTargets rfl spelled spelledOthers⟩

theorem ensures_assignment {first : Expression} (notCall : isCall first = false) :
    Ensures (parseAssignment callees rounds first) state fun value tokens following =>
      forall front, Spells rounding (.expression 0 first) front (firstType tokens following) ->
        exists tree, value = some tree ∧
          Spells rounding (.simple tree) (front ++ tokens) following := by
  refine .bind (ensures_targets honest) fun targetValues assign => .expect noConfusion fun _ => ?_
  refine .bind (ensures_expressions honest) fun rhs final => ?_
  by_cases count : (some first :: targetValues).length = rhs.length
  · rw [if_pos count]
    refine .pure ?_
    rintro third ⟨values, rfl, spelledValues⟩ second ⟨targets, rfl, spelledTargets⟩ front spelled
    rw [firstType_append] at spelled
    rw [List.append_nil]
    exact ⟨_, rfl, .assignment notCall spelled spelledTargets rfl spelledValues
      (by simpa using count)⟩
  · rw [if_neg count]
    exact .failure

theorem ensures_assignmentOrRoutineCall :
    EnsuresTree rounding .simple (parseAssignmentOrRoutineCall callees rounds) state := by
  refine .bind (honest.expression 0) fun value middle => ?_
  have assigned : forall {first : Expression}, isCall first = false ->
      Ensures (parseAssignment callees rounds first) middle fun result tokens following =>
        forall front, (exists tree, some first = some tree ∧
          Spells rounding (.expression 0 tree) front (firstType tokens following)) ->
        exists tree, result = some tree ∧
          Spells rounding (.simple tree) (front ++ tokens) following := by
    intro first notCall
    refine (ensures_assignment honest notCall).weaken ?_
    rintro result tokens following assigns front ⟨_, ⟨⟩, spelled⟩
    exact assigns front spelled
  cases value with
  | none => exact .failure
  | some tree =>
      cases tree with
      | functionCall function arguments =>
          refine .pure ?_
          rintro front ⟨_, ⟨⟩, spelled⟩
          rw [List.append_nil]
          exact ⟨_, rfl, .routineCall spelled⟩
      | integerLiteral | floatLiteral | stringLiteral | charLiteral | booleanLiteral
      | variableAccess | binaryOp | unaryOp | vectorAccess | charIndirection
      | floatVectorIndirection | bitfieldAccess | conditional | valof | floatValof
      | vecAllocation | fvecAllocation | stringAllocation | table | vecInitializer
      | list => exact assigned rfl

theorem ensures_binding (isWord : isLet state.current.type) :
    EnsuresTree rounding .binding (parseLetStatement callees rounds) state := by
  have isKeyword : state.current.type =
      if state.current.type == .fletKeyword then .fletKeyword else .letKeyword := by
    rcases isWord with isType | isType <;> rw [isType] <;> rfl
  have notEnd : (if state.current.type == .fletKeyword then TokenType.fletKeyword
      else .letKeyword) ≠ .eof := by
    split <;> exact noConfusion
  refine .check noConfusion (.expect notEnd fun names => ?_)
  rw [Token.as_self isKeyword]
  refine .bind (ensures_names rounding) fun names equal => .expect noConfusion fun values => ?_
  refine .bind (ensures_expressions honest) fun initializers final => ?_
  by_cases count : names.length = initializers.length
  · rw [if_pos count]
    refine .pure ?_
    rintro second ⟨trees, rfl, spelledValues⟩ first spelledNames
    rw [List.append_nil]
    exact ⟨_, rfl, .binding isWord spelledNames rfl spelledValues (by simpa using count)⟩
  · rw [if_neg count]
    exact .failure

theorem ensures_items {remaining : Nat} :
    Ensures (blockLoop callees rounds remaining) state fun items tokens following =>
      following = .rightBrace -> Spells rounding (.items items) tokens following := by
  induction remaining generalizing state with
  | zero => exact .outOfRounds
  | succ remaining hypothesis =>
      refine .look ?_
      cases closed : state.check .rightBrace || state.isAtEnd with
      | true =>
          refine .pure fun closes => ?_
          rw [closes]
          exact .noItems
      | false =>
      cases binds : state.check .letKeyword || state.check .fletKeyword with
      | true =>
          refine .bind (ensures_binding honest (isLet_of_checks binds)) fun value middle => ?_
          refine .yields hypothesis ?_
          rintro items rest _ others first ⟨tree, rfl, spelled⟩ rfl
          exact .bindingItem spelled (others rfl)
      | false =>
      cases declares : isDeclarationStart state.current.type with
      | true =>
          refine .bind (honest.definition (notName_of_declares declares)) fun value middle => ?_
          refine .yields hypothesis ?_
          rintro items rest _ others first ⟨tree, rfl, spelled⟩ rfl
          exact .definitionItem spelled (others rfl)
      | false =>
          refine .bind honest.statement fun value middle => ?_
          cases value with
          | none =>
              refine .pure ?_
              rintro _ ⟨_, ⟨⟩, _⟩
          | some statement =>
              refine .yields hypothesis ?_
              rintro items rest _ others first ⟨_, ⟨⟩, spelled⟩ rfl
              exact .statementItem spelled (others rfl)

theorem ensures_block :
    EnsuresTree rounding .simple (parseBlockOrCompoundStatement callees rounds) state := by
  refine .expect noConfusion fun _ => .bind (ensures_items honest) fun items closing => ?_
  refine .expect noConfusion fun final => ?_
  have same : (if items.declarations.isEmpty then pure (some (.compound items.statements))
      else pure (some (.block items.declarations items.statements)) : Parse (Option Statement)) =
        pure (some items.tree) := by
    unfold BlockItems.tree
    split <;> rfl
  refine .of_eq (congrFun same final) (.pure fun tokens spelled => ?_)
  exact ⟨_, rfl, .block rfl (spelled rfl) rfl⟩

theorem ensures_case :
    Ensures (parseCase callees) state fun value tokens following =>
      exists constant command first colon second,
        value = some (.mk (some constant) command) ∧ tokens = first ++ colon :: second ∧
          Spells rounding (.expression 0 constant) first .colon ∧ colon.type = .colon ∧
            Spells rounding (.statement command) second following := by
  refine .bind (honest.expression 0) fun value colon => .expect noConfusion fun command => ?_
  refine .yields honest.statement ?_
  rintro _ second following ⟨command, rfl, spelledCommand⟩ first ⟨constant, rfl, spelled⟩
  exact ⟨constant, command, first, _, second, rfl, rfl, spelled, rfl, spelledCommand⟩

theorem ensures_default {hasDefault : Bool} :
    Ensures (parseDefault callees hasDefault) state fun value tokens following =>
      exists command colon second, value = some command ∧ hasDefault = false ∧
        tokens = colon :: second ∧ colon.type = .colon ∧
          Spells rounding (.statement command) second following := by
  refine .expect noConfusion fun command => ?_
  cases hasDefault with
  | true => exact .error (honest.statement.weaken fun _ _ _ _ => trivial)
  | false =>
      change Ensures callees.statement command _
      refine honest.statement.weaken ?_
      rintro value second following ⟨tree, same, spelled⟩
      exact ⟨tree, _, second, same, rfl, rfl, rfl, spelled⟩

theorem ensures_cases {remaining : Nat} {items : SwitchItems} :
    Ensures (switchLoop callees remaining items) state fun after tokens following =>
      following = .rightBrace -> Spells rounding (.cases items after) tokens following := by
  induction remaining generalizing state items with
  | zero => exact .outOfRounds
  | succ remaining hypothesis =>
      refine .look ?_
      cases closed : state.check .rightBrace || state.isAtEnd with
      | true =>
          refine .pure fun closes => ?_
          rw [closes]
          exact .noCases
      | false =>
      by_cases isCase : state.check .caseKeyword = true
      · rw [if_pos isCase]
        rw [check_eq .caseKeyword noConfusion] at isCase
        have isType := beq_iff_eq.mp isCase
        refine .advance (isType.trans_ne noConfusion) fun _ => ?_
        refine .bind (ensures_case honest) fun value middle => ?_
        cases value with
        | none =>
            refine .pure ?_
            rintro _ ⟨_, _, _, _, _, ⟨⟩, _⟩
        | some caseStatement =>
            refine hypothesis.weaken ?_
            rintro after rest _ others _ ⟨constant, command, first, colon, second, ⟨⟩, rfl,
              spelled, isColon, spelledCommand⟩ rfl
            rw [List.append_assoc]
            exact .case isType spelled isColon spelledCommand (others rfl)
      rw [if_neg isCase]
      by_cases isDefault : state.check .defaultKeyword = true
      · rw [if_pos isDefault]
        rw [check_eq .defaultKeyword noConfusion] at isDefault
        have isType := beq_iff_eq.mp isDefault
        refine .advance (isType.trans_ne noConfusion) fun _ => ?_
        refine .bind (ensures_default honest) fun value middle => ?_
        cases value with
        | none =>
            refine .pure ?_
            rintro _ ⟨_, _, _, ⟨⟩, _⟩
        | some command =>
            refine hypothesis.weaken ?_
            rintro after rest _ others _ ⟨_, colon, first, ⟨⟩, isFirst, rfl, isColon, spelled⟩ rfl
            exact .defaultCase isType isColon (Option.not_isSome_iff_eq_none.mp (by simp [isFirst]))
              spelled (others rfl)
      · rw [if_neg isDefault]
        refine .error (.bind .advanced fun _ later => ?_)
        exact hypothesis.weaken fun _ _ _ _ _ _ => trivial

theorem ensures_switchon :
    EnsuresTree rounding .simple (parseSwitchonStatement callees rounds) state := by
  refine .expect noConfusion fun _ => .bind (honest.expression 0) fun tree intoWord => ?_
  refine .expect noConfusion fun _ => .expect noConfusion fun _ => ?_
  refine .bind (ensures_cases honest) fun items closing => .expect noConfusion fun final => ?_
  refine .pure ?_
  rintro second cases first ⟨tree, rfl, spelled⟩
  exact ⟨_, rfl, .switchon rfl spelled rfl rfl (cases rfl) rfl⟩

theorem ensures_keywordStatement :
    EnsuresTree rounding .simple
      (parseKeywordStatement callees rounds state.current.type) state := by
  unfold parseKeywordStatement
  split <;> rename_i isType
  case h_1 => exact ensures_until honest
  case h_2 | h_3 => exact ensures_branch honest noConfusion rfl
  case h_4 => exact ensures_test honest
  case h_5 => exact ensures_while honest
  case h_6 => exact ensures_for honest
  case h_7 => exact ensures_forEach honest isType
  case h_8 => exact ensures_switchon honest
  case h_9 | h_17 => exact ensures_keywordExpression honest noConfusion rfl fun _ => rfl
  case h_10 => exact ensures_free honest isType
  case h_18 => exact ensures_assignmentOrRoutineCall honest
  all_goals exact ensures_keyword noConfusion rfl

theorem ensures_primaryStatement :
    EnsuresTree rounding .simple (parsePrimaryStatement callees rounds) state := by
  refine .look ?_
  cases state.check .identifier && state.peekType == .colon with
  | true => exact .named fun _ => .expect noConfusion fun _ => .pure ⟨_, rfl, .label rfl rfl⟩
  | false =>
      cases state.check .leftBrace with
      | true => exact ensures_block honest
      | false => exact ensures_keywordStatement honest

end Statements

end Parsing
end NewBcpl
