import NewBcpl.Parsing.ExpressionReading
import NewBcpl.Parsing.StatementParser

namespace NewBcpl
namespace Parsing

open Grammars Parse

/-!
# What the statement parser reads

Each function of the statement parser reads a statement or reports an error. The
loop over a block makes progress in every round but one: at `FUNCTION` and `ROUTINE`
the parser of declarations reports an error and reads nothing, so that the loop never
ends there.
-/

section Statements

variable {total size : Nat} {watched plain : Callees} {state : ParserState}

section Simple

theorem parseKeyword_reads (fed : Fed total state) {keyword : TokenType}
    (isKeyword : keyword ∈ keywordStatements) (message : String) (statement : Statement) :
    Reads total .simpleStatement (parseKeyword keyword message statement)
      (parseKeyword keyword message statement) state := by
  refine Runs.bind (.consume fed keyword message) fun _ final read => ?_
  exact .pure (.produces (show [token keyword] ∈ productions .simpleStatement by
    simp only [productions, statementRules, List.mem_append, List.mem_map]
    exact Or.inl ⟨keyword, isKeyword, rfl⟩) read (le_refl _))

theorem parseKeywordExpression_reads (trusted : Trusted total size watched plain)
    (fed : Fed total state) (short : state.unread.length ≤ size) {keyword : TokenType}
    (rule : [token keyword, part .expression] ∈ productions .simpleStatement)
    (message : String) (statement : Option Expression -> Statement) :
    Reads total .simpleStatement (parseKeywordExpression watched keyword message statement)
      (parseKeywordExpression plain keyword message statement) state := by
  refine Runs.bind (.consume fed keyword message) fun _ middle read => ?_
  have less := read.gains
  refine Runs.bind (trusted.anExpression 0 read.fed (by omega)) fun _ final covers => ?_
  exact .pure (.produces rule (read.trans covers) (Nat.le_add_right 1 _))

/-- `DO` or `THEN`. -/
def branches (type : TokenType) : Prop := type = .doKeyword ∨ type = .thenKeyword

/-- A condition with its keyword, and the word behind it or an error. -/
theorem parseCondition_reads (trusted : Trusted total size watched plain)
    (fed : Fed total state) (short : state.unread.length ≤ size) (keyword : TokenType)
    (message missing : String) :
    Runs total (parseCondition watched keyword message missing)
      (parseCondition plain keyword message missing) state fun head final =>
      (head.2 = true ∧ exists type, branches type ∧ Covers total state
        (words (token keyword) * (words (part .expression) * words (token type))) 1 final) ∨
      (head.2 = false ∧ Covers total state 0 0 final) := by
  refine Runs.bind (.consume fed keyword message) fun _ opened opens => ?_
  have less := opens.gains
  refine Runs.bind (trusted.anExpression 0 opens.fed (by omega)) fun condition middle covers => ?_
  have found : Runs total matchDoOrThen matchDoOrThen middle fun found final =>
      (found = true ∧ exists type, branches type ∧
        Covers total middle (words (token type)) 1 final) ∨
      (found = false ∧ final = middle) := by
    refine Runs.matched covers.fed (fun final here => ?_) fun _ => ?_
    · exact .pure (Or.inl ⟨rfl, .doKeyword, Or.inl rfl, here⟩)
    · refine (Runs.separator covers.fed .thenKeyword).weaken fun found final outcome => ?_
      exact outcome.imp_left fun here => ⟨here.1, .thenKeyword, Or.inr rfl, here.2⟩
  refine Runs.bind found fun found final outcome => ?_
  rcases outcome with ⟨same, type, isBranch, here⟩ | ⟨same, still⟩
  · rw [same]
    exact .pure (Or.inl ⟨rfl, type, isBranch,
      (opens.trans (covers.trans here)).mono (le_refl _) (by omega)⟩)
  · rw [same, still]
    exact Runs.error (.pure (Or.inr ⟨rfl, (opens.trans covers).error _ (by omega)⟩))

/-- A statement with a condition and one branch. -/
theorem conditioned_reads (trusted : Trusted total size watched plain)
    (fed : Fed total state) (short : state.unread.length ≤ size) {keyword : TokenType}
    (rule : forall type, branches type ->
      [token keyword, part .expression, token type, part .statement] ∈
        productions .simpleStatement)
    (message missing : String)
    (tree : Option Expression -> Option Statement -> Statement) :
    Reads total .simpleStatement
      (parseCondition watched keyword message missing >>= fun head =>
        if head.2 then watched.statement >>= fun branch => pure (some (tree head.1 branch))
        else pure none)
      (parseCondition plain keyword message missing >>= fun head =>
        if head.2 then plain.statement >>= fun branch => pure (some (tree head.1 branch))
        else pure none) state := by
  refine Runs.bind (parseCondition_reads trusted fed short keyword message missing)
    fun head middle outcome => ?_
  rcases outcome with ⟨same, type, isBranch, covers⟩ | ⟨same, spoiled⟩
  · rw [same]
    have less := covers.gains
    refine Runs.bind (trusted.statement middle covers.fed (by omega)) fun branch final read => ?_
    exact .pure (.produces (rule type isBranch)
      ((covers.trans read).equal (by simp only [mul_assoc]; rfl)) (Nat.le_add_right 1 _))
  · rw [same]
    exact .pure (spoiled.impossible (le_refl _))

theorem parseIfStatement_reads (trusted : Trusted total size watched plain)
    (fed : Fed total state) (short : state.unread.length ≤ size) :
    Reads total .simpleStatement (parseIfStatement watched) (parseIfStatement plain) state := by
  refine conditioned_reads trusted fed short ?_ _ _ Statement.ifStatement
  rintro type (same | same) <;> simp [same, productions, statementRules]

theorem parseUnlessStatement_reads (trusted : Trusted total size watched plain)
    (fed : Fed total state) (short : state.unread.length ≤ size) :
    Reads total .simpleStatement (parseUnlessStatement watched) (parseUnlessStatement plain)
      state := by
  refine conditioned_reads trusted fed short ?_ _ _ Statement.unless
  rintro type (same | same) <;> simp [same, productions, statementRules]

theorem parseTestStatement_reads (trusted : Trusted total size watched plain)
    (fed : Fed total state) (short : state.unread.length ≤ size) :
    Reads total .simpleStatement (parseTestStatement watched) (parseTestStatement plain)
      state := by
  refine Runs.bind (parseCondition_reads trusted fed short _ _ _) fun head middle outcome => ?_
  rcases outcome with ⟨same, type, isBranch, covers⟩ | ⟨same, spoiled⟩
  · rw [same]
    have less := covers.gains
    refine Runs.bind (trusted.statement middle covers.fed (by omega)) fun branch later read => ?_
    have lessStill := read.shorter
    refine Runs.matched read.fed (fun next hasElse => ?_) fun _ => ?_
    · have lessYet := hasElse.gains
      refine Runs.bind (trusted.statement next hasElse.fed (by omega)) fun other final rest => ?_
      have rule : [token .testKeyword, part .expression, token type, part .statement,
          token .elseKeyword, part .statement] ∈ productions .simpleStatement := by
        rcases isBranch with same | same <;> simp [same, productions, statementRules]
      exact .pure (.produces rule ((covers.trans (read.trans (hasElse.trans rest))).equal
        (by simp only [mul_assoc]; rfl)) (Nat.le_add_right 1 _))
    · have rule : [token .testKeyword, part .expression, token type, part .statement] ∈
          productions .simpleStatement := by
        rcases isBranch with same | same <;> simp [same, productions, statementRules]
      exact .pure (.produces rule ((covers.trans read).equal (by simp only [mul_assoc]; rfl))
        (Nat.le_add_right 1 _))
  · rw [same]
    exact .pure (spoiled.impossible (le_refl _))

theorem parseWhileStatement_reads (trusted : Trusted total size watched plain)
    (fed : Fed total state) (short : state.unread.length ≤ size) :
    Reads total .simpleStatement (parseWhileStatement watched) (parseWhileStatement plain)
      state := by
  refine Runs.bind (.consume fed .whileKeyword _) fun _ opened opens => ?_
  have less := opens.gains
  refine Runs.bind (trusted.anExpression 0 opens.fed (by omega)) fun _ middle condition => ?_
  refine Runs.bind (.consume condition.fed .doKeyword _) fun _ later does => ?_
  have lessStill := condition.gains
  have lessYet := does.gains
  refine Runs.bind (trusted.statement later does.fed (by omega)) fun _ final body => ?_
  exact .pure (.produces (show [token .whileKeyword, part .expression, token .doKeyword,
    part .statement] ∈ productions .simpleStatement by simp [productions, statementRules])
    (opens.trans (condition.trans (does.trans body))) (Nat.le_add_right 1 _))

theorem parseRepeatStatement_reads (trusted : Trusted total size watched plain)
    (fed : Fed total state) (short : state.unread.length ≤ size) :
    Reads total .simpleStatement (parseRepeatStatement watched) (parseRepeatStatement plain)
      state := by
  refine Runs.bind (.consume fed .repeatKeyword _) fun _ opened opens => ?_
  have less := opens.gains
  refine Runs.bind (trusted.statement opened opens.fed (by omega)) fun _ middle body => ?_
  refine Runs.bind (.consume body.fed .untilKeyword _) fun _ later untils => ?_
  have lessStill := body.gains
  have lessYet := untils.gains
  refine Runs.bind (trusted.anExpression 0 untils.fed (by omega)) fun _ final condition => ?_
  exact .pure (.produces (show [token .repeatKeyword, part .statement, token .untilKeyword,
    part .expression] ∈ productions .simpleStatement by simp [productions, statementRules])
    (opens.trans (body.trans (untils.trans condition))) (Nat.le_add_right 1 _))

theorem parseForStatement_reads (trusted : Trusted total size watched plain)
    (fed : Fed total state) (short : state.unread.length ≤ size) :
    Reads total .simpleStatement (parseForStatement watched) (parseForStatement plain)
      state := by
  refine Runs.bind (.consume fed .forKeyword _) fun _ opened opens => ?_
  refine Runs.bind (.parseName opens.fed _) fun _ named name => ?_
  refine Runs.bind (.consume name.fed .equal _) fun _ marked equals => ?_
  have head := opens.trans (name.trans equals)
  have less := head.gains
  refine Runs.bind (trusted.anExpression 0 equals.fed (by omega)) fun _ started start => ?_
  refine Runs.bind (.consume start.fed .toKeyword _) fun _ turned turns => ?_
  have range := head.trans (start.trans turns)
  have lessStill := range.gains
  refine Runs.bind (trusted.anExpression 0 turns.fed (by omega)) fun _ limited limit => ?_
  have lessYet := limit.gains
  have step : Runs total (parseStep watched) (parseStep plain) limited fun _ final =>
      Covers total limited (words (token .byKeyword) * words (part .expression)) 0 final ∨
        final = limited := by
    refine Runs.matched limit.fed (fun stepped steps => ?_) fun _ => .pure (Or.inr rfl)
    have lessHere := steps.gains
    refine (trusted.anExpression 0 steps.fed (by omega)).weaken fun _ final value => ?_
    exact Or.inl ((steps.trans value).mono (le_refl _) (by omega))
  refine Runs.bind step fun _ later stepped => ?_
  rcases stepped with covers | same
  · refine Runs.bind (.consume covers.fed .doKeyword _) fun _ ready does => ?_
    have lessThen := covers.gains
    have lessNow := does.gains
    refine Runs.bind (trusted.statement ready does.fed (by omega)) fun _ final body => ?_
    exact .pure (.produces (show [token .forKeyword, token .identifier, token .equal,
      part .expression, token .toKeyword, part .expression, token .byKeyword,
      part .expression, token .doKeyword, part .statement] ∈ productions .simpleStatement by
        simp [productions, statementRules])
      ((range.trans (limit.trans (covers.trans (does.trans body)))).equal
        (by simp only [mul_assoc]; rfl)) (by simp only [gainOf]; omega))
  · rw [same]
    refine Runs.bind (.consume limit.fed .doKeyword _) fun _ ready does => ?_
    have lessNow := does.gains
    refine Runs.bind (trusted.statement ready does.fed (by omega)) fun _ final body => ?_
    exact .pure (.produces (show [token .forKeyword, token .identifier, token .equal,
      part .expression, token .toKeyword, part .expression, token .doKeyword,
      part .statement] ∈ productions .simpleStatement by simp [productions, statementRules])
      ((range.trans (limit.trans (does.trans body))).equal (by simp only [mul_assoc]; rfl))
      (by simp only [gainOf]; omega))

theorem parseForeachStatement_reads (trusted : Trusted total size watched plain)
    (fed : Fed total state) (short : state.unread.length ≤ size)
    (isType : state.current.type = .forEachKeyword) :
    Reads total .simpleStatement (parseForeachStatement watched) (parseForeachStatement plain)
      state := by
  refine Runs.bind (.advance fed isType TokenType.noConfusion) fun _ opened opens => ?_
  have names : Runs total parseLoopNames parseLoopNames opened fun _ final =>
      Covers total opened (words (token .identifier)) 0 final ∨
        Covers total opened (words (token .identifier) *
          (words (token .comma) * words (token .identifier))) 0 final := by
    refine Runs.bind (.parseName opens.fed _) fun _ named name => ?_
    refine Runs.matched name.fed (fun parted comma => ?_)
      fun _ => .pure (Or.inl (name.mono (le_refl _) (by omega)))
    refine Runs.bind (.parseName comma.fed _) fun _ final other => ?_
    exact .pure (Or.inr ((name.trans (comma.trans other)).mono (le_refl _) (by omega)))
  refine Runs.bind names fun _ named read => ?_
  have less := opens.gains
  have lessStill : named.unread.length ≤ opened.unread.length := by
    rcases read with one | two
    · exact one.shorter
    · exact two.shorter
  have namedFed : Fed total named := by
    rcases read with one | two
    · exact one.fed
    · exact two.fed
  refine Runs.bind (.consume namedFed .inKeyword _) fun _ later within => ?_
  have lessYet := within.gains
  refine Runs.bind (trusted.anExpression 0 within.fed (by omega)) fun _ middle collection => ?_
  refine Runs.bind (.consume collection.fed .doKeyword _) fun _ ready does => ?_
  have lessThen := collection.gains
  have lessNow := does.gains
  refine Runs.bind (trusted.statement ready does.fed (by omega)) fun _ final body => ?_
  have rest := within.trans (collection.trans (does.trans body))
  rcases read with one | two
  · exact .pure (.produces (show [token .forEachKeyword, token .identifier, token .inKeyword,
      part .expression, token .doKeyword, part .statement] ∈ productions .simpleStatement by
        simp [productions, statementRules]) (opens.trans (one.trans rest)) (Nat.le_add_right 1 _))
  · exact .pure (.produces (show [token .forEachKeyword, token .identifier, token .comma,
      token .identifier, token .inKeyword, part .expression, token .doKeyword,
      part .statement] ∈ productions .simpleStatement by simp [productions, statementRules])
      ((opens.trans (two.trans rest)).equal (by simp only [mul_assoc]; rfl)) (Nat.le_add_right 1 _))

end Simple

section Assignments

/-- As many values as targets make an assignment. -/
theorem assignment_le (count : Nat) :
    words (part .expression) * (words (token .comma) * words (part .expression)) ^ count *
      (words (token .assign) * (words (part .expression) *
        (words (token .comma) * words (part .expression)) ^ count)) ≤
      words (part .simpleStatement) := by
  have single : [part .expression, token .assign, part .expression] ∈
      productions .assignment := by simp [productions]
  have more : [part .expression, token .comma, part .assignment, token .comma,
      part .expression] ∈ productions .assignment := by simp [productions]
  have statement : [part .assignment] ∈ productions .simpleStatement := by
    simp [productions, statementRules]
  exact (balanced_le (production_le single) (production_le more) count).trans
    (production_le statement)

/-- As many values as names make bindings. -/
theorem bindings_le (count : Nat) :
    words (token .identifier) * (words (token .comma) * words (token .identifier)) ^ count *
      (words (token .equal) * (words (part .expression) *
        (words (token .comma) * words (part .expression)) ^ count)) ≤
      words (part .bindings) := by
  have single : [token .identifier, token .equal, part .expression] ∈
      productions .bindings := by simp [productions]
  have more : [token .identifier, token .comma, part .bindings, token .comma,
      part .expression] ∈ productions .bindings := by simp [productions]
  exact balanced_le (production_le single) (production_le more) count

theorem parseTargets_reads (trusted : Trusted total size watched plain)
    (fed : Fed total state) (short : state.unread.length ≤ size) {remaining : Nat}
    (enough : state.unread.length < remaining) :
    Runs total (parseTargets watched remaining) (parseTargets plain remaining) state
      fun values final => Covers total state
        ((words (token .comma) * words (part .expression)) ^ values.length) 0 final := by
  induction remaining generalizing state with
  | zero => omega
  | succ remaining hypothesis =>
      refine Runs.matched fed (fun middle comma => ?_) fun _ => .pure ?_
      · have less := comma.gains
        refine Runs.bind (trusted.anExpression 0 comma.fed (by omega))
          fun target later covers => ?_
        have lessStill := covers.gains
        refine Runs.bind (hypothesis covers.fed (by omega) (by omega)) fun rest final others => ?_
        refine .pure ((comma.trans (covers.trans others)).mono (le_of_eq ?_) (by omega))
        rw [List.length_cons, pow_succ', mul_assoc]
      · rw [List.length_nil, pow_zero]
        exact .refl fed

theorem parseAssignment_reads (trusted : Trusted total size watched plain) {rounds : Nat}
    {start : ParserState} (short : start.unread.length ≤ size) (enough : size ≤ rounds)
    (first : Expression) (before : Covers total start (words (part .expression)) 1 state) :
    Runs total (parseAssignment watched rounds first) (parseAssignment plain rounds first) state
      fun value final =>
        Covers total start (words (part .simpleStatement)) (gainOf value) final := by
  have less := before.gains
  refine Runs.bind (parseTargets_reads trusted before.fed (by omega) (by omega))
    fun others middle targets => ?_
  refine Runs.bind (.consume targets.fed .assign _) fun _ later assigns => ?_
  have lessStill := targets.gains
  have lessYet := assigns.gains
  refine Runs.bind (trusted.expressions assigns.fed (by omega) enough) fun rhs final loops => ?_
  rcases loops with ⟨count, length, values⟩
  have whole := (before.trans targets).trans (assigns.trans values)
  by_cases same : (some first :: others).length = rhs.length
  · rw [if_pos same]
    have counted : others.length = count := by
      rw [List.length_cons, length] at same
      omega
    rw [counted] at whole
    exact .pure (whole.mono (assignment_le count) (Nat.le_add_right 1 _))
  · rw [if_neg same]
    exact Runs.error (.pure (whole.error _ (Nat.zero_le _)))

theorem parseAssignmentOrRoutineCall_reads (trusted : Trusted total size watched plain)
    {rounds : Nat} (short : state.unread.length ≤ size) (enough : size ≤ rounds)
    (whole : ReadsExpression total (watched.expression 0) (plain.expression 0) state) :
    Reads total .simpleStatement (parseAssignmentOrRoutineCall watched rounds)
      (parseAssignmentOrRoutineCall plain rounds) state := by
  refine Runs.bind whole fun value middle covers => ?_
  cases value with
  | none => exact Runs.error (.pure (covers.error _ (le_refl _)))
  | some tree =>
      cases tree with
      | functionCall function arguments =>
          exact .pure (.produces (show [part .call] ∈ productions .simpleStatement by
            simp [productions, statementRules]) covers (le_refl _))
      | _ => exact parseAssignment_reads trusted short enough _ covers

theorem parseFreeStatement_reads (trusted : Trusted total size watched plain)
    (fed : Fed total state) (short : state.unread.length ≤ size)
    (isType : state.current.type = .freevecKeyword) :
    Reads total .simpleStatement (parseFreeStatement watched) (parseFreeStatement plain)
      state := by
  refine Runs.matched fed (fun middle frees => ?_) fun other => ?_
  · have less := frees.gains
    refine Runs.bind (trusted.anExpression 0 frees.fed (by omega)) fun value final covers => ?_
    have read := frees.trans covers
    cases value with
    | none => exact Runs.error (.pure (read.error _ (Nat.zero_le _)))
    | some tree =>
        exact .pure (.produces (show [token .freevecKeyword, part .expression] ∈
          productions .simpleStatement by simp [productions, statementRules]) read
          (Nat.le_add_right 1 _))
  · unfold ParserState.check ParserState.isAtEnd at other
    rw [isType] at other
    cases other

/-- Names with commas between them. -/
theorem parseNames_reads (fed : Fed total state) {rounds : Nat}
    (enough : state.unread.length < rounds) (message : String) :
    Runs total (repeated (matchToken .comma) (parseName message) rounds)
      (repeated (matchToken .comma) (parseName message) rounds) state
      fun names final => exists count, names.length = count + 1 ∧
        Covers total state (words (token .identifier) *
          (words (token .comma) * words (token .identifier)) ^ count) 0 final := by
  apply Runs.repeated (fun state fed => Runs.separator fed .comma) _ fed
    (Nat.lt_succ_self _) enough
  intro state fed _
  exact (Runs.parseName fed message).weaken fun _ _ name => name.mono (le_refl _) (by omega)

/-- A `LET` or `FLET` in a block. -/
theorem parseLetStatement_reads (trusted : Trusted total size watched plain) {rounds : Nat}
    (fed : Fed total state) (short : state.unread.length ≤ size) (enough : size ≤ rounds) :
    Runs total (parseLetStatement watched rounds) (parseLetStatement plain rounds) state
      fun _ final => exists type, (type = .letKeyword ∨ type = .fletKeyword) ∧
        Covers total state (words (token type) * words (part .bindings)) 1 final := by
  refine Runs.check ?_
  refine Runs.bind (.consume fed _ _) fun _ opened opens => ?_
  have isLet : (if state.check .fletKeyword then TokenType.fletKeyword
      else .letKeyword) = .letKeyword ∨
      (if state.check .fletKeyword then TokenType.fletKeyword
      else .letKeyword) = .fletKeyword := by
    cases state.check .fletKeyword
    · exact Or.inl rfl
    · exact Or.inr rfl
  have less := opens.gains
  refine Runs.bind (parseNames_reads opens.fed (by omega) _) fun names middle loops => ?_
  rcases loops with ⟨namesCount, namesLength, read⟩
  refine Runs.bind (.consume read.fed .equal _) fun _ later equals => ?_
  have lessStill := read.gains
  have lessYet := equals.gains
  refine Runs.bind (trusted.expressions equals.fed (by omega) enough)
    fun initializers final loops => ?_
  rcases loops with ⟨count, length, values⟩
  have whole := read.trans (equals.trans values)
  by_cases same : names.length = initializers.length
  · rw [if_pos same]
    have counted : namesCount = count := by omega
    rw [counted] at whole
    have bound : Covers total opened (words (part .bindings)) 0 final :=
      whole.mono (bindings_le count) (by omega)
    exact .pure ⟨_, isLet, (opens.trans bound).mono (le_refl _) (le_refl _)⟩
  · rw [if_neg same]
    have spoiled : Covers total opened (words (part .bindings)) 0 (final.error
        "Mismatch between number of names and initializers in LET declaration.") :=
      whole.error _ (by omega)
    exact Runs.error (.pure ⟨_, isLet, (opens.trans spoiled).mono (le_refl _) (le_refl _)⟩)

end Assignments

section Blocks

theorem declarationStart_cases {type : TokenType} (declares : isDeclarationStart type = true) :
    startsRoutine type ∨ startsDefinitions type := by
  unfold isDeclarationStart at declares
  unfold startsRoutine startsDefinitions
  split at declares <;> simp_all

/-- At `FUNCTION` or `ROUTINE` the loop over a block calls the parser of declarations. -/
theorem blockLoop_declares (callees : Callees) (rounds remaining : Nat)
    (stuck : startsRoutine state.current.type) :
    blockLoop callees rounds (remaining + 1) state =
      (callees.blockDeclaration >>= fun declaration =>
        blockLoop callees rounds remaining >>= fun items =>
        pure { items with declarations := declaration :: items.declarations }) state := by
  have goesOn : (state.check .rightBrace || state.isAtEnd) = false := by
    unfold ParserState.check ParserState.isAtEnd
    rcases stuck with same | same <;> rw [same] <;> rfl
  have noLet : (state.check .letKeyword || state.check .fletKeyword) = false := by
    unfold ParserState.check ParserState.isAtEnd
    rcases stuck with same | same <;> rw [same] <;> rfl
  have declares : isDeclarationStart state.current.type = true := by
    rcases stuck with same | same <;> rw [same] <;> rfl
  refine (bind_done (show look state = .done state state from rfl)).trans ?_
  simp only [goesOn, noLet, declares, Bool.false_eq_true, if_false, if_true]

/-- There the loop never ends: the parser of declarations reports an error and stays
where it is. -/
theorem blockLoop_stuck (trusted : Trusted total size watched plain) (rounds remaining : Nat)
    (stuck : startsRoutine state.current.type) :
    blockLoop plain rounds remaining state = .exhausted := by
  induction remaining generalizing state with
  | zero => rfl
  | succ remaining hypothesis =>
      rcases (trusted.stuck state stuck).2 with ⟨message, reports⟩
      rw [blockLoop_declares plain rounds remaining stuck, bind_done reports]
      exact bind_exhausted (hypothesis stuck)

theorem Covers.noItems (fed : Fed total state) :
    Covers total state (words (part .items)) 0 state :=
  .produces (show [] ∈ productions .items by simp [productions]) (.refl fed) (le_refl _)

/-- The loop over a block. It ends, or the watched run is halted where it would not. -/
theorem blockLoop_reads (trusted : Trusted total size watched plain) {rounds : Nat}
    (fed : Fed total state) (short : state.unread.length < size) (enough : size ≤ rounds)
    {remaining : Nat} (rest : state.unread.length < remaining) :
    Runs total (blockLoop watched rounds remaining) (blockLoop plain rounds remaining) state
      fun _ final => Covers total state (words (part .items)) 0 final := by
  induction remaining generalizing state with
  | zero => omega
  | succ remaining hypothesis =>
      by_cases stuck : startsRoutine state.current.type
      · have halts := (trusted.stuck state stuck).1
        have halted : blockLoop watched rounds (remaining + 1) state =
            .halted .blockDeclaration state := by
          rw [blockLoop_declares watched rounds remaining stuck]
          exact bind_halted halts
        unfold Runs
        rw [halted]
        exact fun _ => blockLoop_stuck trusted rounds (remaining + 1) stuck
      refine Runs.look ?_
      cases ended : state.check .rightBrace || state.isAtEnd with
      | true => exact .pure (.noItems fed)
      | false =>
      cases isLet : state.check .letKeyword || state.check .fletKeyword with
      | true =>
          refine Runs.bind (parseLetStatement_reads trusted fed (le_of_lt short) enough)
            fun statement middle binds => ?_
          rcases binds with ⟨type, isLet, read⟩
          have less := read.gains
          refine Runs.bind (hypothesis read.fed (by omega) (by omega)) fun items final others => ?_
          have rule : [token type, part .bindings, part .items] ∈ productions .items := by
            rcases isLet with same | same <;> simp [same, productions]
          exact .pure (.produces rule ((read.trans others).equal (by simp only [mul_assoc]; rfl))
            (by omega))
      | false =>
      cases declares : isDeclarationStart state.current.type with
      | true =>
          have starts : startsDefinitions state.current.type :=
            (declarationStart_cases declares).resolve_left stuck
          refine Runs.bind (trusted.definitions state fed short starts)
            fun declaration middle read => ?_
          have less := read.gains
          refine Runs.bind (hypothesis read.fed (by omega) (by omega)) fun items final others => ?_
          exact .pure (.produces (show [part .definitionBlock, part .items] ∈
            productions .items by simp [productions]) (read.trans others) (by omega))
      | false =>
          refine Runs.bind (trusted.statement state fed short) fun statement middle read => ?_
          have rule : [part .statement, part .items] ∈ productions .items := by
            simp [productions]
          cases statement with
          | none => exact .pure (.produces rule (read.trans (.noItems read.fed)) (le_refl _))
          | some statement =>
              have less : middle.unread.length + 1 ≤ state.unread.length := read.gains
              refine Runs.bind (hypothesis read.fed (by omega) (by omega))
                fun items final others => ?_
              exact .pure (.produces rule (read.trans others) (by omega))

theorem parseBlockOrCompoundStatement_reads (trusted : Trusted total size watched plain)
    {rounds : Nat} (fed : Fed total state) (short : state.unread.length ≤ size)
    (enough : size ≤ rounds) :
    Reads total .simpleStatement (parseBlockOrCompoundStatement watched rounds)
      (parseBlockOrCompoundStatement plain rounds) state := by
  refine Runs.bind (.consume fed .leftBrace _) fun _ opened opens => ?_
  have less := opens.gains
  refine Runs.bind (blockLoop_reads trusted opens.fed (by omega) enough (by omega))
    fun items middle read => ?_
  refine Runs.bind (.consume read.fed .rightBrace _) fun _ final closes => ?_
  have block : Covers total state (words (part .block)) 1 final :=
    .produces (show [token .leftBrace, part .items, token .rightBrace] ∈ productions .block by
      simp [productions]) (opens.trans (read.trans closes)) (by omega)
  have rule : [part .block] ∈ productions .simpleStatement := by
    simp [productions, statementRules]
  cases items.declarations.isEmpty with
  | true => exact .pure (.produces rule block (le_refl _))
  | false => exact .pure (.produces rule block (le_refl _))

end Blocks

section Switches

/-- The phrase that the loop over the cases of a `SWITCHON` reads. -/
def switchPhrase (hasDefault : Bool) : Nonterminal :=
  if hasDefault then .caseList else .switchBody

theorem noCases_mem (hasDefault : Bool) : [] ∈ productions (switchPhrase hasDefault) := by
  cases hasDefault <;> simp [switchPhrase, productions]

theorem oneCase_mem (hasDefault : Bool) :
    [token .caseKeyword, part .expression, token .colon, part .statement,
      part (switchPhrase hasDefault)] ∈ productions (switchPhrase hasDefault) := by
  cases hasDefault <;> simp [switchPhrase, productions]

theorem parseCase_reads (trusted : Trusted total size watched plain)
    (fed : Fed total state) (short : state.unread.length < size) :
    Runs total (parseCase watched) (parseCase plain) state fun _ final =>
      Covers total state (words (part .expression) *
        (words (token .colon) * words (part .statement))) 0 final := by
  refine Runs.bind (trusted.anExpression 0 fed short) fun constant middle value => ?_
  refine Runs.bind (.consume value.fed .colon _) fun _ later colon => ?_
  have less := value.gains
  have lessStill := colon.gains
  refine Runs.bind (trusted.statement later colon.fed (by omega)) fun command final read => ?_
  exact .pure ((value.trans (colon.trans read)).mono (le_refl _) (by omega))

/-- A `DEFAULT` is read, or reported where there has been one. -/
theorem parseDefault_reads (trusted : Trusted total size watched plain)
    (fed : Fed total state) (short : state.unread.length < size) (hasDefault : Bool) :
    Runs total (parseDefault watched hasDefault) (parseDefault plain hasDefault) state
      fun _ final => Covers total state
        (if hasDefault then 0 else words (token .colon) * words (part .statement)) 0 final := by
  refine Runs.bind (.consume fed .colon _) fun _ middle colon => ?_
  have less := colon.gains
  cases hasDefault with
  | true =>
      refine Runs.error ?_
      have spoiled : Covers total state 0 1 (middle.error
          "Multiple DEFAULT cases in SWITCHON statement.") := colon.error _ (le_refl _)
      refine (trusted.statement _ spoiled.fed (by rw [error_unread]; omega)).weaken
        fun command final read => ?_
      exact ((spoiled.trans read).equal (zero_mul _)).impossible (by omega)
  | false =>
      refine (trusted.statement middle colon.fed (by omega)).weaken fun command final read => ?_
      exact (colon.trans read).mono (le_refl _) (by omega)

/-- The loop over the cases of a `SWITCHON`. -/
theorem switchLoop_reads (trusted : Trusted total size watched plain)
    (fed : Fed total state) (short : state.unread.length < size) {remaining : Nat}
    (rest : state.unread.length < remaining) (items : SwitchItems) :
    Runs total (switchLoop watched remaining items) (switchLoop plain remaining items) state
      fun _ final =>
        Covers total state (words (part (switchPhrase items.defaultCase.isSome))) 0 final := by
  induction remaining generalizing state items with
  | zero => omega
  | succ remaining hypothesis =>
      have stops : forall {state : ParserState}, Fed total state -> Covers total state
          (words (part (switchPhrase items.defaultCase.isSome))) 0 state :=
        fun fed => .produces (noCases_mem _) (.refl fed) (le_refl _)
      refine Runs.look ?_
      cases ended : state.check .rightBrace || state.isAtEnd with
      | true => exact .pure (stops fed)
      | false =>
      have goesOn : state.isAtEnd = false := (Bool.or_eq_false_iff.mp ended).2
      cases isCase : state.check .caseKeyword with
      | true =>
          have isType := (check_eq_true isCase).2
          refine Runs.bind (.advance fed isType TokenType.noConfusion) fun _ middle opens => ?_
          have less := opens.gains
          refine Runs.bind (parseCase_reads trusted opens.fed (by omega))
            fun command later read => ?_
          have lessStill := read.gains
          have before := opens.trans read
          cases command with
          | none =>
              exact .pure (.produces (oneCase_mem _) ((before.trans (stops read.fed)).equal
                (by simp only [mul_assoc]; rfl)) (by omega))
          | some command =>
              refine (hypothesis read.fed (by omega) (by omega) _).weaken fun _ final others => ?_
              exact .produces (oneCase_mem _) ((before.trans others).equal
                (by simp only [mul_assoc]; rfl)) (by omega)
      | false =>
      cases isDefault : state.check .defaultKeyword with
      | true =>
          have isType := (check_eq_true isDefault).2
          refine Runs.bind (.advance fed isType TokenType.noConfusion) fun _ middle opens => ?_
          have less := opens.gains
          refine Runs.bind (parseDefault_reads trusted opens.fed (by omega) _)
            fun command later read => ?_
          have lessStill := read.gains
          have onlyOne : forall {final : ParserState},
              Covers total later (words (part .caseList)) 0 final ->
              Covers total state (words (part (switchPhrase items.defaultCase.isSome))) 0
                final := by
            intro final others
            cases hasDefault : items.defaultCase.isSome with
            | true =>
                rw [hasDefault, if_pos rfl] at read
                have twice := opens.trans (read.trans others)
                exact (twice.equal (by rw [zero_mul, mul_zero])).impossible (by omega)
            | false =>
                rw [hasDefault] at read
                exact .produces (show [token .defaultKeyword, token .colon, part .statement,
                  part .caseList] ∈ productions .switchBody by simp [productions])
                  ((opens.trans (read.trans others)).equal (by
                    simp only [Bool.false_eq_true, if_false, mul_assoc]
                    rfl)) (by omega)
          cases command with
          | none =>
              exact .pure (onlyOne (.produces (noCases_mem true) (.refl read.fed) (le_refl _)))
          | some command =>
              exact (hypothesis read.fed (by omega) (by omega) _).weaken
                fun _ final others => onlyOne others
      | false =>
          refine Runs.error ?_
          have spoiled : Covers total state 0 0 (state.error
              "Only CASE or DEFAULT allowed inside SWITCHON body.") :=
            (Covers.refl fed).error _ (le_refl _)
          refine Runs.bind (.advance spoiled.fed rfl (ne_of_beq_false goesOn))
            fun _ middle passes => ?_
          have less := passes.gains
          rw [error_unread] at less
          refine (hypothesis passes.fed (by omega) (by omega) items).weaken fun _ final others => ?_
          exact ((spoiled.trans (passes.trans others)).equal (zero_mul _)).impossible (by omega)

theorem parseSwitchonStatement_reads (trusted : Trusted total size watched plain)
    {rounds : Nat} (fed : Fed total state) (short : state.unread.length ≤ size)
    (enough : size ≤ rounds) :
    Reads total .simpleStatement (parseSwitchonStatement watched rounds)
      (parseSwitchonStatement plain rounds) state := by
  refine Runs.bind (.consume fed .switchonKeyword _) fun _ opened opens => ?_
  have less := opens.gains
  refine Runs.bind (trusted.anExpression 0 opens.fed (by omega)) fun _ middle value => ?_
  refine Runs.bind (.consume value.fed .intoKeyword _) fun _ turned into => ?_
  refine Runs.bind (.consume into.fed .leftBrace _) fun _ later brace => ?_
  have lessStill := value.gains
  have lessYet := into.gains
  have lessNow := brace.gains
  refine Runs.bind (switchLoop_reads trusted brace.fed (by omega) (by omega) ⟨[], none⟩)
    fun items ready body => ?_
  refine Runs.bind (.consume body.fed .rightBrace _) fun _ final closes => ?_
  exact .pure (.produces (show [token .switchonKeyword, part .expression, token .intoKeyword,
    token .leftBrace, part .switchBody, token .rightBrace] ∈ productions .simpleStatement by
      simp [productions, statementRules])
    (opens.trans (value.trans (into.trans (brace.trans (body.trans closes)))))
    (Nat.le_add_right 1 _))

end Switches

section Dispatch

theorem parseLabelTarget_reads (fed : Fed total state) :
    Reads total .simpleStatement parseLabelTarget parseLabelTarget state := by
  refine Runs.bind (.parseName fed _) fun _ middle name => ?_
  refine Runs.bind (.consume name.fed .colon _) fun _ final colon => ?_
  exact .pure (.produces (show [token .identifier, token .colon] ∈
    productions .simpleStatement by simp [productions, statementRules]) (name.trans colon)
    (Nat.le_add_right 1 _))

theorem parseKeywordStatement_reads (trusted : Trusted total size watched plain)
    {rounds : Nat} (fed : Fed total state) (short : state.unread.length ≤ size)
    (enough : size ≤ rounds)
    (whole : ReadsExpression total (watched.expression 0) (plain.expression 0) state) :
    Reads total .simpleStatement (parseKeywordStatement watched rounds state.current.type)
      (parseKeywordStatement plain rounds state.current.type) state := by
  unfold parseKeywordStatement
  split
  · exact parseRepeatStatement_reads trusted fed short
  · exact parseIfStatement_reads trusted fed short
  · exact parseUnlessStatement_reads trusted fed short
  · exact parseTestStatement_reads trusted fed short
  · exact parseWhileStatement_reads trusted fed short
  · exact parseForStatement_reads trusted fed short
  · next isType => exact parseForeachStatement_reads trusted fed short isType
  · exact parseSwitchonStatement_reads trusted fed short enough
  · exact parseKeywordExpression_reads trusted fed short
      (by simp [productions, statementRules]) _ _
  · next isType => exact parseFreeStatement_reads trusted fed short isType
  · exact parseKeyword_reads fed (by simp [keywordStatements]) _ _
  · exact parseKeyword_reads fed (by simp [keywordStatements]) _ _
  · exact parseKeyword_reads fed (by simp [keywordStatements]) _ _
  · exact parseKeyword_reads fed (by simp [keywordStatements]) _ _
  · exact parseKeyword_reads fed (by simp [keywordStatements]) _ _
  · exact parseKeyword_reads fed (by simp [keywordStatements]) _ _
  · exact parseKeywordExpression_reads trusted fed short
      (by simp [productions, statementRules]) _ _
  · exact parseAssignmentOrRoutineCall_reads trusted short enough whole

theorem parsePrimaryStatement_reads (trusted : Trusted total size watched plain)
    {rounds : Nat} (fed : Fed total state) (short : state.unread.length ≤ size)
    (enough : size ≤ rounds)
    (whole : ReadsExpression total (watched.expression 0) (plain.expression 0) state) :
    Reads total .simpleStatement (parsePrimaryStatement watched rounds)
      (parsePrimaryStatement plain rounds) state := by
  refine Runs.look ?_
  cases state.check .identifier && state.peekType == .colon with
  | true => exact parseLabelTarget_reads fed
  | false =>
  cases state.check .leftBrace with
  | true => exact parseBlockOrCompoundStatement_reads trusted fed short enough
  | false => exact parseKeywordStatement_reads trusted fed short enough whole

theorem parseRepeatSuffix_reads (trusted : Trusted total size watched plain)
    {start : ParserState} (short : start.unread.length ≤ size) (statement : Option Statement)
    (before : Covers total start (words (part .simpleStatement)) (gainOf statement) state) :
    Runs total (parseRepeatSuffix watched statement) (parseRepeatSuffix plain statement) state
      fun value final =>
        Covers total start (words (part .statement)) (gainOf value) final := by
  have shorter := before.shorter
  refine Runs.matched before.fed (fun middle again => ?_) fun _ => ?_
  · have less := again.gains
    refine Runs.matched again.fed (fun later whiles => ?_) fun _ => ?_
    · have lessStill := whiles.gains
      refine Runs.bind (trusted.anExpression 0 whiles.fed (by omega)) fun _ final condition => ?_
      exact .pure (.produces (show [part .simpleStatement, token .repeatKeyword,
        token .whileKeyword, part .expression] ∈ productions .statement by simp [productions])
        (before.trans (again.trans (whiles.trans condition))) (by simp only [gainOf]; omega))
    refine Runs.matched again.fed (fun later untils => ?_) fun _ => ?_
    · have lessStill := untils.gains
      refine Runs.bind (trusted.anExpression 0 untils.fed (by omega)) fun _ final condition => ?_
      exact .pure (.produces (show [part .simpleStatement, token .repeatKeyword,
        token .untilKeyword, part .expression] ∈ productions .statement by simp [productions])
        (before.trans (again.trans (untils.trans condition))) (by simp only [gainOf]; omega))
    · exact .pure (.produces (show [part .simpleStatement, token .repeatKeyword] ∈
        productions .statement by simp [productions]) (before.trans again) (Nat.le_add_left 1 _))
  · exact .pure (.produces (show [part .simpleStatement] ∈ productions .statement by
      simp [productions]) before (le_refl _))

/-- `parse_statement` on a state with at most the given number of tokens left. -/
theorem parseStatement_reads (trusted : Trusted total size watched plain) {rounds : Nat}
    (fed : Fed total state) (short : state.unread.length ≤ size) (enough : size ≤ rounds)
    (whole : ReadsExpression total (watched.expression 0) (plain.expression 0) state) :
    Reads total .statement (parseStatement watched rounds) (parseStatement plain rounds)
      state := by
  refine Runs.look ?_
  cases broken : state.fatal with
  | true => exact .pure (.spoiled fed (fed.marked.mp broken) (le_refl _))
  | false =>
      refine Runs.bind (parsePrimaryStatement_reads trusted fed short enough whole)
        fun statement middle before => ?_
      refine Runs.look ?_
      cases spoiled : middle.fatal with
      | true =>
          exact .pure (.spoiled before.fed (before.fed.marked.mp spoiled) before.shorter)
      | false => exact parseRepeatSuffix_reads trusted short statement before

end Dispatch

end Statements

end Parsing
end NewBcpl
