import NewBcpl.Parsing.SpelledExpressions

namespace NewBcpl
namespace Parsing

open Parse
open TokenType (noConfusion)

/-!
# The parser on spelled statements

The rules of the concrete syntax for statements, blocks and cases, one lemma for each.
-/

section Statements

variable {rounding : Rounding} {first second rest tokens : List Token}
  {token word : Token} {next type : TokenType} {rounds : Nat} {tree : Statement}
  {condition : Expression}

theorem facing_peekType (state : ParserState) (previous : Token) (tokens : List Token) :
    (state.facing previous tokens).peekType = nextType tokens.tail := by
  cases tokens with
  | nil => rfl
  | cons token tokens => cases tokens <;> rfl

/-- A statement and what may stand behind it. -/
theorem takes_statement {tree result : Statement}
    (primary : Takes (parsePrimaryStatement (level rounding rounds) rounds) first
      (firstType rest next) (some tree))
    (suffix : Takes (parseRepeatSuffix (level rounding rounds) (some tree)) rest next
      (some result)) :
    Takes (level rounding (rounds + 1)).statement (first ++ rest) next (some result) := by
  change Takes (parseStatement (level rounding rounds) rounds) _ _ _
  unfold parseStatement
  apply Takes.look
  intro state previous behind clean follows
  rw [facing_fatal, clean, if_neg Bool.false_ne_true]
  refine .bind primary ?_
  apply Takes.look
  intro state previous behind clean follows
  rw [facing_fatal, clean, if_neg Bool.false_ne_true]
  exact suffix

theorem reads_statement
    (read : ReadsPhrase rounding (.simple tree) tokens next) (ends : next ≠ .repeatKeyword) :
    ReadsPhrase rounding (.statement tree) tokens next := by
  intro rounds enough
  cases rounds with
  | zero => omega
  | succ rounds =>
      rw [<- List.append_nil tokens]
      refine takes_statement (read rounds (by omega)) ?_
      unfold parseRepeatSuffix
      exact .last (.unmatched ends) .pure

theorem reads_repeated
    (read : ReadsPhrase rounding (.simple tree) tokens .repeatKeyword)
    (isRepeat : token.type = .repeatKeyword) (ends : suffixLoop next = none) :
    ReadsPhrase rounding (.statement (.repeatStatement .repeatForever (some tree) none))
      (tokens ++ [token]) next := by
  intro rounds enough
  simp only [List.length_append] at enough
  cases rounds with
  | zero => omega
  | succ rounds =>
      have primary := read rounds (by omega)
      rw [<- isRepeat] at primary
      refine takes_statement primary ?_
      have notWhile : next ≠ .whileKeyword := by
        intro same
        rw [same] at ends
        cases ends
      have notUntil : next ≠ .untilKeyword := by
        intro same
        rw [same] at ends
        cases ends
      unfold parseRepeatSuffix
      refine .last (.matched isRepeat noConfusion) ?_
      exact .last (.unmatched notWhile) (.last (.unmatched notUntil) .pure)

theorem reads_repeatedWith {loopType : LoopType}
    (read : ReadsPhrase rounding (.simple tree) first .repeatKeyword)
    (isRepeat : token.type = .repeatKeyword) (isLoop : suffixLoop word.type = some loopType)
    (conditions : ReadsPhrase rounding (.expression 0 condition) second next) :
    ReadsPhrase rounding (.statement (.repeatStatement loopType (some tree) (some condition)))
      (first ++ token :: word :: second) next := by
  intro rounds enough
  simp only [List.length_append, List.length_cons] at enough
  cases rounds with
  | zero => omega
  | succ rounds =>
      have primary := read rounds (by omega)
      rw [<- isRepeat] at primary
      have conditionRead := conditions rounds (by omega)
      refine takes_statement primary ?_
      unfold parseRepeatSuffix
      refine .cons (.matched isRepeat noConfusion) ?_
      revert isLoop
      unfold suffixLoop
      split <;> rename_i isType <;> intro isLoop
      · rcases Option.some.inj isLoop with rfl
        exact .cons (.matched isType noConfusion) (.last conditionRead .pure)
      · rcases Option.some.inj isLoop with rfl
        refine .passes isType noConfusion ?_
        exact .cons (.matched isType noConfusion) (.last conditionRead .pure)
      · cases isLoop

theorem reads_label {colon : Token} (isName : token.type = .identifier)
    (isColon : colon.type = .colon) :
    ReadsPhrase rounding (.simple (.labelTarget token.value)) [token, colon] next := by
  intro rounds enough
  unfold parsePrimaryStatement
  apply Takes.look
  intro state previous behind clean follows
  have isLabel : ((state.facing previous ([token, colon] ++ behind)).check .identifier &&
      (state.facing previous ([token, colon] ++ behind)).peekType == .colon) = true := by
    rw [facing_check, facing_peekType]
    simp [isName, isColon]
  rw [if_pos isLabel]
  unfold parseLabelTarget
  exact .cons (.parseName isName) (.closing isColon noConfusion)

/-- A statement that starts with a keyword or an expression. -/
theorem takes_keyword
    (notLabel : token.type = .identifier -> firstType tokens next ≠ .colon)
    (notBlock : token.type ≠ .leftBrace)
    (read : Takes (parseKeywordStatement (level rounding rounds) rounds token.type)
      (token :: tokens) next (some tree)) :
    Takes (parsePrimaryStatement (level rounding rounds) rounds) (token :: tokens) next
      (some tree) := by
  unfold parsePrimaryStatement
  apply Takes.look
  intro state previous behind clean follows
  have isNone : ((state.facing previous (token :: tokens ++ behind)).check .identifier &&
      (state.facing previous (token :: tokens ++ behind)).peekType == .colon) = false := by
    rw [facing_check, facing_peekType, List.cons_append, nextType_cons, List.tail_cons,
      nextType_append follows]
    by_cases isName : token.type = .identifier
    · simp [notLabel isName]
    · simp [isName]
  have noBrace :
      (state.facing previous (token :: tokens ++ behind)).check .leftBrace = false :=
    facing_check_other state previous _ notBlock
  rw [isNone, noBrace]
  exact read

/-- A statement of a known keyword. -/
theorem takes_keywordOf
    (isType : token.type = type) (notName : type ≠ .identifier) (notBlock : type ≠ .leftBrace)
    (read : Takes (parseKeywordStatement (level rounding rounds) rounds type)
      (token :: tokens) next (some tree)) :
    Takes (parsePrimaryStatement (level rounding rounds) rounds) (token :: tokens) next
      (some tree) := by
  subst isType
  exact takes_keyword (fun isName => absurd isName notName) notBlock read

theorem reads_keyword (isKeyword : keywordTree token.type = some tree) :
    ReadsPhrase rounding (.simple tree) [token] next := by
  intro rounds enough
  revert isKeyword
  unfold keywordTree
  split <;> rename_i isType <;> intro isKeyword
  case h_7 => cases isKeyword
  all_goals
    rcases Option.some.inj isKeyword with rfl
    exact takes_keywordOf isType noConfusion noConfusion (.closing isType noConfusion)

theorem reads_keywordExpression {build : Expression -> Statement} {tree : Expression}
    (isKeyword : keywordExpressionTree token.type = some build)
    (read : ReadsPhrase rounding (.expression 0 tree) tokens next) :
    ReadsPhrase rounding (.simple (build tree)) (token :: tokens) next := by
  intro rounds enough
  simp only [List.length_cons] at enough
  have expressionRead := read rounds (by omega)
  revert isKeyword
  unfold keywordExpressionTree
  split <;> rename_i isType <;> intro isKeyword
  case h_4 => cases isKeyword
  all_goals
    rcases Option.some.inj isKeyword with rfl
    apply takes_keywordOf isType noConfusion noConfusion
  case h_3 => exact .cons (.matched isType noConfusion) (.last expressionRead .pure)
  all_goals exact .consume isType noConfusion (.last expressionRead .pure)

/-- `DO` or `THEN` in front of what follows. -/
theorem takes_doOrThen (isWord : isDoOrThen token.type) :
    Takes matchDoOrThen [token] next true := by
  unfold matchDoOrThen
  rcases isWord with isDo | isThen
  · exact .last (.matched isDo noConfusion) .pure
  · exact .passes isThen noConfusion (.matched isThen noConfusion)

/-- The head of `IF`, `UNLESS` and `TEST` with what follows it. -/
theorem takes_conditional {Value : Type}
    {after : Option Expression × Bool -> Parse Value} {value : Value}
    (isType : token.type = type) (notEnd : type ≠ .eof)
    (read : ReadsPhrase rounding (.expression 0 condition) first word.type)
    (isWord : isDoOrThen word.type) (enough : 2 * first.length ≤ rounds)
    (message missing : String)
    (goesOn : Takes (after (some condition, true)) rest next value) :
    Takes (parseCondition (level rounding rounds) type message missing >>= after)
      (token :: (first ++ word :: rest)) next value := by
  have head : Takes (parseCondition (level rounding rounds) type message missing)
      (token :: (first ++ [word])) (firstType rest next) (some condition, true) := by
    unfold parseCondition
    refine .consume isType notEnd (.upTo rfl (read rounds enough) ?_)
    exact .last (takes_doOrThen isWord) .pure
  have together := Takes.bind head goesOn
  rw [List.cons_append, List.append_assoc] at together
  exact together

theorem reads_branch {build : Option Expression -> Option Statement -> Statement}
    (isBranch : branchTree token.type = some build)
    (conditions : ReadsPhrase rounding (.expression 0 condition) first word.type)
    (isWord : isDoOrThen word.type)
    (body : ReadsPhrase rounding (.statement tree) second next) :
    ReadsPhrase rounding (.simple (build (some condition) (some tree)))
      (token :: (first ++ word :: second)) next := by
  intro rounds enough
  simp only [List.length_cons, List.length_append] at enough
  have bodyRead := body rounds (by omega)
  revert isBranch
  unfold branchTree
  split <;> rename_i isType <;> intro isBranch
  case h_3 => cases isBranch
  all_goals
    rcases Option.some.inj isBranch with rfl
    exact takes_keywordOf isType noConfusion noConfusion (takes_conditional isType noConfusion
      conditions isWord (by omega) _ _ (.last bodyRead .pure))

theorem reads_test
    (isTest : token.type = .testKeyword)
    (conditions : ReadsPhrase rounding (.expression 0 condition) first word.type)
    (isWord : isDoOrThen word.type)
    (body : ReadsPhrase rounding (.statement tree) second next) (ends : next ≠ .elseKeyword) :
    ReadsPhrase rounding (.simple (.test (some condition) (some tree) none))
      (token :: (first ++ word :: second)) next := by
  intro rounds enough
  simp only [List.length_cons, List.length_append] at enough
  apply takes_keywordOf isTest noConfusion noConfusion
  refine takes_conditional isTest noConfusion conditions isWord (by omega) _ _ ?_
  exact .last (body rounds (by omega)) (.last (.unmatched ends) .pure)

theorem reads_testElse {elseWord : Token} {tree other : Statement}
    {third : List Token} (isTest : token.type = .testKeyword)
    (conditions : ReadsPhrase rounding (.expression 0 condition) first word.type)
    (isWord : isDoOrThen word.type)
    (body : ReadsPhrase rounding (.statement tree) second .elseKeyword)
    (isElse : elseWord.type = .elseKeyword)
    (others : ReadsPhrase rounding (.statement other) third next) :
    ReadsPhrase rounding (.simple (.test (some condition) (some tree) (some other)))
      (token :: (first ++ word :: (second ++ elseWord :: third))) next := by
  intro rounds enough
  simp only [List.length_cons, List.length_append] at enough
  apply takes_keywordOf isTest noConfusion noConfusion
  refine takes_conditional isTest noConfusion conditions isWord (by omega) _ _ ?_
  refine .upTo isElse (body rounds (by omega)) ?_
  exact .cons (.matched isElse noConfusion) (.last (others rounds (by omega)) .pure)

theorem reads_whileLoop
    (isWhile : token.type = .whileKeyword)
    (conditions : ReadsPhrase rounding (.expression 0 condition) first .doKeyword)
    (isWord : word.type = .doKeyword)
    (body : ReadsPhrase rounding (.statement tree) second next) :
    ReadsPhrase rounding (.simple (.whileStatement (some condition) (some tree)))
      (token :: (first ++ word :: second)) next := by
  intro rounds enough
  simp only [List.length_cons, List.length_append] at enough
  apply takes_keywordOf isWhile noConfusion noConfusion
  refine .consume isWhile noConfusion (.upTo isWord (conditions rounds (by omega)) ?_)
  exact .consume isWord noConfusion (.last (body rounds (by omega)) .pure)

theorem reads_untilLoop
    (isRepeat : token.type = .repeatKeyword)
    (body : ReadsPhrase rounding (.statement tree) first .untilKeyword)
    (isWord : word.type = .untilKeyword)
    (conditions : ReadsPhrase rounding (.expression 0 condition) second next) :
    ReadsPhrase rounding (.simple (.repeatStatement .repeatUntil (some tree) (some condition)))
      (token :: (first ++ word :: second)) next := by
  intro rounds enough
  simp only [List.length_cons, List.length_append] at enough
  apply takes_keywordOf isRepeat noConfusion noConfusion
  refine .consume isRepeat noConfusion (.upTo isWord (body rounds (by omega)) ?_)
  exact .consume isWord noConfusion (.last (conditions rounds (by omega)) .pure)

/-- The last part of a `FOR`: `DO` and the body. -/
theorem takes_body {build : Option Statement -> Statement}
    {message : String} (isWord : word.type = .doKeyword)
    (body : ReadsPhrase rounding (.statement tree) tokens next)
    (enough : 2 * tokens.length < rounds) :
    Takes (consume .doKeyword message >>= fun _ =>
      (level rounding rounds).statement >>= fun body => pure (some (build body)))
      (word :: tokens) next (some (build (some tree))) :=
  .consume isWord noConfusion (.last (body rounds enough) .pure)

/-- A `FOR` with or without a step. -/
theorem takes_for {name equal toWord : Token} {start limit : Expression}
    {step : Option Expression} {third fourth : List Token}
    (isFor : token.type = .forKeyword) (isName : name.type = .identifier)
    (isEqual : equal.type = .equal)
    (startRead : ReadsPhrase rounding (.expression 0 start) first .toKeyword)
    (isTo : toWord.type = .toKeyword)
    (limitRead : ReadsPhrase rounding (.expression 0 limit) second (firstType third .doKeyword))
    (stepRead : Takes (parseStep (level rounding rounds)) third .doKeyword step)
    (isWord : word.type = .doKeyword)
    (body : ReadsPhrase rounding (.statement tree) fourth next)
    (enough : 2 * (first.length + second.length + fourth.length) < rounds) :
    Takes (parsePrimaryStatement (level rounding rounds) rounds)
      (token :: name :: equal :: (first ++ toWord :: (second ++ (third ++ word :: fourth))))
      next (some (.forStatement name.value (some start) (some limit) step (some tree))) := by
  apply takes_keywordOf isFor noConfusion noConfusion
  refine .consume isFor noConfusion (.cons (.parseName isName) (.consume isEqual noConfusion ?_))
  refine .upTo isTo (startRead rounds (by omega)) (.consume isTo noConfusion ?_)
  have limits := limitRead rounds (by omega)
  rw [<- @firstType_upTo fourth word next _ isWord third] at limits
  exact .bind limits (.upTo isWord stepRead (takes_body isWord body (by omega)))

theorem reads_forLoop {name equal toWord : Token} {start limit : Expression}
    {third : List Token} (isFor : token.type = .forKeyword)
    (isName : name.type = .identifier) (isEqual : equal.type = .equal)
    (startRead : ReadsPhrase rounding (.expression 0 start) first .toKeyword)
    (isTo : toWord.type = .toKeyword)
    (limitRead : ReadsPhrase rounding (.expression 0 limit) second .doKeyword)
    (isWord : word.type = .doKeyword)
    (body : ReadsPhrase rounding (.statement tree) third next) :
    ReadsPhrase rounding
      (.simple (.forStatement name.value (some start) (some limit) none (some tree)))
      (token :: name :: equal :: (first ++ toWord :: (second ++ word :: third))) next := by
  intro rounds enough
  simp only [List.length_cons, List.length_append] at enough
  have noStep : Takes (parseStep (level rounding rounds)) [] .doKeyword none :=
    .last (.unmatched noConfusion) .pure
  exact @takes_for rounding first second token word next rounds tree name equal toWord start
    limit none [] third isFor isName isEqual startRead isTo limitRead noStep isWord body (by omega)

theorem reads_forLoopBy {name equal toWord byWord : Token} {start limit step : Expression}
    {third fourth : List Token} (isFor : token.type = .forKeyword)
    (isName : name.type = .identifier) (isEqual : equal.type = .equal)
    (startRead : ReadsPhrase rounding (.expression 0 start) first .toKeyword)
    (isTo : toWord.type = .toKeyword)
    (limitRead : ReadsPhrase rounding (.expression 0 limit) second .byKeyword)
    (isBy : byWord.type = .byKeyword)
    (stepRead : ReadsPhrase rounding (.expression 0 step) third .doKeyword)
    (isWord : word.type = .doKeyword)
    (body : ReadsPhrase rounding (.statement tree) fourth next) :
    ReadsPhrase rounding
      (.simple (.forStatement name.value (some start) (some limit) (some step) (some tree)))
      (token :: name :: equal ::
        (first ++ toWord :: (second ++ byWord :: (third ++ word :: fourth)))) next := by
  intro rounds enough
  simp only [List.length_cons, List.length_append] at enough
  have hasStep : Takes (parseStep (level rounding rounds)) (byWord :: third) .doKeyword
      (some step) := .cons (.matched isBy noConfusion) (stepRead rounds (by omega))
  rw [<- isBy] at limitRead
  exact takes_for isFor isName isEqual startRead isTo limitRead hasStep isWord body (by omega)

/-- A `FOREACH` with one or two names. -/
theorem takes_forEach {names : List Token} {name typeName : List Char}
    {inWord : Token} {collection : Expression}
    (isForEach : token.type = .forEachKeyword)
    (named : Takes parseLoopNames names .inKeyword (name, typeName))
    (isIn : inWord.type = .inKeyword)
    (collectionRead : ReadsPhrase rounding (.expression 0 collection) first .doKeyword)
    (isWord : word.type = .doKeyword)
    (body : ReadsPhrase rounding (.statement tree) second next)
    (enough : 2 * (first.length + second.length) < rounds) :
    Takes (parsePrimaryStatement (level rounding rounds) rounds)
      (token :: (names ++ inWord :: (first ++ word :: second))) next
      (some (.forEach name typeName (some collection) (some tree))) := by
  apply takes_keywordOf isForEach noConfusion noConfusion
  refine .cons .advance (.upTo isIn named (.consume isIn noConfusion ?_))
  exact .upTo isWord (collectionRead rounds (by omega)) (takes_body isWord body (by omega))

theorem reads_forEach {name inWord : Token} {collection : Expression}
    (isForEach : token.type = .forEachKeyword) (isName : name.type = .identifier)
    (isIn : inWord.type = .inKeyword)
    (collectionRead : ReadsPhrase rounding (.expression 0 collection) first .doKeyword)
    (isWord : word.type = .doKeyword)
    (body : ReadsPhrase rounding (.statement tree) second next) :
    ReadsPhrase rounding (.simple (.forEach name.value [] (some collection) (some tree)))
      (token :: name :: inWord :: (first ++ word :: second)) next := by
  intro rounds enough
  simp only [List.length_cons, List.length_append] at enough
  have named : Takes parseLoopNames [name] .inKeyword (name.value, []) :=
    .last (.parseName isName) (.still (.unmatched noConfusion) .pure)
  exact takes_forEach isForEach named isIn collectionRead isWord body (by omega)

theorem reads_forEachTyped {typeName comma name inWord : Token} {collection : Expression}
    (isForEach : token.type = .forEachKeyword)
    (isTypeName : typeName.type = .identifier) (separates : comma.type = .comma)
    (isName : name.type = .identifier) (isIn : inWord.type = .inKeyword)
    (collectionRead : ReadsPhrase rounding (.expression 0 collection) first .doKeyword)
    (isWord : word.type = .doKeyword)
    (body : ReadsPhrase rounding (.statement tree) second next) :
    ReadsPhrase rounding
      (.simple (.forEach name.value typeName.value (some collection) (some tree)))
      (token :: typeName :: comma :: name :: inWord :: (first ++ word :: second)) next := by
  intro rounds enough
  simp only [List.length_cons, List.length_append] at enough
  have named : Takes parseLoopNames [typeName, comma, name] .inKeyword
      (name.value, typeName.value) :=
    .cons (.parseName isTypeName)
      (.cons (.matched separates noConfusion) (.last (.parseName isName) .pure))
  exact takes_forEach isForEach named isIn collectionRead isWord body (by omega)

/-- No keyword statement starts where an expression does. -/
theorem parseKeywordStatement_expression {callees : Callees}
    (starts : startsExpression type = true) :
    parseKeywordStatement callees rounds type = parseAssignmentOrRoutineCall callees rounds := by
  unfold parseKeywordStatement
  split <;> first | rfl | cases starts

/-- A statement that starts with an expression. -/
theorem takes_ofExpression {tokens : List Token}
    (starts : startsExpression token.type = true)
    (notLabel : token.type = .identifier -> firstType tokens next ≠ .colon)
    (read : Takes (parseAssignmentOrRoutineCall (level rounding rounds) rounds)
      (token :: tokens) next (some tree)) :
    Takes (parsePrimaryStatement (level rounding rounds) rounds) (token :: tokens) next
      (some tree) := by
  apply takes_keyword notLabel (ne_of_starts starts rfl)
  rw [parseKeywordStatement_expression starts]
  exact read

theorem reads_routineCall {function : Expression} {arguments : List (Option Expression)}
    (starts : startsExpression token.type = true)
    (notLabel : token.type = .identifier -> firstType tokens next ≠ .colon)
    (read : ReadsPhrase rounding (.expression 0 (.functionCall function arguments))
      (token :: tokens) next) :
    ReadsPhrase rounding (.simple (.routineCall function arguments)) (token :: tokens) next := by
  intro rounds enough
  apply takes_ofExpression starts notLabel
  exact .last (read rounds enough) .pure

theorem reads_noTargets (ends : next ≠ .comma) : ReadsPhrase rounding (.targets []) [] next := by
  intro rounds remaining enough more
  cases remaining with
  | zero => omega
  | succ remaining => exact .last (.unmatched ends) .pure

theorem reads_moreTargets {comma : Token} {tree : Expression} {trees : List Expression}
    (separates : comma.type = .comma)
    (read : ReadsPhrase rounding (.expression 0 tree) first (firstType rest next))
    (others : ReadsPhrase rounding (.targets trees) rest next) :
    ReadsPhrase rounding (.targets (tree :: trees)) (comma :: (first ++ rest)) next := by
  intro rounds remaining enough more
  simp only [List.length_cons, List.length_append] at enough more
  cases remaining with
  | zero => omega
  | succ remaining =>
      refine .cons (.matched separates noConfusion) (.bind (read rounds (by omega)) ?_)
      exact .last (others rounds remaining (by omega) (by omega)) .pure

theorem parseAssignmentOrRoutineCall_notCall {callees : Callees}
    {tree : Expression} (notCall : isCall tree = false) :
    (match (some tree : Option Expression) with
      | none => do
          error "Expected an expression for assignment or routine call."
          pure none
      | some (.functionCall functionExpr arguments) =>
          pure (some (.routineCall functionExpr arguments))
      | some first => parseAssignment callees rounds first) =
      parseAssignment callees rounds tree := by
  cases tree <;> first | rfl | cases notCall

theorem reads_assignment {assign : Token} {tree : Expression}
    {targets values : List Expression} {firstTokens second third : List Token}
    (starts : startsExpression token.type = true) (notCall : isCall tree = false)
    (notLabel : token.type = .identifier ->
      firstType firstTokens (firstType second .assign) ≠ .colon)
    (read : ReadsPhrase rounding (.expression 0 tree) (token :: firstTokens)
      (firstType second .assign))
    (targetsRead : ReadsPhrase rounding (.targets targets) second .assign)
    (isAssign : assign.type = .assign)
    (valuesRead : ReadsPhrase rounding (.expressions values) third next)
    (count : targets.length + 1 = values.length) :
    ReadsPhrase rounding (.simple (.assignment (some tree :: targets.map some) (values.map some)))
      (token :: firstTokens ++ (second ++ assign :: third)) next := by
  intro rounds enough
  simp only [List.length_cons, List.length_append] at enough
  have follows : firstType (second ++ assign :: third) next = firstType second .assign :=
    firstType_upTo isAssign second
  have targetRead := read rounds (by simp only [List.length_cons]; omega)
  rw [<- follows] at targetRead
  rw [List.cons_append]
  apply takes_ofExpression starts
  · rw [firstType_append, follows]
    exact notLabel
  rw [<- List.cons_append]
  unfold parseAssignmentOrRoutineCall
  refine .bind targetRead ?_
  change Takes (match (some tree : Option Expression) with
    | none => _ | some (.functionCall _ _) => _ | some _ => _) _ _ _
  rw [parseAssignmentOrRoutineCall_notCall notCall]
  unfold parseAssignment
  refine .upTo isAssign (targetsRead rounds rounds (by omega) (by omega)) ?_
  refine .consume isAssign noConfusion ?_
  refine .last (valuesRead rounds rounds (by omega) (by omega)) ?_
  have same : (some tree :: targets.map some).length = (values.map some).length := by
    simpa using count
  rw [if_pos same]
  exact .pure

theorem reads_binding {equal : Token} {names : List (List Char)} {values : List Expression}
    (isWord : isLet token.type)
    (namesRead : ReadsPhrase rounding (.names names) first .equal) (isEqual : equal.type = .equal)
    (valuesRead : ReadsPhrase rounding (.expressions values) second next)
    (count : names.length = values.length) :
    ReadsPhrase rounding
      (.binding (.letDeclaration names (values.map some) (token.type == .fletKeyword)))
      (token :: (first ++ equal :: second)) next := by
  intro rounds enough
  simp only [List.length_cons, List.length_append] at enough
  have isKeyword : token.type =
      if token.type == .fletKeyword then .fletKeyword else .letKeyword := by
    rcases isWord with isType | isType <;> rw [isType] <;> rfl
  have notEnd : (if token.type == .fletKeyword then TokenType.fletKeyword
      else .letKeyword) ≠ .eof := by
    split <;> exact noConfusion
  unfold parseLetStatement
  refine .still (.checks noConfusion) (.consume isKeyword notEnd ?_)
  refine .upTo isEqual (namesRead _ rounds (by omega)) (.consume isEqual noConfusion ?_)
  refine .last (valuesRead rounds rounds (by omega) (by omega)) ?_
  have same : names.length = (values.map some).length := by
    simpa using count
  rw [if_pos same]
  exact .pure

end Statements

section Blocks

variable {rounding : Rounding} {first second rest tokens : List Token}
  {token : Token} {next : TokenType}

/-- The test for the end of a block at its end. -/
theorem facing_closed (state : ParserState) (previous : Token) {behind : List Token}
    (follows : nextType behind = .rightBrace) :
    (state.facing previous ([] ++ behind)).check .rightBrace = true := by
  rw [facing_check, List.nil_append, follows]
  rfl

theorem reads_noItems : ReadsPhrase rounding (.items ⟨[], []⟩) [] .rightBrace := by
  intro rounds remaining enough more
  cases remaining with
  | zero => omega
  | succ remaining =>
      unfold blockLoop
      apply Takes.look
      intro state previous behind clean follows
      rw [facing_closed state previous follows]
      exact .pure

/-- The test for the end of a block in front of one of its items. -/
theorem facing_notClosed (state : ParserState) (previous : Token) (tokens : List Token)
    (notBrace : token.type ≠ .rightBrace) (notEnd : token.type ≠ .eof) :
    ((state.facing previous (token :: tokens)).check .rightBrace ||
      (state.facing previous (token :: tokens)).isAtEnd) = false := by
  rw [facing_check_other state previous (token :: tokens) notBrace, facing_isAtEnd,
    Bool.false_or]
  exact beq_false_of_ne notEnd

/-- The test for a `LET` in front of an item. -/
theorem facing_isLet (state : ParserState) (previous : Token) (tokens : List Token) :
    ((state.facing previous (token :: tokens)).check .letKeyword ||
      (state.facing previous (token :: tokens)).check .fletKeyword) =
      (token.type == .letKeyword || token.type == .fletKeyword) := by
  rw [facing_check, facing_check, nextType_cons]
  by_cases isEnd : token.type = .eof
  · rw [isEnd]
    rfl
  · have goesOn : (token.type != .eof) = true := bne_iff_ne.mpr isEnd
    rw [goesOn, Bool.true_and, Bool.true_and]

theorem isLet.facts {type : TokenType} (isWord : isLet type) :
    type ≠ .rightBrace ∧ type ≠ .eof ∧ (type == .letKeyword || type == .fletKeyword) = true := by
  rcases isWord with rfl | rfl <;> exact ⟨noConfusion, noConfusion, rfl⟩

theorem opensDefinitions.facts {type : TokenType} (isWord : opensDefinitions type) :
    type ≠ .rightBrace ∧ type ≠ .eof ∧
      (type == .letKeyword || type == .fletKeyword) = false ∧ isDeclarationStart type = true := by
  rcases isWord with rfl | rfl | rfl <;> exact ⟨noConfusion, noConfusion, rfl, rfl⟩

theorem reads_bindingItem {tree : Statement} {items : BlockItems}
    (isWord : isLet token.type)
    (binding : ReadsPhrase rounding (.binding tree) (token :: tokens) (firstType rest .rightBrace))
    (others : ReadsPhrase rounding (.items items) rest .rightBrace) :
    ReadsPhrase rounding (.items { items with statements := some tree :: items.statements })
      (token :: (tokens ++ rest)) .rightBrace := by
  intro rounds remaining enough more
  simp only [List.length_cons, List.length_append] at enough more
  cases remaining with
  | zero => omega
  | succ remaining =>
      rcases isWord.facts with ⟨notBrace, notEnd, isBinding⟩
      unfold blockLoop
      apply Takes.look
      intro state previous behind clean follows
      rw [List.cons_append, facing_notClosed state previous _ notBrace notEnd, facing_isLet,
        isBinding]
      have read := binding rounds (by simp only [List.length_cons]; omega)
      exact .bind read (.last (others rounds remaining (by omega) (by omega)) .pure)

/-- A function that nothing is observed of. -/
theorem observed_none {Value : Type} (place : Place) (function : Parse Value) :
    observed place (fun _ => false) function = function := by
  funext state
  unfold observed
  rw [if_neg Bool.false_ne_true]

theorem reads_definitionItem {tree : Declaration} {items : BlockItems}
    (isWord : opensDefinitions token.type)
    (definition : ReadsPhrase rounding (.definition tree) (token :: tokens)
      (firstType rest .rightBrace))
    (others : ReadsPhrase rounding (.items items) rest .rightBrace) :
    ReadsPhrase rounding (.items { items with declarations := some tree :: items.declarations })
      (token :: (tokens ++ rest)) .rightBrace := by
  intro rounds remaining enough more
  simp only [List.length_cons, List.length_append] at enough more
  cases remaining with
  | zero => omega
  | succ remaining =>
      rcases isWord.facts with ⟨notBrace, notEnd, noBinding, isDefinition⟩
      unfold blockLoop
      apply Takes.look
      intro state previous behind clean follows
      rw [List.cons_append, facing_notClosed state previous _ notBrace notEnd, facing_isLet,
        noBinding, facing_current_cons, isDefinition]
      cases rounds with
      | zero => omega
      | succ rounds =>
          have read := definition rounds (by simp only [List.length_cons]; omega)
          rw [<- observed_none .blockDeclaration
            (parseDeclaration (level rounding rounds) rounds)] at read
          exact .bind read (.last (others (rounds + 1) remaining (by omega) (by omega)) .pure)

theorem reads_statementItem {tree : Statement} {items : BlockItems}
    (starts : beginsStatement token.type = true)
    (statement : ReadsPhrase rounding (.statement tree) (token :: tokens)
      (firstType rest .rightBrace))
    (others : ReadsPhrase rounding (.items items) rest .rightBrace) :
    ReadsPhrase rounding (.items { items with statements := some tree :: items.statements })
      (token :: (tokens ++ rest)) .rightBrace := by
  intro rounds remaining enough more
  simp only [List.length_cons, List.length_append] at enough more
  cases remaining with
  | zero => omega
  | succ remaining =>
      have noBinding : (token.type == .letKeyword || token.type == .fletKeyword) = false := by
        rw [beq_false_of_ne (ne_of_starts starts rfl),
          beq_false_of_ne (ne_of_starts starts rfl)]
        rfl
      have noDefinition : isDeclarationStart token.type = false := by
        by_contra isDefinition
        rw [Bool.not_eq_false] at isDefinition
        revert isDefinition
        unfold isDeclarationStart
        split <;> rename_i isType <;> intro isDefinition
        all_goals first | exact ne_of_starts starts rfl isType | cases isDefinition
      unfold blockLoop
      apply Takes.look
      intro state previous behind clean follows
      rw [List.cons_append, facing_notClosed state previous _ (ne_of_starts starts rfl)
        (ne_of_starts starts rfl), facing_isLet, noBinding, facing_current_cons, noDefinition]
      have read := statement rounds (by simp only [List.length_cons]; omega)
      exact .bind read (.last (others rounds remaining (by omega) (by omega)) .pure)

theorem reads_block {opening closing : Token} {items : BlockItems}
    (opens : opening.type = .leftBrace)
    (read : ReadsPhrase rounding (.items items) tokens .rightBrace)
    (closes : closing.type = .rightBrace) :
    ReadsPhrase rounding (.simple items.tree) (opening :: (tokens ++ [closing])) next := by
  intro rounds enough
  simp only [List.length_cons, List.length_append, List.length_nil] at enough
  unfold parsePrimaryStatement
  apply Takes.look
  intro state previous behind clean follows
  have noLabel : (state.facing previous (opening :: (tokens ++ [closing]) ++ behind)).check
      .identifier = false := facing_check_other state previous _ (opens.trans_ne noConfusion)
  have isBlock : (state.facing previous (opening :: (tokens ++ [closing]) ++ behind)).check
      .leftBrace = true := facing_check_self state previous opening _ opens noConfusion
  rw [noLabel, isBlock]
  change Takes (parseBlockOrCompoundStatement (level rounding rounds) rounds) _ _ _
  unfold parseBlockOrCompoundStatement
  refine .consume opens noConfusion ?_
  refine .upTo closes (read rounds rounds (by omega) (by omega)) (.consume closes noConfusion ?_)
  unfold BlockItems.tree
  by_cases empty : items.declarations.isEmpty = true
  · rw [if_pos empty, if_pos empty]
    exact .pure
  · rw [if_neg empty, if_neg empty]
    exact .pure

theorem reads_noCases {items : SwitchItems} :
    ReadsPhrase rounding (.cases items items) [] .rightBrace := by
  intro rounds remaining enough more
  cases remaining with
  | zero => omega
  | succ remaining =>
      unfold switchLoop
      apply Takes.look
      intro state previous behind clean follows
      rw [facing_closed state previous follows]
      exact .pure

theorem reads_case {colon : Token} {constant : Expression} {command : Statement}
    {items after : SwitchItems} (isCase : token.type = .caseKeyword)
    (constants : ReadsPhrase rounding (.expression 0 constant) first .colon)
    (isColon : colon.type = .colon)
    (commands : ReadsPhrase rounding (.statement command) second (firstType rest .rightBrace))
    (others : ReadsPhrase rounding
      (.cases { items with cases := items.cases ++ [.mk (some constant) command] } after)
      rest .rightBrace) :
    ReadsPhrase rounding (.cases items after)
      (token :: (first ++ colon :: (second ++ rest))) .rightBrace := by
  intro rounds remaining enough more
  simp only [List.length_cons, List.length_append] at enough more
  cases remaining with
  | zero => omega
  | succ remaining =>
      unfold switchLoop
      apply Takes.look
      intro state previous behind clean follows
      rw [List.cons_append, facing_notClosed state previous _ (isCase.trans_ne noConfusion)
        (isCase.trans_ne noConfusion), facing_check_self state previous token _ isCase noConfusion]
      refine .cons .advance ?_
      have read : Takes (parseCase (level rounding rounds)) (first ++ colon :: second)
          (firstType rest .rightBrace) (some (.mk (some constant) command)) := by
        unfold parseCase
        refine .upTo isColon (constants rounds (by omega)) (.consume isColon noConfusion ?_)
        exact .last (commands rounds (by omega)) .pure
      rw [<- List.cons_append, <- List.append_assoc]
      exact .bind read (others rounds remaining (by omega) (by omega))

theorem reads_defaultCase {colon : Token} {command : Statement} {items after : SwitchItems}
    (isDefault : token.type = .defaultKeyword) (isColon : colon.type = .colon)
    (isFirst : items.defaultCase = none)
    (commands : ReadsPhrase rounding (.statement command) first (firstType rest .rightBrace))
    (others : ReadsPhrase rounding (.cases { items with defaultCase := some command } after) rest
      .rightBrace) :
    ReadsPhrase rounding (.cases items after) (token :: colon :: (first ++ rest)) .rightBrace := by
  intro rounds remaining enough more
  simp only [List.length_cons, List.length_append] at enough more
  cases remaining with
  | zero => omega
  | succ remaining =>
      unfold switchLoop
      apply Takes.look
      intro state previous behind clean follows
      rw [List.cons_append, facing_notClosed state previous _ (isDefault.trans_ne noConfusion)
        (isDefault.trans_ne noConfusion),
        facing_check_other state previous (token :: _) (isDefault.trans_ne noConfusion),
        facing_check_self state previous token _ isDefault noConfusion, isFirst]
      refine .cons .advance ?_
      have read : Takes (parseDefault (level rounding rounds) false) (colon :: first)
          (firstType rest .rightBrace) (some command) := by
        unfold parseDefault
        exact .consume isColon noConfusion (.still .pure (commands rounds (by omega)))
      exact .bind read (others rounds remaining (by omega) (by omega))

theorem reads_switchon {intoWord opening closing : Token} {tree : Expression}
    {items : SwitchItems} (isSwitch : token.type = .switchonKeyword)
    (read : ReadsPhrase rounding (.expression 0 tree) first .intoKeyword)
    (isInto : intoWord.type = .intoKeyword) (opens : opening.type = .leftBrace)
    (casesRead : ReadsPhrase rounding (.cases ⟨[], none⟩ items) second .rightBrace)
    (closes : closing.type = .rightBrace) :
    ReadsPhrase rounding (.simple (.switchon (some tree) items.cases items.defaultCase))
      (token :: (first ++ intoWord :: opening :: (second ++ [closing]))) next := by
  intro rounds enough
  simp only [List.length_cons, List.length_append] at enough
  apply takes_keywordOf isSwitch noConfusion noConfusion
  change Takes (parseSwitchonStatement (level rounding rounds) rounds) _ _ _
  unfold parseSwitchonStatement
  refine .consume isSwitch noConfusion (.upTo isInto (read rounds (by omega)) ?_)
  refine .consume isInto noConfusion (.consume opens noConfusion ?_)
  exact .upTo closes (casesRead rounds rounds (by omega) (by omega)) (.closing closes noConfusion)

end Blocks

end Parsing
end NewBcpl
