import NewBcpl.Parsing.SpelledStatements

namespace NewBcpl
namespace Parsing

open Parse
open TokenType (noConfusion)

/-!
# The parser on spelled programs

The rules of the concrete syntax for declarations and programs, and what the parser
does in front of any phrase, by induction on how it is spelled.
-/

section Names

variable {rounding : Rounding} {rest tokens : List Token} {token : Token}
  {next : TokenType}

theorem reads_lastName (isName : token.type = .identifier) (ends : next ≠ .comma) :
    ReadsPhrase rounding (.names [token.value]) [token] next := by
  intro message remaining more
  cases remaining with
  | zero => simp at more
  | succ remaining => exact repeated_last (.parseName isName) (.unmatched ends) remaining

theorem reads_moreNames {comma : Token} {names : List (List Char)}
    (isName : token.type = .identifier) (separates : comma.type = .comma)
    (others : ReadsPhrase rounding (.names names) rest next) :
    ReadsPhrase rounding (.names (token.value :: names)) (token :: comma :: rest) next := by
  intro message remaining more
  simp only [List.length_cons] at more
  cases remaining with
  | zero => omega
  | succ remaining =>
      have read : Takes (parseName message) [token] comma.type token.value := .parseName isName
      exact repeated_more read (.matched separates noConfusion)
        (others message remaining (by omega))

/-- The names behind the first one. -/
theorem Spells.furtherNames {names : List (List Char)}
    (spelled : Spells rounding (.names names) tokens next) :
    exists token others further, tokens = token :: others ∧ token.type = .identifier ∧
      names = token.value :: further ∧
      (firstType others next = .comma ∨ others = [] ∧ next ≠ .comma) ∧
      forall remaining, others.length < remaining ->
        Takes (parseFurtherNames remaining) others next further := by
  generalize isNames : Phrase.names names = phrase at spelled
  induction spelled generalizing names with
  | @lastName token next isName ends =>
      rcases isNames with ⟨⟩
      refine ⟨token, [], [], rfl, isName, rfl, Or.inr ⟨rfl, ends⟩, ?_⟩
      intro remaining more
      cases remaining with
      | zero => omega
      | succ remaining => exact .last (.unmatched ends) .pure
  | @moreNames token comma names rest next isName separates spelled hypothesis =>
      rcases isNames with ⟨⟩
      rcases hypothesis rfl with
        ⟨second, others, further, same, isSecond, sameNames, shape, taken⟩
      refine ⟨token, comma :: rest, names, rfl, isName, rfl, Or.inl separates, ?_⟩
      intro remaining more
      subst same
      subst sameNames
      simp only [List.length_cons] at more
      cases remaining with
      | zero => omega
      | succ remaining =>
          exact .cons (.matched separates noConfusion)
            (.cons (.parseName isSecond) (.last (taken remaining (by omega)) .pure))
  | _ => cases isNames

end Names

section Definitions

variable {rounding : Rounding} {first second rest tokens skipped : List Token}
  {token opening closing name equal : Token} {next : TokenType}

/-- A number whose conversion is known. -/
theorem takes_converted {Value : Type} {conversion : List Char -> Except Escape Int}
    {offset : Int} {after : Int -> Parse Value} {value : Value}
    (converts : conversion token.value = .ok offset)
    (goesOn : Takes (after offset) (token :: rest) next value) :
    Takes (convertCurrent conversion >>= after) (token :: rest) next value := by
  intro state previous behind clean follows legible readable
  have converted : convertCurrent conversion
      (state.facing previous (token :: rest ++ behind)) =
        .done offset (state.facing previous (token :: rest ++ behind)) := by
    unfold convertCurrent
    rw [bind_done (show look _ = _ from rfl), List.cons_append, facing_current_cons, converts]
    rfl
  rw [bind_done converted]
  exact goesOn state previous behind clean follows legible readable

theorem takes_global {colon number : Token} {offset : Int}
    (isName : name.type = .identifier) (isColon : colon.type = .colon)
    (isNumber : number.type = .numberLiteral) (converts : stoi number.value = .ok offset) :
    Takes parseGlobal [name, colon, number] next (name.value, offset) := by
  unfold parseGlobal
  refine .cons (.parseName isName) (.consume isColon noConfusion ?_)
  exact takes_converted converts (.closing isNumber noConfusion)

theorem reads_lastGlobal {colon number : Token} {offset : Int}
    (isName : name.type = .identifier) (isColon : colon.type = .colon)
    (isNumber : number.type = .numberLiteral) (converts : stoi number.value = .ok offset)
    (notSemicolon : next ≠ .semicolon) (notComma : next ≠ .comma) :
    ReadsPhrase rounding (.globals [(name.value, offset)]) [name, colon, number] next := by
  intro remaining more
  cases remaining with
  | zero => simp at more
  | succ remaining =>
      refine repeated_last (takes_global isName isColon isNumber converts) ?_ remaining
      exact .last (.unmatched notSemicolon) (.unmatched notComma)

/-- A semicolon or a comma between two definitions. -/
theorem takes_separator
    (separates : token.type = .semicolon ∨ token.type = .comma) :
    Takes matchSeparator [token] next true := by
  unfold matchSeparator
  rcases separates with isSemicolon | isComma
  · exact .last (.matched isSemicolon noConfusion) .pure
  · exact .passes isComma noConfusion (.matched isComma noConfusion)

theorem reads_moreGlobals {colon number separator : Token} {offset : Int}
    {globals : List (List Char × Int)} (isName : name.type = .identifier)
    (isColon : colon.type = .colon) (isNumber : number.type = .numberLiteral)
    (converts : stoi number.value = .ok offset)
    (separates : separator.type = .semicolon ∨ separator.type = .comma)
    (others : ReadsPhrase rounding (.globals globals) rest next) :
    ReadsPhrase rounding (.globals ((name.value, offset) :: globals))
      (name :: colon :: number :: separator :: rest) next := by
  intro remaining more
  simp only [List.length_cons] at more
  cases remaining with
  | zero => omega
  | succ remaining =>
      exact repeated_more (takes_global isName isColon isNumber converts)
        (takes_separator separates) (others remaining (by omega))

/-- A definition is no label. -/
theorem takes_declaration {rounds : Nat} {tree : Declaration} {type : TokenType}
    (isType : token.type = type) (notName : type ≠ .identifier)
    (read : Takes (match type with
      | .manifestKeyword => parseManifestDeclaration (level rounding rounds)
      | .staticKeyword => parseStaticDeclaration (level rounding rounds)
      | .globalKeyword => parseGlobalDeclaration rounds
      | _ => do
          error "Unknown or unexpected declaration type."
          pure none) (token :: tokens) next (some tree)) :
    Takes (parseDeclaration (level rounding rounds) rounds) (token :: tokens) next
      (some tree) := by
  subst isType
  unfold parseDeclaration
  apply Takes.look
  intro state previous behind clean follows
  have noName : (state.facing previous (token :: tokens ++ behind)).check .identifier =
      false := facing_check_other state previous _ notName
  rw [noName]
  exact read

theorem reads_globalBlock {globals : List (List Char × Int)}
    (isGlobal : token.type = .globalKeyword) (opens : opening.type = .leftBrace)
    (read : ReadsPhrase rounding (.globals globals) tokens .rightBrace)
    (closes : closing.type = .rightBrace) :
    ReadsPhrase rounding (.definition (.globalDeclaration globals))
      (token :: opening :: (tokens ++ [closing])) next := by
  intro rounds enough
  simp only [List.length_cons, List.length_append, List.length_nil] at enough
  apply takes_declaration isGlobal noConfusion
  change Takes (parseGlobalDeclaration rounds) _ _ _
  unfold parseGlobalDeclaration
  refine .consume isGlobal noConfusion (.consume opens noConfusion ?_)
  exact .upTo closes (read rounds (by omega)) (.closing closes noConfusion)

theorem takes_skipped (isSkipped : IsSkipped skipped) {remaining : Nat}
    (enough : skipped.length < remaining) :
    Takes (skipToBrace remaining) skipped .rightBrace () := by
  induction skipped generalizing remaining with
  | nil =>
      cases remaining with
      | zero => omega
      | succ remaining =>
          unfold skipToBrace
          apply Takes.look
          intro state previous behind clean follows
          rw [facing_closed state previous follows]
          exact .pure
  | cons token skipped hypothesis =>
      cases remaining with
      | zero => omega
      | succ remaining =>
          have rest : IsSkipped skipped := fun other member =>
            isSkipped other (List.mem_cons_of_mem _ member)
          have facts := isSkipped token (List.mem_cons_self ..)
          rw [List.length_cons] at enough
          unfold skipToBrace
          apply Takes.look
          intro state previous behind clean follows
          rw [List.cons_append, facing_notClosed state previous _ facts.1 facts.2.1]
          exact .cons .advance (hypothesis rest (by omega))

theorem level_skipToBrace (rounds : Nat) :
    (level rounding (rounds + 1)).skipToBrace = skipToBrace rounds :=
  observed_none .skipToBrace (skipToBrace rounds)

/-- The end of a block whose first definition is kept. -/
theorem takes_blockEnd {Value : Type} {rounds : Nat} {value : Value} (message : String)
    (isSkipped : IsSkipped skipped) (closes : closing.type = .rightBrace)
    (enough : skipped.length + 1 < rounds) :
    Takes ((level rounding rounds).skipToBrace >>= fun _ =>
      consume .rightBrace message >>= fun _ => pure value) (skipped ++ [closing]) next
      value := by
  cases rounds with
  | zero => omega
  | succ rounds =>
      rw [level_skipToBrace]
      exact .upTo closes (takes_skipped isSkipped (by omega)) (.closing closes noConfusion)

theorem reads_manifestBlock {number : Token} {value : Int}
    (isManifest : token.type = .manifestKeyword) (opens : opening.type = .leftBrace)
    (isName : name.type = .identifier) (isEqual : equal.type = .equal)
    (isNumber : number.type = .numberLiteral) (converts : stoll number.value = .ok value)
    (isSkipped : IsSkipped skipped) (closes : closing.type = .rightBrace) :
    ReadsPhrase rounding (.definition (.manifestDeclaration name.value value))
      (token :: opening :: name :: equal :: number :: (skipped ++ [closing])) next := by
  intro rounds enough
  simp only [List.length_cons, List.length_append, List.length_nil] at enough
  apply takes_declaration isManifest noConfusion
  change Takes (parseManifestDeclaration (level rounding rounds)) _ _ _
  unfold parseManifestDeclaration
  refine .consume isManifest noConfusion (.consume opens noConfusion ?_)
  refine .cons (.parseName isName) (.consume isEqual noConfusion ?_)
  refine takes_converted converts (.consume isNumber noConfusion ?_)
  exact takes_blockEnd _ isSkipped closes (by omega)

theorem reads_staticBlock {tree : Expression}
    (isStatic : token.type = .staticKeyword) (opens : opening.type = .leftBrace)
    (isName : name.type = .identifier) (isEqual : equal.type = .equal)
    (read : ReadsPhrase rounding (.expression 0 tree) tokens (firstType skipped .rightBrace))
    (isSkipped : IsSkipped skipped) (closes : closing.type = .rightBrace) :
    ReadsPhrase rounding (.definition (.staticDeclaration name.value (some tree)))
      (token :: opening :: name :: equal :: (tokens ++ (skipped ++ [closing]))) next := by
  intro rounds enough
  simp only [List.length_cons, List.length_append, List.length_nil] at enough
  apply takes_declaration isStatic noConfusion
  change Takes (parseStaticDeclaration (level rounding rounds)) _ _ _
  unfold parseStaticDeclaration
  have follows : firstType (skipped ++ [closing]) next = firstType skipped .rightBrace :=
    firstType_upTo closes skipped
  have initializer := read rounds (by omega)
  rw [<- follows] at initializer
  refine .consume isStatic noConfusion (.consume opens noConfusion ?_)
  refine .cons (.parseName isName) (.consume isEqual noConfusion ?_)
  exact .bind initializer (takes_blockEnd _ isSkipped closes (by omega))

end Definitions

section Declarations

variable {rounding : Rounding} {first second rest tokens : List Token}
  {token opening closing name equal : Token} {next : TokenType} {rounds : Nat}
  {tree : Declaration} {parameters : List (List Char)}

/-- A round of the loop of `parse_program` that reads a declaration. -/
theorem takes_round {body handler : Parse (List (Option Declaration) × Bool)}
    {result : List (Option Declaration) × Bool} (read : Takes body tokens next result) :
    Takes (tryCatch body handler) tokens next result := by
  intro state previous behind clean follows legible readable
  rcases read state previous behind clean follows legible readable with ⟨last, done⟩
  refine ⟨last, ?_⟩
  unfold tryCatch
  rw [done]

theorem reads_definition (isWord : opensDefinitions token.type)
    (read : ReadsPhrase rounding (.definition tree) (token :: tokens) next) :
    ReadsPhrase rounding (.declaration tree) (token :: tokens) next := by
  intro rounds enough
  apply takes_round
  apply Takes.look
  intro state previous behind clean follows
  rcases isWord.facts with ⟨_, _, noBinding, isDefinition⟩
  rw [List.cons_append, facing_isLet, noBinding, facing_current_cons, isDefinition]
  exact .last (read rounds (by omega)) .pure

/-- A round that reads a function, a routine or global variables. -/
theorem takes_toplevelLet (isWord : isLet token.type)
    (isName : name.type = .identifier)
    (read : Takes (check .leftParen >>= fun isFunction =>
      if isFunction then parseParameters rounds >>= fun params =>
        parseFunctionOrRoutineBody (level rounding rounds) name.value params
      else parseGlobalVariables (level rounding rounds) rounds
        (token.type == .fletKeyword) name.value) tokens next (some tree)) :
    Takes (programRound (level rounding rounds) rounds) (token :: name :: tokens) next
      ([some tree], true) := by
  apply takes_round
  apply Takes.look
  intro state previous behind clean follows
  rw [List.cons_append, facing_isLet, isWord.facts.2.2]
  refine .last ?_ .pure
  unfold parseToplevelLetDeclaration
  exact .still (.checks noConfusion) (.cons .advance (.cons (.parseName isName) read))

theorem takes_parameters
    (opens : opening.type = .leftParen)
    (read : ReadsPhrase rounding (.parameters parameters) first .rightParen)
    (closes : closing.type = .rightParen) (enough : first.length ≤ rounds) :
    Takes (parseParameters rounds) (opening :: (first ++ [closing])) next parameters := by
  unfold parseParameters
  refine .consume opens noConfusion ?_
  rcases read with ⟨none, empty⟩ | ⟨notClosed, names⟩
  · subst none empty
    exact .still (.checked closes noConfusion) (.still .pure (.closing closes noConfusion))
  · rw [<- firstType_upTo closes] at notClosed
    refine .still (.unchecked notClosed noConfusion) ?_
    exact .upTo closes (names _ rounds enough) (.closing closes noConfusion)

/-- A function or a routine: parameters and a body. -/
theorem reads_ofParameters {word : Token}
    (isWord : isLet token.type)
    (isName : name.type = .identifier) (opens : opening.type = .leftParen)
    (read : ReadsPhrase rounding (.parameters parameters) first .rightParen)
    (closes : closing.type = .rightParen) (enough : first.length ≤ rounds)
    (body : Takes (parseFunctionOrRoutineBody (level rounding rounds) name.value parameters)
      (word :: second) next (some tree)) :
    Takes (programRound (level rounding rounds) rounds)
      (token :: name :: opening :: (first ++ closing :: word :: second)) next
      ([some tree], true) := by
  refine takes_toplevelLet isWord isName ?_
  refine .still (.checked opens noConfusion) ?_
  have shape : opening :: (first ++ closing :: word :: second) =
      opening :: (first ++ [closing]) ++ word :: second := by
    simp
  rw [shape]
  exact .bind (takes_parameters opens read closes enough) body

theorem reads_function {tree : Expression}
    (isWord : isLet token.type) (isName : name.type = .identifier)
    (opens : opening.type = .leftParen)
    (read : ReadsPhrase rounding (.parameters parameters) first .rightParen)
    (closes : closing.type = .rightParen) (isEqual : equal.type = .equal)
    (body : ReadsPhrase rounding (.expression 0 tree) second next) :
    ReadsPhrase rounding (.declaration (.functionDeclaration name.value parameters (some tree)))
      (token :: name :: opening :: (first ++ closing :: equal :: second)) next := by
  intro rounds enough
  simp only [List.length_cons, List.length_append] at enough
  refine reads_ofParameters isWord isName opens read closes (by omega) ?_
  exact .cons (.matched isEqual noConfusion) (.last (body rounds (by omega)) .pure)

theorem reads_routine {be : Token} {tree : Statement}
    (isWord : isLet token.type) (isName : name.type = .identifier)
    (opens : opening.type = .leftParen)
    (read : ReadsPhrase rounding (.parameters parameters) first .rightParen)
    (closes : closing.type = .rightParen) (isBe : be.type = .beKeyword)
    (body : ReadsPhrase rounding (.statement tree) second next) :
    ReadsPhrase rounding (.declaration (.routineDeclaration name.value parameters (some tree)))
      (token :: name :: opening :: (first ++ closing :: be :: second)) next := by
  intro rounds enough
  simp only [List.length_cons, List.length_append] at enough
  refine reads_ofParameters isWord isName opens read closes (by omega) ?_
  refine .passes isBe noConfusion ?_
  exact .cons (.matched isBe noConfusion) (.last (body rounds (by omega)) .pure)

theorem reads_globalVariables {names : List (List Char)} {values : List Expression}
    (isWord : isLet token.type) (spelled : Spells rounding (.names names) first .equal)
    (isEqual : equal.type = .equal)
    (valuesRead : ReadsPhrase rounding (.expressions values) second next)
    (count : names.length = values.length) :
    ReadsPhrase rounding
      (.declaration (.globalVariableDeclaration names (values.map some)
        (token.type == .fletKeyword)))
      (token :: (first ++ equal :: second)) next := by
  intro rounds enough
  rcases spelled.furtherNames with ⟨name, others, further, same, isName, sameNames, shape, taken⟩
  subst same
  subst sameNames
  simp only [List.length_cons, List.length_append] at enough
  have notFunction : firstType (others ++ equal :: second) next ≠ .leftParen := by
    rw [firstType_upTo isEqual]
    rcases shape with isComma | ⟨empty, _⟩
    · rw [isComma]
      exact noConfusion
    · rw [empty]
      exact noConfusion
  refine takes_toplevelLet isWord isName ?_
  refine .still (.unchecked notFunction noConfusion) ?_
  change Takes (parseGlobalVariables (level rounding rounds) rounds
    (token.type == .fletKeyword) name.value) _ _ _
  unfold parseGlobalVariables
  refine .upTo isEqual (taken rounds (by omega)) (.consume isEqual noConfusion ?_)
  refine .last (valuesRead rounds rounds (by omega) (by omega)) ?_
  have balanced : ¬ (name.value :: further).length ≠ (values.map some).length := by
    simpa using count
  rw [if_neg balanced]
  exact .still .pure .pure

theorem reads_noDeclarations : ReadsPhrase rounding (.declarations []) [] .eof := by
  intro rounds remaining enough more
  cases remaining with
  | zero => omega
  | succ remaining =>
      unfold programLoop
      apply Takes.look
      intro state previous behind clean follows
      rw [facing_isAtEnd, List.nil_append, follows]
      exact .pure

theorem reads_moreDeclarations {trees : List Declaration}
    (notEnd : token.type ≠ .eof)
    (read : ReadsPhrase rounding (.declaration tree) (token :: tokens) (firstType rest .eof))
    (others : ReadsPhrase rounding (.declarations trees) rest .eof) :
    ReadsPhrase rounding (.declarations (tree :: trees)) (token :: (tokens ++ rest)) .eof := by
  intro rounds remaining enough more
  simp only [List.length_cons, List.length_append] at enough more
  cases remaining with
  | zero => omega
  | succ remaining =>
      unfold programLoop
      apply Takes.look
      intro state previous behind clean follows
      have goesOn : (nextType (token :: (tokens ++ rest) ++ behind) == .eof) = false :=
        beq_false_of_ne notEnd
      rw [facing_isAtEnd, facing_fatal, clean, goesOn]
      have round := read rounds (by simp only [List.length_cons]; omega)
      exact .bind round (.last (others rounds remaining (by omega) (by omega)) .pure)

end Declarations

/-- An expression whose first token is a name goes on behind it with an operator. -/
theorem Spells.notLabel {rounding : Rounding} {tokens : List Token} {next : TokenType}
    {precedence : Nat} {tree : Expression} {token : Token}
    (spelled : Spells rounding (.expression precedence tree) (token :: tokens) next)
    (isName : token.type = .identifier) :
    firstType tokens next ≠ .colon ∨ tokens = [] ∧ isCall tree = false := by
  generalize isTokens : token :: tokens = all at spelled
  cases spelled with
  | @expression precedence left tree first rest next operand further =>
      have single : first = [token] ∧ isCall left = false := by
        rcases operand.starts with ⟨start, others, same, starts⟩
        rw [same, List.cons_append] at isTokens
        rcases List.cons.inj isTokens with ⟨sameToken, _⟩
        subst sameToken
        cases operand with
        | atom isAtom =>
            rcases same with ⟨⟩
            unfold atomTree at isAtom
            rw [isName] at isAtom
            rcases Option.some.inj isAtom with rfl
            exact ⟨rfl, rfl⟩
        -- No other operand starts with a name.
        | _ =>
            rcases same with ⟨⟩
            simp_all [prefixOperator, Parsing.intrinsic, collectionTree, allocationTree,
              valofTree]
      rcases single with ⟨one, notCall⟩
      rw [one] at isTokens
      rcases List.cons.inj isTokens with ⟨_, sameRest⟩
      subst sameRest
      cases further with
      | noFurther ends => exact Or.inr ⟨rfl, notCall⟩
      | further binds operator further =>
          refine Or.inl fun isColon => ?_
          rw [firstType_cons] at isColon
          rw [isColon] at binds
          exact absurd binds (Nat.not_lt_zero _)

/-- The parser reads every phrase as it is spelled. The induction is on the spelling; the
rounds that a part needs are fewer by two for each token in front of it. -/
theorem Spells.reads {rounding : Rounding} {phrase : Phrase} {tokens : List Token}
    {next : TokenType} (spelled : Spells rounding phrase tokens next) :
    ReadsPhrase rounding phrase tokens next := by
  induction spelled with
  | expression operand further operandReads furtherReads =>
      rcases operand.starts with ⟨token, others, same, _⟩
      exact reads_expression (by rw [same]; exact List.cons_ne_nil _ _) operandReads furtherReads
  | atom isAtom => exact reads_atom isAtom
  | number => apply reads_number <;> assumption
  | prefixed => apply reads_prefixed <;> assumption
  | intrinsic => apply reads_intrinsic <;> assumption
  | collection => apply reads_collection <;> assumption
  | allocation => apply reads_allocation <;> assumption
  | group => apply reads_group <;> assumption
  | valof => apply reads_valof <;> assumption
  | noFurther ends => exact reads_noFurther ends
  | further => apply reads_further <;> assumption
  | call => apply reads_call <;> assumption
  | index => apply reads_index <;> assumption
  | bitfield => apply reads_bitfield <;> assumption
  | conditional => apply reads_conditional <;> assumption
  | binary => apply reads_binary <;> assumption
  | lastExpression tree ends reads =>
      rcases tree.starts with ⟨token, others, same, _⟩
      exact reads_lastExpression (by rw [same]; exact List.cons_ne_nil _ _) reads ends
  | moreExpressions => apply reads_moreExpressions <;> assumption
  | noArguments => exact Or.inl ⟨rfl, rfl⟩
  | someArguments trees reads =>
      rcases trees.starts with ⟨token, others, rfl, starts⟩
      exact Or.inr ⟨ne_of_starts starts rfl, reads⟩
  | lastName isName ends => exact reads_lastName isName ends
  | moreNames => apply reads_moreNames <;> assumption
  | noParameters => exact Or.inl ⟨rfl, rfl⟩
  | someParameters names reads =>
      rcases names.starts with ⟨token, others, rfl, isName⟩
      exact Or.inr ⟨isName.trans_ne noConfusion, reads⟩
  | noTargets ends => exact reads_noTargets ends
  | moreTargets => apply reads_moreTargets <;> assumption
  | statement simple ends reads => exact reads_statement reads ends
  | repeated => apply reads_repeated <;> assumption
  | repeatedWith => apply reads_repeatedWith <;> assumption
  | label isName isColon => exact reads_label isName isColon
  | block => apply reads_block <;> assumption
  | keyword isKeyword => exact reads_keyword isKeyword
  | keywordExpression => apply reads_keywordExpression <;> assumption
  | branch => apply reads_branch <;> assumption
  | test => apply reads_test <;> assumption
  | testElse => apply reads_testElse <;> assumption
  | whileLoop => apply reads_whileLoop <;> assumption
  | untilLoop => apply reads_untilLoop <;> assumption
  | forLoop => apply reads_forLoop <;> assumption
  | forLoopBy => apply reads_forLoopBy <;> assumption
  | forEach => apply reads_forEach <;> assumption
  | forEachTyped => apply reads_forEachTyped <;> assumption
  | switchon => apply reads_switchon <;> assumption
  | routineCall call reads =>
      rcases call.starts with ⟨token, others, rfl, starts⟩
      refine reads_routineCall starts (fun isName => ?_) reads
      rcases call.notLabel isName with apart | ⟨_, notCall⟩
      · exact apart
      · cases notCall
  | @assignment assign tree targets values first second third next notCall target others
      isAssign values count targetReads othersRead valuesRead =>
      rcases target.starts with ⟨token, firstTokens, rfl, starts⟩
      refine reads_assignment starts notCall (fun isName => ?_) targetReads othersRead isAssign
        valuesRead count
      rcases target.notLabel isName with apart | ⟨empty, _⟩
      · exact apart
      · rw [empty]
        cases others with
        | noTargets ends => exact noConfusion
        | moreTargets separates tree trees => exact separates.trans_ne noConfusion
  | binding => apply reads_binding <;> assumption
  | noItems => exact reads_noItems
  | bindingItem binding items bindingReads itemsRead =>
      rcases binding.starts with ⟨token, others, rfl, isWord⟩
      exact reads_bindingItem isWord bindingReads itemsRead
  | definitionItem definition items definitionReads itemsRead =>
      rcases definition.starts with ⟨token, others, rfl, isWord⟩
      exact reads_definitionItem isWord definitionReads itemsRead
  | statementItem statement items statementReads itemsRead =>
      rcases statement.starts with ⟨token, others, rfl, starts⟩
      exact reads_statementItem starts statementReads itemsRead
  | noCases => exact reads_noCases
  | case => apply reads_case <;> assumption
  | defaultCase => apply reads_defaultCase <;> assumption
  | lastGlobal => apply reads_lastGlobal <;> assumption
  | moreGlobals => apply reads_moreGlobals <;> assumption
  | globalBlock => apply reads_globalBlock <;> assumption
  | manifestBlock => apply reads_manifestBlock <;> assumption
  | staticBlock => apply reads_staticBlock <;> assumption
  | definition definition reads =>
      rcases definition.starts with ⟨token, others, rfl, isWord⟩
      exact reads_definition isWord reads
  | function => apply reads_function <;> assumption
  | routine => apply reads_routine <;> assumption
  | globalVariables => apply reads_globalVariables <;> assumption
  | noDeclarations => exact reads_noDeclarations
  | moreDeclarations declaration declarations declarationReads declarationsRead =>
      rcases declaration.starts with ⟨token, others, rfl, isWord⟩
      have notEnd : token.type ≠ .eof :=
        isWord.elim (fun isLet => isLet.facts.2.1) fun isDefinition => isDefinition.facts.2.1
      exact reads_moreDeclarations notEnd declarationReads declarationsRead

end Parsing
end NewBcpl
