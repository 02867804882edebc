import NewBcpl.Foundations.Digits
import NewBcpl.LocalOptimization.HiddenVariables
import NewBcpl.LocalOptimization.SafeBlocks

namespace NewBcpl
namespace LocalOptimization

open Foundations.PartialState

/-!
# The rewritten block does what the original does

The two executions run side by side. Their states differ at most in the temporaries,
and every available temporary holds the value that its expression still has, as long as
no step since its computation has changed that value. A right-hand side that stays
where it is changes places with the declarations that later ones of its assignment put
in front of it.
-/

section Tracking

variable (floatText : Float -> String) (language : Language) (kinds hidden : String -> Bool)

/-- A temporary holds the value of an expression that was computed under its string, if
nothing has changed that value since. -/
inductive Held (counter : Nat) (done : List Step) (original image : State)
    (text temporary : String) : Prop where
  | intro (number : Nat) (before between : List Step) (first : Expression)
      (older : number < counter) (named : temporary = tempVarName number)
      (split : done = before ++ .compute first :: between)
      (binary : isBinaryOp first = true)
      (sameText : expressionToString floatText first = text)
      (survived : forall step, step ∈ between -> step.kills text = false)
      (held : Quiet (language.evaluate first) ->
        (forall step, step ∈ between -> step.Keeps language first) ->
          valueIn language first original =
            some { isReal := kinds temporary, bits := image.environment temporary })

/-- The states of the two executions after the same steps, with the state of the
pass. -/
structure Tracks (pass : PassState) (done : List Step) (original image : State) : Prop where
  covers : Covers hidden original image
  held : forall text temporary, (text, temporary) ∈ pass.availableExpressions ->
    Held floatText language kinds pass.tempVarCounter done original image text temporary

end Tracking

section Simulation

variable {floatText : Float -> String} {counts : String -> Nat} {language : Language}
  {kinds hidden : String -> Bool}

theorem Held.advance {counter laterCounter : Nat} {done : List Step}
    {original image final imageFinal : State} {text temporary : String} {step : Step}
    (held : Held floatText language kinds counter done original image text temporary)
    (laterLe : counter ≤ laterCounter) (survives : step.kills text = false)
    (keeps : forall expression, step.Keeps language expression ->
      valueIn language expression final = valueIn language expression original)
    (unchanged : forall number, number < counter ->
      imageFinal.environment (tempVarName number) = image.environment (tempVarName number)) :
    Held floatText language kinds laterCounter (done ++ [step]) final imageFinal text
      temporary := by
  rcases held with
    ⟨number, before, between, first, older, named, split, binary, sameText, survived, value⟩
  refine .intro number before (between ++ [step]) first (Nat.lt_of_lt_of_le older laterLe)
    named ?_ binary sameText ?_ ?_
  · rw [split]
    simp
  · intro other member
    rcases List.mem_append.mp member with old | new
    · exact survived other old
    · rw [List.mem_singleton.mp new]
      exact survives
  · intro quiet kept
    have valueBefore := value quiet fun other member =>
      kept other (List.mem_append_left _ member)
    have keptLast := kept step (List.mem_append_right _ List.mem_cons_self)
    rw [keeps first keptLast, valueBefore, named, unchanged number older]

/-- One more step of both executions, of which the pass keeps no more than survives. -/
theorem Tracks.advance {pass later : PassState} {done : List Step}
    {original image final imageFinal : State} {step : Step}
    (tracks : Tracks floatText language kinds hidden pass done original image)
    (covers : Covers hidden final imageFinal)
    (laterLe : pass.tempVarCounter ≤ later.tempVarCounter)
    (survives : forall text temporary, (text, temporary) ∈ later.availableExpressions ->
      (text, temporary) ∈ pass.availableExpressions ∧ step.kills text = false)
    (keeps : forall expression, step.Keeps language expression ->
      valueIn language expression final = valueIn language expression original)
    (unchanged : forall number, number < pass.tempVarCounter ->
      imageFinal.environment (tempVarName number) = image.environment (tempVarName number)) :
    Tracks floatText language kinds hidden later (done ++ [step]) final imageFinal where
  covers := covers
  held := fun text temporary member =>
    (tracks.held text temporary (survives text temporary member).1).advance laterLe
      (survives text temporary member).2 keeps unchanged

/-- A step in which both executions run the same computation, and which leaves the
temporaries alone. -/
theorem Tracks.run {Result : Type} {pass later : PassState} {done : List Step}
    {original image : State} {step : Step} {run runImage : Run Result}
    (room : forall counter, hidden (tempVarName counter) = true)
    (tracks : Tracks floatText language kinds hidden pass done original image)
    (transports : Transports (State.cover hidden image.environment) run runImage)
    (laterLe : pass.tempVarCounter ≤ later.tempVarCounter)
    (survives : forall text temporary, (text, temporary) ∈ later.availableExpressions ->
      (text, temporary) ∈ pass.availableExpressions ∧ step.kills text = false)
    (keeps : forall expression, step.Keeps language expression ->
      KeepsValue language run expression) :
    EndsAlike (Tracks floatText language kinds hidden later (done ++ [step]))
      (run original) (runImage image) := by
  apply (tracks.covers.endsAlike transports).remember.weaken
  rintro final imageFinal ⟨⟨covers, unchanged⟩, result, runStep⟩
  apply tracks.advance covers laterLe survives
  · intro expression kept
    exact keeps expression kept original result final runStep
  · intro number _
    exact unchanged (tempVarName number) (room number)

/-! ## One right-hand side -/

theorem lookup_mem {entries : List (String × String)} {text temporary : String}
    (found : entries.lookup text = some temporary) : (text, temporary) ∈ entries := by
  rcases List.lookup_eq_some_iff.mp found with ⟨before, after, split, _⟩
  rw [split]
  exact List.mem_append_right before List.mem_cons_self

theorem execute_let (image : Language) (name : String) (expression : Expression) :
    image.execute (.letDeclaration [name] [expression]) =
      andThen (image.evaluate expression) fun value => image.assign name value := by
  funext state
  simp only [Language.execute, Language.evaluateAll, Language.storeAll, Language.store,
    List.map_cons, List.map_nil, andThen_assoc, give_andThen]
  rfl

theorem executeAll_append (image : Language) (first second : List Statement) :
    image.executeAll (first ++ second) =
      andThen (image.executeAll first) fun _ => image.executeAll second := by
  induction first with
  | nil =>
      change image.executeAll second = _
      rw [Language.executeAll, give_andThen]
  | cons statement first hypothesis =>
      simp only [List.cons_append, Language.executeAll, hypothesis, andThen_assoc]

theorem executeAll_singleton (image : Language) (statement : Statement) :
    image.executeAll [statement] = image.execute statement := by
  simp only [Language.executeAll]
  exact andThen_give (image.execute statement)

/-- What the pass does with a right-hand side: it reads an available temporary, it hoists
the expression, or it leaves it in its place. -/
theorem optimizeExpression_cases (pass : PassState) (expression : Expression) :
    (exists temporary,
      pass.availableExpressions.lookup (expressionToString floatText expression) =
        some temporary ∧
      optimizeExpression floatText counts pass expression =
        { inserted := [], item := .variableAccess temporary, state := pass }) ∨
    (isCommon floatText counts expression = true ∧
      optimizeExpression floatText counts pass expression =
        { inserted := [.letDeclaration [tempVarName pass.tempVarCounter] [expression]]
          item := .variableAccess (tempVarName pass.tempVarCounter)
          state := pass.hoist (expressionToString floatText expression)
            (inferExpressionType expression) }) ∨
    (isCommon floatText counts expression = false ∧
      optimizeExpression floatText counts pass expression =
        { inserted := [], item := expression, state := pass }) := by
  cases found : pass.availableExpressions.lookup (expressionToString floatText expression) with
  | some temporary =>
      refine Or.inl ⟨temporary, rfl, ?_⟩
      simp [optimizeExpression, found]
  | none =>
      cases common : isCommon floatText counts expression with
      | true =>
          refine Or.inr (Or.inl ⟨rfl, ?_⟩)
          simp [optimizeExpression, found, common]
      | false =>
          refine Or.inr (Or.inr ⟨rfl, ?_⟩)
          simp [optimizeExpression, found, common]

/-- The conditions under which one right-hand side is rewritten after the given
steps. -/
structure Fits (floatText : Float -> String) (counts : String -> Nat) (language : Language)
    (hidden : String -> Bool) (done : List Step) (expression : Expression) : Prop where
  avoids : Avoids hidden (expressionNames expression)
  typed : isCommon floatText counts expression = true -> Typed language expression
  reuses : forall before first between, done = before ++ .compute first :: between ->
    isBinaryOp first = true ->
      expressionToString floatText expression = expressionToString floatText first ->
        (forall step, step ∈ between ->
          step.kills (expressionToString floatText first) = false) ->
          Reusable language first expression between

theorem Tracks.reuse {pass : PassState} {done : List Step} {original image : State}
    {expression : Expression} {temporary : String}
    (tracks : Tracks floatText language kinds hidden pass done original image)
    (fits : Fits floatText counts language hidden done expression)
    (found : pass.availableExpressions.lookup (expressionToString floatText expression) =
      some temporary) :
    EndsAlike (Tracks floatText language kinds hidden pass (done ++ [.compute expression]))
      (language.evaluate expression original)
      ((language.withKinds kinds).load temporary image) := by
  rcases tracks.held _ _ (lookup_mem found) with
    ⟨number, before, between, first, older, named, split, binary, sameText, survived, value⟩
  have reusable : Reusable language first expression between := by
    apply fits.reuses before first between split binary sameText.symm
    rw [sameText]
    exact survived
  have holds := value reusable.quiet reusable.kept
  rw [reusable.sameValue]
  unfold valueIn at holds
  cases step : language.evaluate first original with
  | none =>
      rw [step] at holds
      cases holds
  | some outcome =>
      have unmoved : outcome.2 = original :=
        reusable.quiet original outcome.1 outcome.2 step
      rw [step, Option.map_some, Option.some.injEq] at holds
      refine ⟨holds.symm, ?_⟩
      rw [unmoved]
      exact tracks.advance tracks.covers (Nat.le_refl _)
        (fun text temporary member => ⟨member, rfl⟩) (fun _ _ => rfl) fun _ _ => rfl

theorem Covers.assign {original image : State} {name : String}
    (covers : Covers hidden original image) (covered : hidden name = true) (bits : Word) :
    Covers hidden original (image.assign name bits) := by
  rw [covers_iff] at covers ⊢
  refine ⟨?_, covers.2⟩
  intro other shown
  have different : other ≠ name := by
    intro equal
    rw [equal, covered] at shown
    cases shown
  rw [<- covers.1 other shown]
  exact if_neg different

theorem tempVarName_injective {first second : Nat}
    (equal : tempVarName first = tempVarName second) : first = second := by
  have lists := congrArg String.toList equal
  simp only [tempVarName, String.toList_append, List.append_cancel_left_eq] at lists
  exact Foundations.Digits.digits_injective lists

/-- The declaration of a temporary for an expression: both executions evaluate the
expression, and the temporary then holds its value. -/
theorem Tracks.hoist (room : forall counter, hidden (tempVarName counter) = true)
    (hides : language.Hides kinds hidden) {pass : PassState} {done : List Step}
    {original image : State} {expression : Expression}
    (tracks : Tracks floatText language kinds hidden pass done original image)
    (fits : Fits floatText counts language hidden done expression)
    (common : isCommon floatText counts expression = true)
    (declared : kinds (tempVarName pass.tempVarCounter) =
      decide (inferExpressionType expression = .float)) :
    EndsAlike
      (Tracks floatText language kinds hidden
        (pass.hoist (expressionToString floatText expression)
          (inferExpressionType expression)) (done ++ [.compute expression]))
      (language.evaluate expression original)
      (andThen ((language.withKinds kinds).evaluate expression)
        (fun value => andThen
          ((language.withKinds kinds).assign (tempVarName pass.tempVarCounter) value)
          fun _ => (language.withKinds kinds).load (tempVarName pass.tempVarCounter))
        image) := by
  have alike := tracks.covers.endsAlike
    (evaluate_transports hides expression fits.avoids)
  rw [<- andThen_give (language.evaluate expression)]
  apply alike.andThen
  rintro value final imageFinal step ⟨covers, unchanged⟩
  have kind : value.isReal = kinds (tempVarName pass.tempVarCounter) := by
    rw [declared]
    exact fits.typed common original value final step
  have binary : isBinaryOp expression = true := (Bool.and_eq_true_iff.mp common).1
  have bits : (language.withKinds kinds).convert
      (kinds (tempVarName pass.tempVarCounter)) value = value.bits := if_pos kind
  have assigned : andThen
      ((language.withKinds kinds).assign (tempVarName pass.tempVarCounter) value)
      (fun _ => (language.withKinds kinds).load (tempVarName pass.tempVarCounter))
      imageFinal = some (value,
        imageFinal.assign (tempVarName pass.tempVarCounter) value.bits) := by
    change some (Value.mk (kinds (tempVarName pass.tempVarCounter)) _, _) = _
    rw [show (language.withKinds kinds).isRealVariable = kinds from rfl, bits, <- kind]
    simp [State.assign]
  rw [assigned]
  refine ⟨rfl, ?_⟩
  constructor
  · exact covers.assign (room pass.tempVarCounter) value.bits
  · intro text temporary member
    rcases List.mem_cons.mp member with new | old
    · cases new
      refine .intro pass.tempVarCounter done [] expression (Nat.lt_succ_self _) rfl rfl binary
        rfl (fun _ member => absurd member List.not_mem_nil) ?_
      intro quiet _
      have unmoved : final = original := quiet original value final step
      unfold valueIn
      rw [unmoved, step, Option.map_some, <- kind]
      simp [State.assign]
    · apply (tracks.held text temporary old).advance (Nat.le_succ _) rfl
      · intro other kept
        exact kept original value final step
      · intro number older
        have different : tempVarName number ≠ tempVarName pass.tempVarCounter := by
          intro equal
          exact Nat.ne_of_lt older (tempVarName_injective equal)
        rw [<- unchanged (tempVarName number) (room number)]
        simp [State.assign, different]

/-- One right-hand side: the declaration in front of it and the expression in its place
together give its value. -/
theorem optimizeExpression_tracks (room : forall counter, hidden (tempVarName counter) = true)
    (hides : language.Hides kinds hidden) {pass : PassState} {done : List Step}
    {original image : State} {expression : Expression}
    (tracks : Tracks floatText language kinds hidden pass done original image)
    (fits : Fits floatText counts language hidden done expression)
    (declared : forall entry,
      entry ∈ (optimizeExpression floatText counts pass expression).state.symbols ->
        kinds entry.1 = decide (entry.2 = .float)) :
    EndsAlike
      (Tracks floatText language kinds hidden
        (optimizeExpression floatText counts pass expression).state
        (done ++ [.compute expression]))
      (language.evaluate expression original)
      (andThen
        ((language.withKinds kinds).executeAll
          (optimizeExpression floatText counts pass expression).inserted)
        (fun _ => (language.withKinds kinds).evaluate
          (optimizeExpression floatText counts pass expression).item) image) := by
  rcases @optimizeExpression_cases floatText counts pass expression with
    ⟨temporary, found, rewritten⟩ | ⟨common, rewritten⟩ | ⟨_, rewritten⟩
  · rw [rewritten]
    simp only [Language.executeAll, give_andThen, Language.evaluate]
    exact tracks.reuse fits found
  · rw [rewritten] at declared ⊢
    simp only [executeAll_singleton, execute_let, andThen_assoc, Language.evaluate]
    apply tracks.hoist room hides fits common
    apply declared (tempVarName pass.tempVarCounter, inferExpressionType expression)
    exact List.mem_append_right _ List.mem_cons_self
  · rw [rewritten]
    simp only [Language.executeAll, give_andThen]
    exact tracks.run room (evaluate_transports hides expression fits.avoids)
      (Nat.le_refl _) (fun text temporary member => ⟨member, rfl⟩) fun _ kept => kept

/-! ## The right-hand sides of an assignment -/

theorem optimizeExpression_counter (pass : PassState) (expression : Expression) :
    pass.tempVarCounter ≤
      (optimizeExpression floatText counts pass expression).state.tempVarCounter := by
  rcases @optimizeExpression_cases floatText counts pass expression with
    ⟨_, _, rewritten⟩ | ⟨_, rewritten⟩ | ⟨_, rewritten⟩
  · rw [rewritten]
  · rw [rewritten]
    exact Nat.le_succ _
  · rw [rewritten]

theorem optimizeExpression_symbols (pass : PassState) (expression : Expression) :
    pass.symbols ⊆ (optimizeExpression floatText counts pass expression).state.symbols := by
  rcases @optimizeExpression_cases floatText counts pass expression with
    ⟨_, _, rewritten⟩ | ⟨_, rewritten⟩ | ⟨_, rewritten⟩
  · rw [rewritten]
    exact List.Subset.refl _
  · rw [rewritten]
    exact List.subset_append_left _ _
  · rw [rewritten]
    exact List.Subset.refl _

theorem optimizeExpressions_symbols (pass : PassState) (rhs : List Expression) :
    pass.symbols ⊆ (optimizeExpressions floatText counts pass rhs).state.symbols := by
  induction rhs generalizing pass with
  | nil => exact List.Subset.refl _
  | cons expression rest hypothesis =>
      exact List.Subset.trans (optimizeExpression_symbols pass expression) (hypothesis _)

theorem invalidateTargets_symbols (pass : PassState) (targets : List Expression) :
    (pass.invalidateTargets targets).symbols = pass.symbols := by
  induction targets generalizing pass with
  | nil => rfl
  | cons target targets hypothesis =>
      cases target with
      | variableAccess name => exact hypothesis (pass.invalidate name)
      | _ => exact hypothesis pass

theorem optimizeStatement_symbols (pass : PassState) (statement : Statement) :
    pass.symbols ⊆ (optimizeStatement floatText counts pass statement).state.symbols := by
  cases statement with
  | assignment lhs rhs =>
      simp only [optimizeStatement, invalidateTargets_symbols]
      exact optimizeExpressions_symbols pass rhs
  | _ => exact List.Subset.refl _

theorem optimizeStatements_symbols (pass : PassState) (statements : List Statement) :
    pass.symbols ⊆ (optimizeStatements floatText counts pass statements).2.symbols := by
  induction statements generalizing pass with
  | nil => exact List.Subset.refl _
  | cons statement rest hypothesis =>
      exact List.Subset.trans (optimizeStatement_symbols pass statement) (hypothesis _)

/-- What the pass inserts in front of an assignment: declarations of new temporaries for
common right-hand sides. -/
inductive Inserted (floatText : Float -> String) (counts : String -> Nat) (counter : Nat)
    (rhs : List Expression) : Statement -> Prop where
  | declaration (number : Nat) (expression : Expression) (newer : counter ≤ number)
      (member : expression ∈ rhs) (common : isCommon floatText counts expression = true) :
      Inserted floatText counts counter rhs
        (.letDeclaration [tempVarName number] [expression])

theorem optimizeExpression_inserted (pass : PassState) (expression : Expression)
    {statement : Statement}
    (member : statement ∈ (optimizeExpression floatText counts pass expression).inserted) :
    Inserted floatText counts pass.tempVarCounter [expression] statement := by
  rcases @optimizeExpression_cases floatText counts pass expression with
    ⟨_, _, rewritten⟩ | ⟨common, rewritten⟩ | ⟨_, rewritten⟩
  · rw [rewritten] at member
    cases member
  · rw [rewritten, List.mem_singleton] at member
    rw [member]
    exact .declaration _ _ (Nat.le_refl _) List.mem_cons_self common
  · rw [rewritten] at member
    cases member

theorem optimizeExpressions_inserted (pass : PassState) (rhs : List Expression)
    {statement : Statement}
    (member : statement ∈ (optimizeExpressions floatText counts pass rhs).inserted) :
    Inserted floatText counts pass.tempVarCounter rhs statement := by
  induction rhs generalizing pass with
  | nil => cases member
  | cons expression rest hypothesis =>
      rcases List.mem_append.mp member with first | others
      · rcases optimizeExpression_inserted pass expression first with
          ⟨number, _, newer, isFirst, common⟩
        rw [List.mem_singleton.mp isFirst] at common ⊢
        exact .declaration number _ newer List.mem_cons_self common
      · rcases hypothesis _ others with ⟨number, found, newer, isRest, common⟩
        exact .declaration number found
          (Nat.le_trans (optimizeExpression_counter pass expression) newer)
          (List.mem_cons_of_mem _ isRest) common

theorem Commute.executeAll {Result : Type} {run : Run Result} {image : Language}
    {statements : List Statement}
    (commute : forall statement, statement ∈ statements ->
      Commute run (image.execute statement)) :
    Commute run (image.executeAll statements) := by
  induction statements with
  | nil => exact Commute.give ()
  | cons statement statements hypothesis =>
      apply (commute statement List.mem_cons_self).andThen
      intro _
      exact hypothesis fun other member => commute other (List.mem_cons_of_mem _ member)

theorem mem_expressionsNames {expression : Expression} {expressions : List Expression}
    (member : expression ∈ expressions) {name : String}
    (named : name ∈ expressionNames expression) : name ∈ expressionsNames expressions := by
  induction expressions with
  | nil => cases member
  | cons first rest hypothesis =>
      rw [expressionsNames, List.mem_append]
      rcases List.mem_cons.mp member with same | later
      · rw [<- same]
        exact Or.inl named
      · exact Or.inr (hypothesis later)

/-- Reading a temporary commutes with the declarations of newer ones. -/
theorem load_commutes (room : forall counter, hidden (tempVarName counter) = true)
    (hides : language.Hides kinds hidden) {number counter : Nat} (older : number < counter)
    {rhs : List Expression} (avoids : Avoids hidden (expressionsNames rhs))
    {statement : Statement} (inserted : Inserted floatText counts counter rhs statement) :
    Commute ((language.withKinds kinds).load (tempVarName number))
      ((language.withKinds kinds).execute statement) := by
  rcases inserted with ⟨newNumber, expression, newer, member, common⟩
  rw [execute_let]
  have blind : Blind hidden ((language.withKinds kinds).evaluate expression) :=
    evaluate_blind hides fun name named => avoids name (mem_expressionsNames member named)
  apply (blind.load_commute (language.withKinds kinds) (room number)).andThen
  intro value
  apply load_commute_assign
  intro equal
  exact Nat.ne_of_lt (Nat.lt_of_lt_of_le older newer) (tempVarName_injective equal)

/-- An expression that commutes with the common right-hand sides commutes with their
declarations. -/
theorem evaluate_commutes (room : forall counter, hidden (tempVarName counter) = true)
    (hides : language.Hides kinds hidden) {earlier : Expression}
    (avoidsEarlier : Avoids hidden (expressionNames earlier)) {counter : Nat}
    {rhs : List Expression} (avoids : Avoids hidden (expressionsNames rhs))
    (commutes : forall expression, expression ∈ rhs ->
      isCommon floatText counts expression = true ->
        Commute (language.evaluate earlier) (language.evaluate expression))
    {statement : Statement} (inserted : Inserted floatText counts counter rhs statement) :
    Commute ((language.withKinds kinds).evaluate earlier)
      ((language.withKinds kinds).execute statement) := by
  rcases inserted with ⟨number, expression, newer, member, common⟩
  have avoidsExpression : Avoids hidden (expressionNames expression) :=
    fun name named => avoids name (mem_expressionsNames member named)
  have blind : Blind hidden ((language.withKinds kinds).evaluate earlier) :=
    evaluate_blind hides avoidsEarlier
  have commute : Commute ((language.withKinds kinds).evaluate earlier)
      ((language.withKinds kinds).evaluate expression) := by
    rw [evaluate_withKinds hides avoidsEarlier, evaluate_withKinds hides avoidsExpression]
    exact commutes expression member common
  rw [execute_let]
  apply commute.andThen
  intro value
  exact blind.commute_assign (language.withKinds kinds) (room number) value

/-- The conditions under which right-hand sides are rewritten after the given steps. -/
structure FitsAll (floatText : Float -> String) (counts : String -> Nat)
    (language : Language) (hidden : String -> Bool) (done : List Step)
    (rhs : List Expression) (later : List Step) : Prop where
  avoids : Avoids hidden (expressionsNames rhs)
  hoists : HoistsSafely floatText language counts rhs
  reuses : ReusesSafely floatText language (done ++ (rhs.map .compute ++ later))

theorem FitsAll.head {done later : List Step} {expression : Expression}
    {rest : List Expression}
    (fits : FitsAll floatText counts language hidden done (expression :: rest) later) :
    Fits floatText counts language hidden done expression where
  avoids := Avoids.left fits.avoids
  typed := fun common => (fits.hoists [] expression rest rfl common).1
  reuses := fun before first between split binary sameText survived => by
    apply fits.reuses before first between expression (rest.map .compute ++ later) ?_
      binary sameText survived
    rw [split]
    simp

theorem FitsAll.tail {done later : List Step} {expression : Expression}
    {rest : List Expression}
    (fits : FitsAll floatText counts language hidden done (expression :: rest) later) :
    FitsAll floatText counts language hidden (done ++ [.compute expression]) rest later where
  avoids := Avoids.right fits.avoids
  hoists := fun before common after split isCommon => by
    have safe := fits.hoists (expression :: before) common after
      (by rw [split, List.cons_append]) isCommon
    exact ⟨safe.1, fun earlier member => safe.2 earlier (List.mem_cons_of_mem _ member)⟩
  reuses := by
    have reuses := fits.reuses
    rw [List.map_cons] at reuses
    simpa using reuses

/-- A right-hand side that stays commutes with the common ones after it. -/
theorem FitsAll.commutes {done later : List Step} {expression : Expression}
    {rest : List Expression}
    (fits : FitsAll floatText counts language hidden done (expression :: rest) later)
    (stays : isCommon floatText counts expression = false) {common : Expression}
    (member : common ∈ rest) (isCommon : isCommon floatText counts common = true) :
    Commute (language.evaluate expression) (language.evaluate common) := by
  rcases List.append_of_mem member with ⟨before, after, split⟩
  have safe := fits.hoists (expression :: before) common after
    (by rw [split, List.cons_append]) isCommon
  exact safe.2 expression List.mem_cons_self stays

/-- What is left of a right-hand side changes places with the declarations of the later
ones. -/
theorem item_commutes (room : forall counter, hidden (tempVarName counter) = true)
    (hides : language.Hides kinds hidden) {pass : PassState} {done later : List Step}
    {original image : State} {expression : Expression} {rest : List Expression}
    (tracks : Tracks floatText language kinds hidden pass done original image)
    (fits : FitsAll floatText counts language hidden done (expression :: rest) later) :
    Commute
      ((language.withKinds kinds).evaluate
        (optimizeExpression floatText counts pass expression).item)
      ((language.withKinds kinds).executeAll
        (optimizeExpressions floatText counts
          (optimizeExpression floatText counts pass expression).state rest).inserted) := by
  have avoidsRest : Avoids hidden (expressionsNames rest) := Avoids.right fits.avoids
  apply Commute.executeAll
  intro statement member
  have inserted := optimizeExpressions_inserted _ rest member
  rcases @optimizeExpression_cases floatText counts pass expression with
    ⟨temporary, found, rewritten⟩ | ⟨_, rewritten⟩ | ⟨stays, rewritten⟩
  · rw [rewritten] at inserted ⊢
    rcases tracks.held _ _ (lookup_mem found) with ⟨number, _, _, _, older, named, _, _, _, _, _⟩
    simp only [Language.evaluate]
    rw [named]
    exact load_commutes room hides older avoidsRest inserted
  · rw [rewritten] at inserted ⊢
    simp only [Language.evaluate]
    exact load_commutes room hides (Nat.lt_succ_self _) avoidsRest inserted
  · rw [rewritten] at inserted ⊢
    exact evaluate_commutes room hides (Avoids.left fits.avoids) avoidsRest
      (fun common isRest isCommon => fits.commutes stays isRest isCommon) inserted

/-- The right-hand sides of an assignment: the declarations in front of it and the
expressions in their places together give the values of the original ones. -/
theorem optimizeExpressions_tracks (room : forall counter, hidden (tempVarName counter) = true)
    (hides : language.Hides kinds hidden) {pass : PassState} {done later : List Step}
    {original image : State} {rhs : List Expression}
    (tracks : Tracks floatText language kinds hidden pass done original image)
    (fits : FitsAll floatText counts language hidden done rhs later)
    (declared : forall entry,
      entry ∈ (optimizeExpressions floatText counts pass rhs).state.symbols ->
        kinds entry.1 = decide (entry.2 = .float)) :
    EndsAlike
      (Tracks floatText language kinds hidden
        (optimizeExpressions floatText counts pass rhs).state (done ++ rhs.map .compute))
      (language.evaluateAll rhs original)
      (andThen
        ((language.withKinds kinds).executeAll
          (optimizeExpressions floatText counts pass rhs).inserted)
        (fun _ => (language.withKinds kinds).evaluateAll
          (optimizeExpressions floatText counts pass rhs).item) image) := by
  induction rhs generalizing pass done original image with
  | nil =>
      simp only [optimizeExpressions, List.map_nil, List.append_nil]
      exact ⟨rfl, tracks⟩
  | cons expression rest hypothesis =>
      let one := optimizeExpression floatText counts pass expression
      let others := optimizeExpressions floatText counts one.state rest
      have commute := item_commutes room hides tracks fits
      have reordered :
          andThen
            ((language.withKinds kinds).executeAll (one.inserted ++ others.inserted))
            (fun _ => (language.withKinds kinds).evaluateAll (one.item :: others.item)) =
          andThen
            (andThen ((language.withKinds kinds).executeAll one.inserted)
              fun _ => (language.withKinds kinds).evaluate one.item)
            (fun value => andThen
              (andThen ((language.withKinds kinds).executeAll others.inserted)
                fun _ => (language.withKinds kinds).evaluateAll others.item)
              fun values => give (value :: values)) := by
        simp only [executeAll_append, Language.evaluateAll, andThen_assoc]
        congr 1
        funext _
        exact (commute.swap fun value _ => andThen
          ((language.withKinds kinds).evaluateAll others.item) fun values =>
            give (value :: values)).symm
      change EndsAlike (Tracks floatText language kinds hidden others.state _) _
        (andThen ((language.withKinds kinds).executeAll (one.inserted ++ others.inserted))
          (fun _ => (language.withKinds kinds).evaluateAll (one.item :: others.item)) image)
      rw [reordered, Language.evaluateAll]
      have declaredOne : forall entry, entry ∈ one.state.symbols ->
          kinds entry.1 = decide (entry.2 = .float) :=
        fun entry member => declared entry (optimizeExpressions_symbols one.state rest member)
      apply (optimizeExpression_tracks room hides tracks fits.head declaredOne).andThen
      intro value middle middleImage _ tracksMiddle
      apply (hypothesis tracksMiddle fits.tail declared).andThen
      intro values final finalImage _ tracksFinal
      refine ⟨rfl, ?_⟩
      rw [List.map_cons, List.append_cons]
      exact tracksFinal

/-! ## Statements and blocks -/

/-- What a target leaves available was available before and survives the target. -/
theorem invalidateTargets_cons (pass : PassState) (target : Expression)
    (targets : List Expression) :
    exists later : PassState,
      pass.invalidateTargets (target :: targets) = later.invalidateTargets targets ∧
      later.tempVarCounter = pass.tempVarCounter ∧
      forall text temporary, (text, temporary) ∈ later.availableExpressions ->
        (text, temporary) ∈ pass.availableExpressions ∧
          (Step.receive target).kills text = false := by
  cases target with
  | variableAccess name =>
      refine ⟨pass.invalidate name, rfl, rfl, ?_⟩
      intro text temporary member
      rcases List.mem_filter.mp member with ⟨available, survives⟩
      exact ⟨available, by simpa [Step.kills] using survives⟩
  | _ => exact ⟨pass, rfl, rfl, fun text temporary member => ⟨member, rfl⟩⟩

/-- The targets of an assignment receive their values. -/
theorem Tracks.receive (room : forall counter, hidden (tempVarName counter) = true)
    (hides : language.Hides kinds hidden) {pass : PassState} {done : List Step}
    {original image : State} {targets : List Expression}
    (tracks : Tracks floatText language kinds hidden pass done original image)
    (avoids : Avoids hidden (expressionsNames targets)) (values : List Value) :
    EndsAlike
      (Tracks floatText language kinds hidden (pass.invalidateTargets targets)
        (done ++ targets.map .receive))
      (language.storeAll targets values original)
      ((language.withKinds kinds).storeAll targets values image) := by
  induction targets generalizing pass done original image values with
  | nil =>
      cases values with
      | nil =>
          rw [List.map_nil, List.append_nil]
          exact ⟨rfl, tracks⟩
      | cons value values => exact trivial
  | cons target targets hypothesis =>
      cases values with
      | nil => exact trivial
      | cons value values =>
          rcases invalidateTargets_cons pass target targets with
            ⟨later, invalidated, sameCounter, survives⟩
          have first := tracks.run room
            (store_transports hides target (Avoids.left avoids) value)
            (Nat.le_of_eq sameCounter.symm) survives fun _ kept => kept value
          rw [invalidated, List.map_cons, List.append_cons]
          apply first.andThen
          intro _ middle middleImage _ tracksMiddle
          exact hypothesis tracksMiddle (Avoids.right avoids) values

/-- The conditions under which statements are rewritten after the given steps. -/
structure FitsBlock (floatText : Float -> String) (counts : String -> Nat)
    (language : Language) (hidden : String -> Bool) (done : List Step)
    (statements : List Statement) : Prop where
  avoids : Avoids hidden (statementsNames statements)
  hoists : forall lhs rhs, Statement.assignment lhs rhs ∈ statements ->
    HoistsSafely floatText language counts rhs
  reuses : ReusesSafely floatText language (done ++ blockSteps statements)

theorem FitsBlock.tail {done : List Step} {statement : Statement} {rest : List Statement}
    (fits : FitsBlock floatText counts language hidden done (statement :: rest)) :
    FitsBlock floatText counts language hidden (done ++ statementSteps statement) rest where
  avoids := Avoids.right fits.avoids
  hoists := fun lhs rhs member => fits.hoists lhs rhs (List.mem_cons_of_mem _ member)
  reuses := by
    rw [List.append_assoc]
    exact fits.reuses

theorem FitsBlock.assignment {done : List Step} {lhs rhs : List Expression}
    {rest : List Statement}
    (fits : FitsBlock floatText counts language hidden done (.assignment lhs rhs :: rest)) :
    FitsAll floatText counts language hidden done rhs
      (lhs.map .receive ++ blockSteps rest) where
  avoids := (Avoids.left fits.avoids).right
  hoists := fits.hoists lhs rhs List.mem_cons_self
  reuses := by
    rw [<- List.append_assoc (rhs.map Step.compute)]
    exact fits.reuses

/-- One statement with the declarations in front of it. -/
theorem optimizeStatement_tracks (room : forall counter, hidden (tempVarName counter) = true)
    (hides : language.Hides kinds hidden) {pass : PassState} {done : List Step}
    {original image : State} {statement : Statement} {rest : List Statement}
    (tracks : Tracks floatText language kinds hidden pass done original image)
    (fits : FitsBlock floatText counts language hidden done (statement :: rest))
    (declared : forall entry,
      entry ∈ (optimizeStatement floatText counts pass statement).state.symbols ->
        kinds entry.1 = decide (entry.2 = .float)) :
    EndsAlike
      (Tracks floatText language kinds hidden
        (optimizeStatement floatText counts pass statement).state
        (done ++ statementSteps statement))
      (language.execute statement original)
      (andThen
        ((language.withKinds kinds).executeAll
          (optimizeStatement floatText counts pass statement).inserted)
        (fun _ => (language.withKinds kinds).execute
          (optimizeStatement floatText counts pass statement).item) image) := by
  cases statement with
  | assignment lhs rhs =>
      simp only [optimizeStatement, statementSteps, Language.execute]
      rw [<- andThen_assoc, <- List.append_assoc]
      apply (optimizeExpressions_tracks room hides tracks fits.assignment ?_).andThen
      · intro values middle middleImage _ tracksMiddle
        exact tracksMiddle.receive room hides (Avoids.left (Avoids.left fits.avoids)) values
      · intro entry member
        apply declared entry
        rw [optimizeStatement, invalidateTargets_symbols]
        exact member
  | _ =>
      simp only [optimizeStatement, Language.executeAll, give_andThen]
      exact tracks.run room (execute_transports hides _ (Avoids.left fits.avoids))
        (Nat.le_refl _) (fun text temporary member => ⟨member, rfl⟩) fun _ kept => kept

/-- The rewritten statements do what the original ones do. -/
theorem optimizeStatements_tracks (room : forall counter, hidden (tempVarName counter) = true)
    (hides : language.Hides kinds hidden) {pass : PassState} {done : List Step}
    {original image : State} {statements : List Statement}
    (tracks : Tracks floatText language kinds hidden pass done original image)
    (fits : FitsBlock floatText counts language hidden done statements)
    (declared : forall entry,
      entry ∈ (optimizeStatements floatText counts pass statements).2.symbols ->
        kinds entry.1 = decide (entry.2 = .float)) :
    EndsAlike (Covers hidden) (language.executeAll statements original)
      ((language.withKinds kinds).executeAll
        (optimizeStatements floatText counts pass statements).1 image) := by
  induction statements generalizing pass done original image with
  | nil => exact ⟨rfl, tracks.covers⟩
  | cons statement rest hypothesis =>
      let one := optimizeStatement floatText counts pass statement
      have inOrder :
          (language.withKinds kinds).executeAll
            (optimizeStatements floatText counts pass (statement :: rest)).1 =
          andThen
            (andThen ((language.withKinds kinds).executeAll one.inserted)
              fun _ => (language.withKinds kinds).execute one.item)
            fun _ => (language.withKinds kinds).executeAll
              (optimizeStatements floatText counts one.state rest).1 := by
        simp only [optimizeStatements, executeAll_append, Language.executeAll, andThen_assoc]
        rfl
      rw [inOrder, Language.executeAll]
      have declaredOne : forall entry, entry ∈ one.state.symbols ->
          kinds entry.1 = decide (entry.2 = .float) :=
        fun entry member => declared entry (optimizeStatements_symbols one.state rest member)
      apply (optimizeStatement_tracks room hides tracks fits declaredOne).andThen
      intro _ middle middleImage _ tracksMiddle
      exact hypothesis tracksMiddle fits.tail declared

end Simulation

end LocalOptimization
end NewBcpl
