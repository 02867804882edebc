import NewBcpl.LocalOptimization.BlockExecution

namespace NewBcpl
namespace LocalOptimization

open Foundations.PartialState

/-!
# Variables that a block does not mention

Variables that no expression of a block names and no other code can see are its
temporaries' room: the execution of the block neither reads nor changes them, and it
does not matter which of them are held as doubles. The new contents of such variables
are laid over a state by `State.cover`.
-/

namespace State

/-- A state with other contents of the hidden variables. -/
def cover (hidden : String -> Bool) (contents : String -> Word) (state : State) : State :=
  { state with
    environment := fun name => if hidden name then contents name else state.environment name }

end State

namespace Language

/-- The language with another choice of the variables held as doubles. -/
def withKinds (language : Language) (kinds : String -> Bool) : Language :=
  { language with isRealVariable := kinds }

/-- No other code sees the hidden variables, and the kinds differ only on them. -/
structure Hides (language : Language) (kinds hidden : String -> Bool) : Prop where
  sameKind : forall name, hidden name = false -> kinds name = language.isRealVariable name
  unshared : forall name, hidden name = true -> language.shared name = false

end Language

/-- No name of the list is hidden. -/
def Avoids (hidden : String -> Bool) (names : List String) : Prop :=
  forall name, name ∈ names -> hidden name = false

namespace Avoids

variable {hidden : String -> Bool} {names others : List String}

theorem left (avoids : Avoids hidden (names ++ others)) : Avoids hidden names :=
  fun name member => avoids name (List.mem_append_left others member)

theorem right (avoids : Avoids hidden (names ++ others)) : Avoids hidden others :=
  fun name member => avoids name (List.mem_append_right names member)

theorem head {name : String} (avoids : Avoids hidden (name :: names)) :
    hidden name = false :=
  avoids name List.mem_cons_self

end Avoids

section Transport

variable {language : Language} {kinds hidden : String -> Bool}
  {contents : String -> Word}

theorem restrict_cover {visible : String -> Bool}
    (blind : forall name, hidden name = true -> visible name = false) (state : State) :
    (state.cover hidden contents).restrict visible = state.restrict visible := by
  unfold State.restrict State.cover
  congr 1
  funext name
  cases seen : visible name with
  | false => rfl
  | true =>
      have shown : hidden name = false := by
        apply Bool.eq_false_iff.mpr
        intro covered
        rw [blind name covered] at seen
        cases seen
      simp [shown]

theorem after_cover {visible : String -> Bool}
    (blind : forall name, hidden name = true -> visible name = false) (request : Request)
    (reply : Reply) (state : State) :
    (state.cover hidden contents).after visible request reply =
      (state.after visible request reply).cover hidden contents := by
  unfold State.after State.cover
  congr 1
  funext name
  cases covered : hidden name with
  | false => simp [covered]
  | true => simp [covered, blind name covered]

theorem ask_transports {visible : String -> Bool}
    (blind : forall name, hidden name = true -> visible name = false) (request : Request) :
    Transports (State.cover hidden contents) (language.ask visible request)
      ((language.withKinds kinds).ask visible request) := by
  intro state
  change (language.respond request _).map _ = Option.map _ (Option.map _ _)
  rw [restrict_cover blind, Option.map_map]
  congr 1
  funext reply
  rw [after_cover blind]
  rfl

theorem load_transports (hides : language.Hides kinds hidden) {name : String}
    (shown : hidden name = false) :
    Transports (State.cover hidden contents) (language.load name)
      ((language.withKinds kinds).load name) := by
  intro state
  simp [Language.load, Language.withKinds, State.cover, shown, hides.sameKind name shown]

theorem assign_transports (hides : language.Hides kinds hidden) {name : String}
    (shown : hidden name = false) (value : Value) :
    Transports (State.cover hidden contents) (language.assign name value)
      ((language.withKinds kinds).assign name value) := by
  intro state
  have sameKind : (language.withKinds kinds).isRealVariable name =
      language.isRealVariable name := hides.sameKind name shown
  have sameBits : (language.withKinds kinds).convert (language.isRealVariable name) value =
      language.convert (language.isRealVariable name) value := rfl
  simp only [Language.assign, Option.map_some, sameKind, sameBits]
  congr 2
  unfold State.assign State.cover
  congr 1
  funext other
  by_cases same : other = name
  · rw [same]
    simp [shown]
  · simp [same]

theorem look_transports (read : (Word -> Word) -> Option Value) :
    Transports (State.cover hidden contents) (look read) (look read) := by
  intro state
  change (read state.memory).map _ = Option.map _ (Option.map _ _)
  rw [Option.map_map]
  rfl

theorem connect_transports (decisive : Bool) {left leftImage : Run Value}
    {right rightImage : Run Value}
    (ofLeft : Transports (State.cover hidden contents) left leftImage)
    (ofRight : Transports (State.cover hidden contents) right rightImage) :
    Transports (State.cover hidden contents) (language.connect decisive left right)
      ((language.withKinds kinds).connect decisive leftImage rightImage) := by
  apply ofLeft.andThen
  intro leftValue
  by_cases decided : leftValue.truth = decisive
  · simp only [if_pos decided]
    exact Transports.give _
  · simp only [if_neg decided]
    exact ofRight.andThen fun _ => Transports.give _

theorem binaryOp_transports (operator : BinaryOperator) {left leftImage : Run Value}
    {right rightImage : Run Value}
    (ofLeft : Transports (State.cover hidden contents) left leftImage)
    (ofRight : Transports (State.cover hidden contents) right rightImage) :
    Transports (State.cover hidden contents) (language.binaryOp operator left right)
      ((language.withKinds kinds).binaryOp operator leftImage rightImage) := by
  have strict : Transports (State.cover hidden contents)
      (language.strict operator left right)
      ((language.withKinds kinds).strict operator leftImage rightImage) :=
    ofRight.andThen fun _ => ofLeft.andThen fun _ => Transports.lift _
  cases operator with
  | logicalAnd => exact connect_transports false ofLeft ofRight
  | logicalOr => exact connect_transports true ofLeft ofRight
  | _ => exact strict

theorem element_transports (access : Access) {base baseImage index indexImage : Run Value}
    (ofBase : Transports (State.cover hidden contents) base baseImage)
    (ofIndex : Transports (State.cover hidden contents) index indexImage) :
    Transports (State.cover hidden contents) (language.element access base index)
      ((language.withKinds kinds).element access baseImage indexImage) :=
  ofBase.andThen fun _ => ofIndex.andThen fun _ => look_transports _

theorem sees_blind (hides : language.Hides kinds hidden) {statement : Statement}
    (avoids : Avoids hidden (statementNames statement)) (name : String)
    (covered : hidden name = true) : language.sees statement name = false := by
  have notNamed : (statementNames statement).contains name = false := by
    apply Bool.eq_false_iff.mpr
    intro named
    rw [avoids name (List.contains_iff_mem.mp named)] at covered
    cases covered
  unfold Language.sees
  rw [hides.unshared name covered, notNamed]
  rfl

theorem unaryOp_transports (operator : UnaryOperator) {operand : Expression}
    (hides : language.Hides kinds hidden)
    (ofOperand : Transports (State.cover hidden contents) (language.evaluate operand)
      ((language.withKinds kinds).evaluate operand)) :
    Transports (State.cover hidden contents) (language.evaluate (.unaryOp operator operand))
      ((language.withKinds kinds).evaluate (.unaryOp operator operand)) := by
  cases operator with
  | addressOf =>
      cases operand with
      | variableAccess name =>
          simp only [Language.evaluate]
          exact Transports.give _
      | _ =>
          simp only [Language.evaluate]
          exact Transports.lift _
  | tailOf =>
      simp only [Language.evaluate]
      exact ofOperand.andThen fun _ => ask_transports hides.unshared _
  | _ =>
      simp only [Language.evaluate]
      exact ofOperand.andThen fun _ => look_transports _

mutual

/-- An expression that names no hidden variable does not see them. -/
theorem evaluate_transports (hides : language.Hides kinds hidden) :
    forall expression, Avoids hidden (expressionNames expression) ->
      Transports (State.cover hidden contents) (language.evaluate expression)
        ((language.withKinds kinds).evaluate expression)
  | .integerLiteral _, _ | .floatLiteral _, _ | .stringLiteral _, _ | .charLiteral _, _
  | .booleanLiteral _, _ | .table _ _, _ => by
      simp only [Language.evaluate]
      exact Transports.give _
  | .variableAccess _, avoids => by
      simp only [Language.evaluate]
      exact load_transports hides avoids.head
  | .binaryOp operator left right, avoids => by
      simp only [Language.evaluate]
      exact binaryOp_transports operator
        (evaluate_transports hides left (Avoids.left avoids))
        (evaluate_transports hides right (Avoids.right avoids))
  | .unaryOp operator operand, avoids =>
      unaryOp_transports operator hides (evaluate_transports hides operand avoids)
  | .vectorAccess base index, avoids | .charIndirection base index, avoids
  | .floatVectorIndirection base index, avoids => by
      simp only [Language.evaluate]
      exact element_transports _ (evaluate_transports hides base (Avoids.left avoids))
        (evaluate_transports hides index (Avoids.right avoids))
  | .bitfieldAccess base startBit width, avoids => by
      simp only [Language.evaluate]
      have avoidsFirst : Avoids hidden (expressionNames base ++ expressionNames startBit) :=
        Avoids.left avoids
      apply (evaluate_transports hides base avoidsFirst.left).andThen
      intro _
      apply (evaluate_transports hides startBit avoidsFirst.right).andThen
      intro _
      apply (evaluate_transports hides width (Avoids.right avoids)).andThen
      intro _
      exact Transports.lift _
  | .functionCall function arguments, avoids => by
      simp only [Language.evaluate]
      apply (evaluateAll_transports hides arguments (Avoids.right avoids)).andThen
      intro _
      apply (evaluate_transports hides function (Avoids.left avoids)).andThen
      intro _
      exact ask_transports hides.unshared _
  | .sysCall _ syscallNumber arguments, avoids => by
      simp only [Language.evaluate]
      apply (evaluateAll_transports hides arguments (Avoids.right avoids)).andThen
      intro _
      apply (evaluate_transports hides syscallNumber (Avoids.left avoids)).andThen
      intro _
      exact ask_transports hides.unshared _
  | .conditional condition trueExpr falseExpr, avoids => by
      simp only [Language.evaluate]
      have avoidsFirst : Avoids hidden (expressionNames condition ++ expressionNames trueExpr) :=
        Avoids.left avoids
      apply (evaluate_transports hides condition avoidsFirst.left).andThen
      intro value
      cases value.truth with
      | true => exact evaluate_transports hides trueExpr avoidsFirst.right
      | false => exact evaluate_transports hides falseExpr (Avoids.right avoids)
  | .valof _, avoids | .floatValof _, avoids => by
      simp only [Language.evaluate]
      exact ask_transports (sees_blind hides avoids) _
  | .vecAllocation size, avoids | .fvecAllocation size, avoids
  | .stringAllocation size, avoids => by
      simp only [Language.evaluate]
      exact (evaluate_transports hides size avoids).andThen fun _ =>
        ask_transports hides.unshared _
  | .vecInitializer initializers, avoids | .list initializers _, avoids => by
      simp only [Language.evaluate]
      exact (evaluateAll_transports hides initializers avoids).andThen fun _ =>
        ask_transports hides.unshared _

theorem evaluateAll_transports (hides : language.Hides kinds hidden) :
    forall expressions, Avoids hidden (expressionsNames expressions) ->
      Transports (State.cover hidden contents) (language.evaluateAll expressions)
        ((language.withKinds kinds).evaluateAll expressions)
  | [], _ => by
      simp only [Language.evaluateAll]
      exact Transports.give _
  | first :: rest, avoids => by
      simp only [Language.evaluateAll]
      apply (evaluate_transports hides first (Avoids.left avoids)).andThen
      intro _
      apply (evaluateAll_transports hides rest (Avoids.right avoids)).andThen
      intro _
      exact Transports.give _

end

theorem storeElement_transports (hides : language.Hides kinds hidden) (access : Access)
    {base index : Expression} (avoidsBase : Avoids hidden (expressionNames base))
    (avoidsIndex : Avoids hidden (expressionNames index)) (value : Value) :
    Transports (State.cover hidden contents) (language.storeElement access base index value)
      ((language.withKinds kinds).storeElement access base index value) := by
  apply (evaluate_transports hides base avoidsBase).andThen
  intro _
  apply (evaluate_transports hides index avoidsIndex).andThen
  intro _
  apply (ask_transports hides.unshared _).andThen
  intro _
  exact Transports.give _

theorem storeBits_transports (hides : language.Hides kinds hidden) {name : String}
    (shown : hidden name = false) {startBit width : Expression}
    (avoidsStart : Avoids hidden (expressionNames startBit))
    (avoidsWidth : Avoids hidden (expressionNames width)) (value : Value) :
    Transports (State.cover hidden contents)
      (language.store (.bitfieldAccess (.variableAccess name) startBit width) value)
      ((language.withKinds kinds).store
        (.bitfieldAccess (.variableAccess name) startBit width) value) := by
  simp only [Language.store]
  apply (load_transports hides shown).andThen
  intro _
  apply (evaluate_transports hides startBit avoidsStart).andThen
  intro _
  apply (evaluate_transports hides width avoidsWidth).andThen
  intro _
  apply (Transports.lift _).andThen
  intro _
  exact assign_transports hides shown _

/-- A target of an assignment that names no hidden variable does not see them. -/
theorem store_transports (hides : language.Hides kinds hidden) (target : Expression)
    (avoids : Avoids hidden (expressionNames target)) (value : Value) :
    Transports (State.cover hidden contents) (language.store target value)
      ((language.withKinds kinds).store target value) := by
  cases target with
  | variableAccess name => exact assign_transports hides avoids.head value
  | vectorAccess base index | charIndirection base index
  | floatVectorIndirection base index =>
      exact storeElement_transports hides _ (Avoids.left avoids) (Avoids.right avoids) value
  | bitfieldAccess base startBit width =>
      have avoidsFirst : Avoids hidden (expressionNames base ++ expressionNames startBit) :=
        Avoids.left avoids
      cases base with
      | variableAccess name =>
          exact storeBits_transports hides avoidsFirst.left.head avoidsFirst.right
            (Avoids.right avoids) value
      | _ => exact Transports.lift _
  | unaryOp operator operand =>
      cases operator with
      | indirection =>
          apply (evaluate_transports hides operand avoids).andThen
          intro _
          apply (ask_transports hides.unshared _).andThen
          intro _
          exact Transports.give _
      | _ => exact Transports.lift _
  | _ => exact Transports.lift _

theorem storeAll_transports (hides : language.Hides kinds hidden) (targets : List Expression)
    (avoids : Avoids hidden (expressionsNames targets)) (values : List Value) :
    Transports (State.cover hidden contents) (language.storeAll targets values)
      ((language.withKinds kinds).storeAll targets values) := by
  induction targets generalizing values with
  | nil =>
      cases values with
      | nil => exact Transports.give _
      | cons _ _ => exact Transports.lift _
  | cons target targets hypothesis =>
      cases values with
      | nil => exact Transports.lift _
      | cons value values =>
          apply (store_transports hides target (Avoids.left avoids) value).andThen
          intro _
          exact hypothesis (Avoids.right avoids) values

theorem expressionsNames_variables (names : List String) :
    expressionsNames (names.map .variableAccess) = names := by
  induction names with
  | nil => rfl
  | cons name names hypothesis =>
      change name :: expressionsNames (names.map .variableAccess) = name :: names
      rw [hypothesis]

/-- A statement that names no hidden variable does not see them. -/
theorem execute_transports (hides : language.Hides kinds hidden) (statement : Statement)
    (avoids : Avoids hidden (statementNames statement)) :
    Transports (State.cover hidden contents) (language.execute statement)
      ((language.withKinds kinds).execute statement) := by
  cases statement with
  | letDeclaration names initializers =>
      have avoidsNames : Avoids hidden (expressionsNames (names.map .variableAccess)) := by
        rw [expressionsNames_variables]
        exact Avoids.left avoids
      apply (evaluateAll_transports hides initializers (Avoids.right avoids)).andThen
      intro _
      exact storeAll_transports hides _ avoidsNames _
  | assignment lhs rhs =>
      apply (evaluateAll_transports hides rhs (Avoids.right avoids)).andThen
      intro _
      exact storeAll_transports hides lhs (Avoids.left avoids) _
  | routineCall routine arguments =>
      apply (evaluateAll_transports hides arguments (Avoids.right avoids)).andThen
      intro _
      apply (evaluate_transports hides routine (Avoids.left avoids)).andThen
      intro _
      apply (ask_transports hides.unshared _).andThen
      intro _
      exact Transports.give _
  | _ =>
      apply (ask_transports (sees_blind hides avoids) _).andThen
      intro _
      exact Transports.give _

end Transport

/-! ## States that differ in the hidden variables -/

/-- A computation that neither reads nor changes the hidden variables. -/
def Blind {Result : Type} (hidden : String -> Bool) (run : Run Result) : Prop :=
  forall contents, Transports (State.cover hidden contents) run run

/-- Two states that differ at most in the hidden variables. -/
def Covers (hidden : String -> Bool) (original image : State) : Prop :=
  image = original.cover hidden image.environment

section Covering

variable {Result : Type} {hidden : String -> Bool}

theorem cover_self (state : State) : state.cover hidden state.environment = state := by
  unfold State.cover
  congr 1
  funext name
  exact ite_self _

theorem cover_environment {contents : String -> Word} {state : State} {name : String}
    (covered : hidden name = true) :
    (state.cover hidden contents).environment name = contents name :=
  if_pos covered

theorem covers_iff {original image : State} :
    Covers hidden original image ↔
      (forall name, hidden name = false ->
        image.environment name = original.environment name) ∧
      image.memory = original.memory ∧ image.calls = original.calls := by
  constructor
  · intro covers
    rw [covers]
    refine ⟨?_, rfl, rfl⟩
    intro name shown
    simp [State.cover, shown]
  · rintro ⟨environment, memory, calls⟩
    have contents : image.environment = fun name =>
        if hidden name then image.environment name else original.environment name := by
      funext name
      cases covered : hidden name with
      | false => simp [environment name covered]
      | true => simp
    unfold Covers State.cover
    rw [<- memory, <- calls, <- contents]

/-- What the original does, the image does too, and leaves the hidden variables alone. -/
theorem Covers.endsAlike {run runImage : Run Result} {original image : State}
    (covers : Covers hidden original image)
    (transports : Transports (State.cover hidden image.environment) run runImage) :
    EndsAlike (fun final imageFinal => Covers hidden final imageFinal ∧
        forall name, hidden name = true ->
          imageFinal.environment name = image.environment name)
      (run original) (runImage image) := by
  rw [covers]
  cases step : run original with
  | none =>
      rw [transports.none step]
      exact trivial
  | some outcome =>
      rw [transports.some step]
      refine ⟨rfl, ?_, ?_⟩
      · rw [covers_iff]
        refine ⟨?_, rfl, rfl⟩
        intro name shown
        simp [State.cover, shown]
      · intro name covered
        rw [cover_environment covered, <- covers]

/-- A blind computation leaves the hidden variables as they are. -/
theorem Blind.unchanged {run : Run Result} (blind : Blind hidden run) {state final : State}
    {result : Result} (step : run state = some (result, final)) {name : String}
    (covered : hidden name = true) : final.environment name = state.environment name := by
  have same := blind state.environment state
  rw [cover_self, step] at same
  have finals := congrArg (fun outcome => outcome.map fun pair => pair.2.environment name) same
  simpa [cover_environment covered] using finals

theorem assign_eq_cover {name : String} (covered : hidden name = true) (bits : Word)
    {state final : State}
    (same : forall other, hidden other = true ->
      final.environment other = state.environment other) :
    final.assign name bits = final.cover hidden (state.assign name bits).environment := by
  unfold State.assign State.cover
  congr 1
  funext other
  by_cases equal : other = name
  · rw [equal]
    simp [covered]
  · cases otherCovered : hidden other with
    | false => simp [equal]
    | true => simp [equal, same other otherCovered]

/-- A blind computation commutes with the assignment to a hidden variable. -/
theorem Blind.commute_assign {run : Run Result} (blind : Blind hidden run)
    (language : Language) {name : String} (covered : hidden name = true) (value : Value) :
    Commute run (language.assign name value) := by
  intro state
  let bits := language.convert (language.isRealVariable name) value
  have assigned : state.assign name bits = state.cover hidden (state.assign name bits).environment :=
    assign_eq_cover covered bits fun _ _ => rfl
  have after : andThen (language.assign name value)
      (fun two => andThen run fun one => give (one, two)) state =
        andThen run (fun one => give (one, ())) (state.assign name bits) := rfl
  rw [after]
  cases step : run state with
  | none =>
      have imageStep : run (state.assign name bits) = none := by
        rw [assigned]
        exact (blind _).none step
      rw [andThen_none step, andThen_none imageStep]
  | some outcome =>
      have imageStep : run (state.assign name bits) =
          some (outcome.1, outcome.2.assign name bits) := by
        rw [assigned, (blind _).some step]
        congr 2
        exact (assign_eq_cover covered bits fun other otherCovered =>
          blind.unchanged step otherCovered).symm
      rw [andThen_some step, andThen_some imageStep]
      rfl

/-- Reading a hidden variable commutes with a blind computation. -/
theorem Blind.load_commute {run : Run Result} (blind : Blind hidden run)
    (language : Language) {name : String} (covered : hidden name = true) :
    Commute (language.load name) run := by
  intro state
  let value : Value :=
    { isReal := language.isRealVariable name, bits := state.environment name }
  have before : andThen (language.load name)
      (fun one => andThen run fun two => give (one, two)) state =
        andThen run (fun two => give (value, two)) state := rfl
  rw [before]
  cases step : run state with
  | none => rw [andThen_none step, andThen_none step]
  | some outcome =>
      rw [andThen_some step, andThen_some step]
      simp only [give, Language.load, andThen, blind.unchanged step covered, value]

/-- Reading a variable commutes with the assignment to another one. -/
theorem load_commute_assign (language : Language) {name other : String}
    (different : name ≠ other) (value : Value) :
    Commute (language.load name) (language.assign other value) := by
  intro state
  simp [andThen, give, Language.load, Language.assign, State.assign, different]

end Covering

section Kinds

variable {language : Language} {kinds hidden : String -> Bool}

theorem Language.Hides.image (hides : language.Hides kinds hidden) :
    (language.withKinds kinds).Hides kinds hidden where
  sameKind := fun _ _ => rfl
  unshared := hides.unshared

theorem evaluate_blind (hides : language.Hides kinds hidden) {expression : Expression}
    (avoids : Avoids hidden (expressionNames expression)) :
    Blind hidden ((language.withKinds kinds).evaluate expression) :=
  fun _ => evaluate_transports hides.image expression avoids

/-- The kinds of hidden variables do not matter to an expression that does not name
them. -/
theorem evaluate_withKinds (hides : language.Hides kinds hidden) {expression : Expression}
    (avoids : Avoids hidden (expressionNames expression)) :
    (language.withKinds kinds).evaluate expression = language.evaluate expression := by
  have sameKinds : language.Hides language.isRealVariable hidden :=
    { sameKind := fun _ _ => rfl, unshared := hides.unshared }
  funext state
  have ofImage := @evaluate_transports language kinds hidden state.environment hides expression avoids state
  have ofSelf := @evaluate_transports language language.isRealVariable hidden state.environment
    sameKinds expression avoids state
  rw [cover_self] at ofImage ofSelf
  exact ofImage.trans ofSelf.symm

end Kinds

end LocalOptimization
end NewBcpl
