import NewBcpl.Analysis.RenamerComposition

namespace NewBcpl
namespace Analysis

/-!
# The bindings that `ASTAnalyzer` keeps

The body of a routine is traversed with the combined renamer where the analyzer visits
its `LET`s twice. The analyzer gives the names by the numbers of the loop variables, so
the bindings that it keeps are those that the numbers keep.
-/

attribute [local simp] expressionBindings expressionsBindings statementBindings
  statementsBindings visitStatement visitStatements afterStatement afterStatements
  visitInitializers_after visitStatement_after visitStatements_after
  unchangedExpression unchangedExpressions

variable {State : Type} (renamer : Renamer State)

/-! ## Routines and programs -/

/-- The first pass over the body of a routine ends with the loops of its `LET`s. -/
theorem visitLets_after (state : State) (statements : List Statement) :
    (visitLets renamer state statements).2 = afterLets renamer state statements := by
  induction statements generalizing state with
  | nil => rfl
  | cons statement rest restAfter =>
      cases statement
      case letDeclaration names initializers => simp [visitLets, afterLets, restAfter]
      all_goals simp [visitLets, afterLets, restAfter]

/-- The second pass over initializers that the first has renamed. -/
theorem visitInitializers_twice (first second : State) (names : List String)
    (initializers : List Expression) :
    (visitInitializers renamer second names
          (visitInitializers renamer first names initializers).1).1 =
        (visitInitializers (renamer.andThen renamer) (first, second) names
          initializers).1 ∧
      afterInitializers (renamer.andThen renamer) (first, second) names initializers =
        (afterInitializers renamer first names initializers,
          afterInitializers renamer second names
            (visitInitializers renamer first names initializers).1) := by
  have once := visitInitializers_andThen renamer renamer first second names initializers
  have state := visitInitializers_after (renamer.andThen renamer) (first, second) names
    initializers
  rw [once] at state
  rw [once]
  exact ⟨rfl, by simpa using state.symm⟩

/-- The two passes over the body of a routine keep its bindings if and only if every
occurrence resolves alike. -/
theorem again_kept (first second : State) (scope : List Declared)
    (statements : List Statement) :
    (statementsBindings .source (scope.map Declared.source) [] statements =
        statementsBindings .renamed (scope.map Declared.renamed) []
          (visitStatements renamer second
            (visitLets renamer first statements).1).1 <->
      keptAgain renamer first second scope statements = true) ∧
    afterStatements renamer second (visitLets renamer first statements).1 =
      afterAgain renamer first second statements := by
  induction statements generalizing first second scope with
  | nil => simp [visitLets, keptAgain, afterAgain]
  | cons statement rest restKept =>
      by_cases isLet : exists names initializers, statement = .letDeclaration names initializers
      · rcases isLet with ⟨names, initializers, rfl⟩
        rcases visitInitializers_twice renamer first second names initializers
          with ⟨renamed, passed⟩
        have initializersIff := initializers_kept (renamer.andThen renamer)
          (first, second) scope [] names initializers
        rw [← renamed] at initializersIff
        rcases restKept (afterInitializers renamer first names initializers)
          (afterInitializers renamer second names
            (visitInitializers renamer first names initializers).1)
          (Declared.kept names ++ scope) with ⟨restIff, restAfter⟩
        rw [List.map_append, List.map_append, Declared.source_kept,
          Declared.renamed_kept] at restIff
        constructor
        · simp [visitLets, keptAgain, passed, letNames, initializersIff, restIff]
        · simp [visitLets, afterAgain, passed, restAfter]
      · have notLet : forall names initializers,
            statement = .letDeclaration names initializers -> False :=
          fun names initializers equal => isLet ⟨names, initializers, equal⟩
        have noNames : letNames statement = [] := by
          cases statement <;> first | rfl | exact (notLet _ _ rfl).elim
        have statementIff := statement_kept renamer second scope [] statement
        rcases restKept first (afterStatement renamer second statement) scope
          with ⟨restIff, restAfter⟩
        constructor
        · simp [visitLets, keptAgain, letNames_visited, noNames, statementIff, restIff]
        · simp [visitLets, afterAgain, restAfter]

/-- The body of a routine keeps its bindings if and only if every occurrence resolves
alike. -/
theorem routineBody_kept (state : State) (scope : List Declared) (body : Statement) :
    (statementBindings .source (scope.map Declared.source) [] body =
        statementBindings .renamed (scope.map Declared.renamed) []
          (visitRoutineBody renamer state body).1 <->
      keptRoutineBody renamer state scope body = true) ∧
    (visitRoutineBody renamer state body).2 = afterRoutineBody renamer state body := by
  cases body
  case compound statements =>
    rcases again_kept renamer state (afterLets renamer state statements) scope statements
      with ⟨statementsIff, statementsAfter⟩
    constructor
    · simpa [visitRoutineBody, keptRoutineBody, visitLets_after] using statementsIff
    · simpa [visitRoutineBody, afterRoutineBody, visitLets_after] using statementsAfter
  all_goals
    exact ⟨statement_kept renamer state scope [] _, visitStatement_after renamer state _⟩

/-- The bindings of a declaration of the program. -/
theorem programDeclaration_kept (state : State) (globals : List String)
    (declaration : Passes.ProgramDeclaration) :
    (programDeclarationBindings .source globals declaration =
        programDeclarationBindings .renamed globals
          (visitProgramDeclaration renamer state declaration).1 <->
      keptProgramDeclaration renamer state globals declaration = true) ∧
    (visitProgramDeclaration renamer state declaration).2 =
      afterProgramDeclaration renamer state declaration := by
  cases declaration with
  | functionDeclaration name parameters body =>
      have bodyIff := expression_kept renamer (renamer.enterFunction state)
        (Declared.kept (parameters ++ globals)) [] body
      rw [Declared.source_kept, Declared.renamed_kept] at bodyIff
      exact ⟨bodyIff, visitExpression_after renamer (renamer.enterFunction state) body⟩
  | routineDeclaration name parameters body =>
      rcases routineBody_kept renamer (renamer.enterFunction state)
        (Declared.kept (parameters ++ globals)) body with ⟨bodyIff, bodyAfter⟩
      rw [Declared.source_kept, Declared.renamed_kept] at bodyIff
      exact ⟨bodyIff, bodyAfter⟩
  | staticDeclaration name initializer =>
      simp [programDeclarationBindings, visitProgramDeclaration, keptProgramDeclaration,
        afterProgramDeclaration]
  | globalVariableDeclaration names initializers =>
      simp [programDeclarationBindings, visitProgramDeclaration, keptProgramDeclaration,
        afterProgramDeclaration]
  | manifestDeclaration name value => exact ⟨iff_of_true rfl rfl, rfl⟩
  | globalDeclaration globals => exact ⟨iff_of_true rfl rfl, rfl⟩

/-- The bindings of the declarations of the program, with the same names around them. -/
theorem programDeclarations_kept (state : State) (globals : List String)
    (declarations : List Passes.ProgramDeclaration) :
    (programDeclarationsBindings .source globals declarations =
        programDeclarationsBindings .renamed globals
          (visitProgramDeclarations renamer state declarations).1 <->
      keptProgramDeclarations renamer state globals declarations = true) ∧
    (visitProgramDeclarations renamer state declarations).2 =
      afterProgramDeclarations renamer state declarations := by
  induction declarations generalizing state with
  | nil => exact ⟨iff_of_true rfl rfl, rfl⟩
  | cons declaration rest restKept =>
      rcases programDeclaration_kept renamer state globals declaration
        with ⟨declarationIff, declarationAfter⟩
      rcases restKept (afterProgramDeclaration renamer state declaration)
        with ⟨restIff, restAfter⟩
      constructor
      · simp [programDeclarationsBindings, visitProgramDeclarations,
          keptProgramDeclarations, declarationIff, declarationAfter, restIff]
      · simp [visitProgramDeclarations, afterProgramDeclarations, declarationAfter,
          restAfter]

/-- A traversal leaves the names that the program declares. -/
theorem programNames_visited (state : State)
    (declarations : List Passes.ProgramDeclaration) :
    programNames (visitProgramDeclarations renamer state declarations).1 =
      programNames declarations := by
  induction declarations generalizing state with
  | nil => rfl
  | cons declaration rest restNames =>
      cases declaration <;>
        simp [visitProgramDeclarations, visitProgramDeclaration, programNames, restNames]

/-- A renamer keeps the bindings of a program if and only if every occurrence resolves
alike. -/
theorem program_kept (state : State) (program : Passes.Program) :
    programBindings .source program =
        programBindings .renamed (renameProgram renamer state program) <->
      keptProgram renamer state program = true := by
  rcases programDeclarations_kept renamer state (programNames program.declarations)
    program.declarations with ⟨declarationsIff, declarationsAfter⟩
  have statementsIff := statements_kept renamer
    (afterProgramDeclarations renamer state program.declarations)
    (Declared.kept (programNames program.declarations)) [] program.statements
  rw [Declared.source_kept, Declared.renamed_kept] at statementsIff
  simp [programBindings, renameProgram, keptProgram, programNames_visited,
    declarationsIff, declarationsAfter, statementsIff]

/-! ## Programs under renamers that give equal names -/

section Simulations

variable {First Second : Type} {first : Renamer First} {second : Renamer Second}
  {relation : First -> Second -> Prop}

theorem visitLets_related (simulation : Simulation first second relation) {state : First}
    {other : Second} (related : relation state other) (statements : List Statement) :
    (visitLets first state statements).1 = (visitLets second other statements).1 ∧
      relation (visitLets first state statements).2
        (visitLets second other statements).2 := by
  induction statements generalizing state other with
  | nil => exact ⟨rfl, related⟩
  | cons statement rest restRelated =>
      by_cases isLet : exists names initializers, statement = .letDeclaration names initializers
      · rcases isLet with ⟨names, initializers, rfl⟩
        have sameFirst := visitStatement_related simulation related
          (.letDeclaration names initializers)
        rcases restRelated sameFirst.2 with ⟨sameRest, stillRelated⟩
        simp only [visitLets, visitStatement_after]
        exact ⟨by rw [sameFirst.1, sameRest], stillRelated⟩
      · have notLet : forall names initializers,
            statement = .letDeclaration names initializers -> False :=
          fun names initializers equal => isLet ⟨names, initializers, equal⟩
        rcases restRelated related with ⟨sameRest, stillRelated⟩
        simp only [visitLets]
        exact ⟨by rw [sameRest], stillRelated⟩

theorem visitRoutineBody_related (simulation : Simulation first second relation)
    {state : First} {other : Second} (related : relation state other) (body : Statement) :
    (visitRoutineBody first state body).1 = (visitRoutineBody second other body).1 ∧
      relation (visitRoutineBody first state body).2
        (visitRoutineBody second other body).2 := by
  have single (body : Statement) :
      (visitStatement first state body).1 = (visitStatement second other body).1 ∧
        relation (visitStatement first state body).2
          (visitStatement second other body).2 := by
    rw [visitStatement_after, visitStatement_after]
    exact visitStatement_related simulation related body
  cases body
  case compound statements =>
    rcases visitLets_related simulation related statements with ⟨sameLets, afterLets⟩
    have again := visitStatement_related simulation afterLets
      (.compound (visitLets second other statements).1)
    simp only [visitRoutineBody, sameLets, visitStatement_after]
    exact again
  all_goals exact single _

theorem visitProgramDeclarations_related (simulation : Simulation first second relation)
    {state : First} {other : Second} (related : relation state other)
    (declarations : List Passes.ProgramDeclaration) :
    (visitProgramDeclarations first state declarations).1 =
        (visitProgramDeclarations second other declarations).1 ∧
      relation (visitProgramDeclarations first state declarations).2
        (visitProgramDeclarations second other declarations).2 := by
  induction declarations generalizing state other with
  | nil => exact ⟨rfl, related⟩
  | cons declaration rest restRelated =>
      have same : (visitProgramDeclaration first state declaration).1 =
            (visitProgramDeclaration second other declaration).1 ∧
          relation (visitProgramDeclaration first state declaration).2
            (visitProgramDeclaration second other declaration).2 := by
        have entered := simulation.enterFunction related
        cases declaration with
        | functionDeclaration name parameters body =>
            have sameBody := visitExpression_related simulation entered body
            simp only [visitProgramDeclaration, visitExpression_after]
            exact ⟨by rw [sameBody.1], sameBody.2⟩
        | routineDeclaration name parameters body =>
            have sameBody := visitRoutineBody_related simulation entered body
            simp only [visitProgramDeclaration]
            exact ⟨by rw [sameBody.1], sameBody.2⟩
        | _ => exact ⟨rfl, related⟩
      rcases restRelated same.2 with ⟨sameRest, stillRelated⟩
      simp only [visitProgramDeclarations]
      exact ⟨by rw [same.1, sameRest], stillRelated⟩

/-- Renamers that give equal names leave equal programs. -/
theorem renameProgram_related (simulation : Simulation first second relation)
    {state : First} {other : Second} (related : relation state other)
    (program : Passes.Program) :
    renameProgram first state program = renameProgram second other program := by
  have sameDeclarations :=
    visitProgramDeclarations_related simulation related program.declarations
  have sameStatements :=
    visitStatements_related simulation sameDeclarations.2 program.statements
  simp only [renameProgram, sameDeclarations.1, sameStatements.1]

end Simulations

/-! ## The analyzer -/

/-- The aliases are the names by the numbers of the variables that were met, and the
active loops have their aliases. -/
structure Numbered (state : AnalyzerState) (numbering : Numbering) : Prop where
  alias_ : forall name, state.forVariableUniqueAliases.lookup name =
    (numbering.met.lookup name).map (AnalyzerState.forVariableName name)
  counter : state.forLoopVarCounter = numbering.next
  active : forall name uniqueName, (name, uniqueName) ∈ state.activeForLoopScopes ->
    state.forVariableUniqueAliases.lookup name = some uniqueName

theorem start_numbered : Numbered AnalyzerState.start Numbering.start where
  alias_ _ := rfl
  counter := rfl
  active _ _ member := nomatch member

namespace Numbered

variable {state : AnalyzerState} {numbering : Numbering}

/-- An active loop has the alias of its variable, so the stack decides nothing. -/
theorem name (numbered : Numbered state numbering) (name : String) :
    state.getEffectiveVariableName name = numbering.nameOf name := by
  have byAlias : (state.forVariableUniqueAliases.lookup name).getD name =
      numbering.nameOf name := by
    rw [numbered.alias_ name, Numbering.nameOf]
    cases numbering.met.lookup name <;> rfl
  rw [AnalyzerState.getEffectiveVariableName]
  cases found : state.activeForLoopScopes.lookup name with
  | none =>
      rw [<- byAlias]
      cases state.forVariableUniqueAliases.lookup name <;> rfl
  | some uniqueName =>
      rcases List.lookup_eq_some_iff.mp found with ⟨before, after, scopes, _⟩
      have isActive : (name, uniqueName) ∈ state.activeForLoopScopes := by
        rw [scopes]
        exact List.mem_append_right before List.mem_cons_self
      rw [numbered.active name uniqueName isActive] at byAlias
      exact byAlias

/-- The analyzer gives a loop the name by the number of its variable. -/
theorem enterFor (numbered : Numbered state numbering) (loopVariable : String) :
    (state.enterFor loopVariable).1 = (numbering.meet loopVariable).1 ∧
      Numbered (state.enterFor loopVariable).2 (numbering.meet loopVariable).2 := by
  have aliasOf := numbered.alias_ loopVariable
  rw [AnalyzerState.enterFor, Numbering.meet]
  cases found : numbering.met.lookup loopVariable with
  | some number =>
      rw [found, Option.map_some] at aliasOf
      rw [aliasOf]
      refine ⟨rfl, numbered.alias_, numbered.counter, ?_⟩
      intro name uniqueName member
      rcases List.mem_cons.mp member with new | old
      · cases new
        exact aliasOf
      · exact numbered.active name uniqueName old
  | none =>
      rw [found, Option.map_none] at aliasOf
      rw [aliasOf, numbered.counter]
      refine ⟨rfl, ?_, rfl, ?_⟩
      · intro name
        by_cases isNew : name = loopVariable
        · simp [isNew]
        · have other : (name == loopVariable) = false := by simpa using isNew
          simpa only [List.lookup_cons, other] using numbered.alias_ name
      · intro name uniqueName member
        rcases List.mem_cons.mp member with new | old
        · cases new
          simp
        · have aliased := numbered.active name uniqueName old
          have different : name ≠ loopVariable := by
            intro same
            rw [same, aliasOf] at aliased
            cases aliased
          have other : (name == loopVariable) = false := by simpa using different
          simpa only [List.lookup_cons, other] using aliased

theorem leaveFor (numbered : Numbered state numbering) :
    Numbered state.leaveFor numbering where
  alias_ := numbered.alias_
  counter := numbered.counter
  active name uniqueName member :=
    numbered.active name uniqueName (List.mem_of_mem_tail member)

theorem enterFunction (numbered : Numbered state numbering) :
    Numbered state.enterFunction numbering.enterFunction where
  alias_ _ := rfl
  counter := numbered.counter
  active _ _ member := nomatch member

end Numbered

/-- The analyzer names the loops by the numbers of their variables. -/
theorem analyzer_numbered : Simulation analyzer numbered Numbered where
  name isNumbered := isNumbered.name
  enterFor isNumbered := isNumbered.enterFor
  leaveFor isNumbered := isNumbered.leaveFor
  enterFunction isNumbered := isNumbered.enterFunction

/-- `LET START() BE FOR i = 1 TO 3 DO FOR i = 1 TO 2 DO WRITEN(i)`. -/
def nestedLoops : Passes.Program :=
  { declarations :=
      [.routineDeclaration "START" []
        (.forStatement "i" "" (.integerLiteral 1) (.integerLiteral 3) none
          (.forStatement "i" "" (.integerLiteral 1) (.integerLiteral 2) none
            (.routineCall (.variableAccess "WRITEN") [.variableAccess "i"])))]
    statements := [] }

/-- `LET F() BE $( FOR i = 1 TO 2 DO WRITEN(i); LET i = 7; WRITEN(i) $)`. -/
def laterLet : Passes.Program :=
  { declarations :=
      [.routineDeclaration "F" []
        (.compound
          [.forStatement "i" "" (.integerLiteral 1) (.integerLiteral 2) none
            (.routineCall (.variableAccess "WRITEN") [.variableAccess "i"]),
            .letDeclaration ["i"] [.integerLiteral 7],
            .routineCall (.variableAccess "WRITEN") [.variableAccess "i"]])]
    statements := [] }

end Analysis
end NewBcpl
