import NewBcpl.ControlFlow.JumpTargets

namespace NewBcpl
namespace ControlFlow

open Builder

/-!
# When the target stacks are right

By induction over nestings without labels: the visit of a statement and of
everything in it is right exactly when the statement has none of the two shapes
that lose a target. A right visit is also shown to have a result, so that no
visit escapes the predicate by being undefined.
-/

section Balance

variable {inferType : Expression -> VarType}

/-- The visit has a result, keeps the stacks and leaves a current block that
exists, if any. -/
def Visits (inferType : Expression -> VarType) (statement : Statement)
    (builder : Builder) : Prop :=
  exists after, visitStatement inferType statement builder = some after ∧
    after.targets = builder.targets ∧ after.CurrentExists

theorem Visits.keepsTargets {statement : Statement} {builder : Builder}
    (visits : Visits inferType statement builder) :
    KeepsTargets inferType statement builder := by
  rcases visits with ⟨after, equal, kept, _⟩
  intro other otherEqual
  rw [equal, Option.some.injEq] at otherEqual
  rw [<- otherEqual]
  exact kept

/-- The visit of a statement is right exactly under the condition. -/
structure Decided (inferType : Expression -> VarType) (statement : Statement) : Prop where
  complete : forall {counted inList : Bool} {enclosing : Enclosing} {builder : Builder},
    Fits counted inList enclosing builder ->
    TargetsRight inferType enclosing statement builder ->
    Visits inferType statement builder ∧
      ((inList = true -> enclosing.advance ≠ none) ->
        jumpsSound inferType counted inList statement = true)
  sound : forall {counted inList : Bool} {enclosing : Enclosing} {builder : Builder},
    Fits counted inList enclosing builder ->
    jumpsSound inferType counted inList statement = true ->
    TargetsRight inferType enclosing statement builder ∧
      Visits inferType statement builder

/-- A statement that holds no jump and no loop. -/
theorem decided_leaf {statement : Statement}
    (visits : forall builder, builder.CurrentExists ->
      Visits inferType statement builder)
    (right : forall enclosing builder, TargetsRight inferType enclosing statement builder =
      KeepsTargets inferType statement builder)
    (isSound : forall counted inList,
      jumpsSound inferType counted inList statement = true) :
    Decided inferType statement := by
  constructor
  · intro counted inList enclosing builder fits _
    exact ⟨visits builder fits.current, fun _ => isSound counted inList⟩
  · intro counted inList enclosing builder fits _
    have visited := visits builder fits.current
    rw [right]
    exact ⟨visited.keepsTargets, visited⟩

/-- The edge of a jump leads to the intended block exactly when that is the back
of the stack. -/
theorem visitJump_aims_iff {statement : Statement} {jumpTargets : List Nat}
    {intended : Option Nat} {builder : Builder} (exists_ : builder.CurrentExists) :
    (forall after target, builder.visitJump statement jumpTargets = some after ->
      intended = some target -> AddsEdge builder.ensureCurrent after target) <->
    forall target, intended = some target -> jumpTargets.head? = some target := by
  rcases ensureCurrent_exists builder exists_ with ⟨reference, current, isOld⟩
  have addedOld : reference <
      (builder.ensureCurrent.addStatementTo reference statement).fresh := by
    rw [fresh_addStatementTo]
    exact isOld
  have added : ((builder.ensureCurrent.addStatementTo reference statement).block
      reference).successors = (builder.ensureCurrent.block reference).successors := by
    rw [block_addStatementTo_same _ _ isOld]
  unfold visitJump
  rw [addStatement_current _ current, Option.map_some]
  simp only [current_addStatementTo, current, Option.some.injEq]
  cases jumpTargets with
  | nil =>
      constructor
      · intro aims target equal
        rcases aims _ target rfl equal with ⟨source, isCurrent, edge⟩
        rw [current, Option.some.injEq] at isCurrent
        rw [<- isCurrent, block_setCurrent, added] at edge
        exact absurd (congrArg List.length edge) (by simp)
      · intro noTarget after target _ equal
        exact nomatch noTarget target equal
  | cons first rest =>
      constructor
      · intro aims target equal
        rcases aims _ target rfl equal with ⟨source, isCurrent, edge⟩
        rw [current, Option.some.injEq] at isCurrent
        rw [<- isCurrent, block_setCurrent, block_addEdge_same _ _ addedOld] at edge
        dsimp only at edge
        rw [added] at edge
        have last := List.append_cancel_left edge
        simp only [List.cons.injEq, and_true] at last
        rw [List.head?_cons, last]
      · intro head after target equal isIntended
        have isFirst := head target isIntended
        rw [List.head?_cons, Option.some.injEq] at isFirst
        refine ⟨reference, current, ?_⟩
        rw [<- equal, block_setCurrent, block_addEdge_same _ _ addedOld]
        dsimp only
        rw [added, isFirst]

/-- A jump is right when its stack has the intended block at its back, which fails
exactly inside a list. -/
theorem decided_jump {statement : Statement}
    (stack : Targets -> List Nat) (intended : Enclosing -> Option Nat) (loses : Bool)
    (visited : forall builder, visitStatement inferType statement builder =
      builder.visitJump statement (stack builder.targets))
    (right : forall enclosing builder, TargetsRight inferType enclosing statement builder =
      (KeepsTargets inferType statement builder ∧
        JumpAims inferType statement builder (intended enclosing)))
    (isSound : forall counted inList,
      jumpsSound inferType counted inList statement = !(loses && inList))
    (aims : forall {counted inList : Bool} {enclosing : Enclosing} {builder : Builder},
      Fits counted inList enclosing builder -> (loses && inList) = false ->
      forall target, intended enclosing = some target ->
        (stack builder.targets).head? = some target)
    (misses : forall {counted inList : Bool} {enclosing : Enclosing} {builder : Builder},
      Fits counted inList enclosing builder -> (loses && inList) = true ->
      enclosing.advance ≠ none ->
      exists target, intended enclosing = some target ∧
        (stack builder.targets).head? ≠ some target) :
    Decided inferType statement := by
  have visits (builder : Builder) (exists_ : builder.CurrentExists) :
      Visits inferType statement builder := by
    unfold Visits
    rw [visited]
    exact visitJump_visits exists_ statement _
  have aims_iff (enclosing : Enclosing) (builder : Builder)
      (exists_ : builder.CurrentExists) :
      JumpAims inferType statement builder (intended enclosing) <->
        forall target, intended enclosing = some target ->
          (stack builder.targets).head? = some target := by
    unfold JumpAims
    rw [visited]
    exact visitJump_aims_iff exists_
  constructor
  · intro counted inList enclosing builder fits isRight
    refine ⟨visits builder fits.current, fun advances => ?_⟩
    rw [right, aims_iff enclosing builder fits.current] at isRight
    rw [isSound]
    cases lost : loses && inList with
    | false => rfl
    | true =>
        have isList : inList = true := by
          rw [Bool.and_eq_true] at lost
          exact lost.2
        rcases misses fits lost (advances isList) with ⟨target, isIntended, notHead⟩
        exact absurd (isRight.2 target isIntended) notHead
  · intro counted inList enclosing builder fits isTrue
    have visit := visits builder fits.current
    rw [isSound, Bool.not_eq_true'] at isTrue
    rw [right, aims_iff enclosing builder fits.current]
    exact ⟨⟨visit.keepsTargets, aims fits isTrue⟩, visit⟩

/-- The statements of a compound statement, in turn. -/
theorem allRight_decided {statements : List Statement}
    (each : forall statement, statement ∈ statements -> Decided inferType statement)
    {counted inList : Bool} {enclosing : Enclosing} {builder : Builder}
    (fits : Fits counted inList enclosing builder) :
    (AllRight inferType enclosing statements builder ->
      (exists after, visitStatements inferType statements builder = some after ∧
        after.targets = builder.targets ∧ after.CurrentExists) ∧
      ((inList = true -> enclosing.advance ≠ none) ->
        allSound inferType counted inList statements = true)) ∧
    (allSound inferType counted inList statements = true ->
      AllRight inferType enclosing statements builder ∧
      exists after, visitStatements inferType statements builder = some after ∧
        after.targets = builder.targets ∧ after.CurrentExists) := by
  induction statements generalizing builder with
  | nil =>
      refine ⟨fun _ => ⟨⟨builder, rfl, rfl, fits.current⟩, fun _ => rfl⟩, fun _ => ?_⟩
      exact ⟨trivial, builder, rfl, rfl, fits.current⟩
  | cons first rest ih =>
      have firstDecided := each first List.mem_cons_self
      have restDecided := fun statement member =>
        each statement (List.mem_cons_of_mem first member)
      have ensured := fits.ensureCurrent
      have next {middle : Builder} (visit : visitStatement inferType first
            builder.ensureCurrent = some middle)
          (kept : middle.targets = builder.ensureCurrent.targets)
          (current : middle.CurrentExists) : Fits counted inList enclosing middle :=
        ensured.kept kept
          (visitStatement_grows _ _ _ _ (Grows.refl _) visit).fresh_le current
      have visitAll {middle after : Builder} (visit : visitStatement inferType first
            builder.ensureCurrent = some middle)
          (kept : middle.targets = builder.ensureCurrent.targets)
          (visitRest : visitStatements inferType rest middle = some after)
          (keptRest : after.targets = middle.targets) :
          visitStatements inferType (first :: rest) builder = some after ∧
            after.targets = builder.targets := by
        constructor
        · simp only [visitStatements, Option.bind_eq_bind, visit, Option.bind_some,
            visitRest]
        · rw [keptRest, kept, targets_ensureCurrent]
      constructor
      · intro right
        simp only [AllRight] at right
        rcases firstDecided.complete ensured right.1 with
          ⟨⟨middle, visit, kept, current⟩, firstSound⟩
        rcases (ih restDecided (next visit kept current)).1 (right.2 middle visit) with
          ⟨⟨after, visitRest, keptRest, afterCurrent⟩, restSound⟩
        have all := visitAll visit kept visitRest keptRest
        refine ⟨⟨after, all.1, all.2, afterCurrent⟩, fun advances => ?_⟩
        simp only [allSound, firstSound advances, restSound advances, Bool.and_self]
      · intro sound
        simp only [allSound, Bool.and_eq_true] at sound
        rcases firstDecided.sound ensured sound.1 with
          ⟨firstRight, middle, visit, kept, current⟩
        rcases (ih restDecided (next visit kept current)).2 sound.2 with
          ⟨restRight, after, visitRest, keptRest, afterCurrent⟩
        have all := visitAll visit kept visitRest keptRest
        refine ⟨?_, after, all.1, all.2, afterCurrent⟩
        simp only [AllRight]
        refine ⟨firstRight, fun other otherVisit => ?_⟩
        rw [visit, Option.some.injEq] at otherVisit
        rw [<- otherVisit]
        exact restRight

/-- The commands of the cases, each in a block that exists. -/
theorem casesRight_decided {cases : List CaseStatement}
    (each : forall branch, branch ∈ cases -> Decided inferType branch.command)
    {counted inList : Bool} {enclosing : Enclosing} {builder : Builder}
    (fits : Fits counted inList enclosing builder) (join : Nat) {caseBlock : Nat}
    (created : caseBlock + cases.length <= builder.fresh) :
    (CasesRight inferType enclosing join caseBlock cases builder ->
      (exists after, visitCases inferType join caseBlock cases builder = some after ∧
        after.targets = builder.targets ∧ after.CurrentExists ∧
        builder.fresh <= after.fresh) ∧
      ((inList = true -> enclosing.advance ≠ none) ->
        casesSound inferType counted inList cases = true)) ∧
    (casesSound inferType counted inList cases = true ->
      CasesRight inferType enclosing join caseBlock cases builder ∧
      exists after, visitCases inferType join caseBlock cases builder = some after ∧
        after.targets = builder.targets ∧ after.CurrentExists ∧
        builder.fresh <= after.fresh) := by
  induction cases generalizing builder caseBlock with
  | nil =>
      refine ⟨fun _ => ⟨⟨builder, rfl, rfl, fits.current, Nat.le_refl _⟩, fun _ => rfl⟩,
        fun _ => ⟨trivial, builder, rfl, rfl, fits.current, Nat.le_refl _⟩⟩
  | cons first rest ih =>
      cases first with
      | mk constantExpr resolved command =>
      have firstDecided : Decided inferType command := each _ List.mem_cons_self
      have restDecided := fun branch member =>
        each branch
          (List.mem_cons_of_mem (CaseStatement.mk constantExpr resolved command) member)
      rw [List.length_cons] at created
      have entered : Fits counted inList enclosing (builder.setCurrent (some caseBlock)) :=
        fits.kept rfl (Nat.le_refl _) (currentExists_of rfl (by
          rw [fresh_setCurrent]
          omega))
      -- What the visit of the first command leaves for the others.
      have next {visited : Builder} (visit : visitStatement inferType command
            (builder.setCurrent (some caseBlock)) = some visited)
          (kept : visited.targets = (builder.setCurrent (some caseBlock)).targets)
          (current : visited.CurrentExists) :
          Fits counted inList enclosing (visited.addFallThrough join) ∧
            builder.fresh <= (visited.addFallThrough join).fresh := by
        have grown := (visitStatement_grows _ _ _ _ (Grows.refl _) visit).fresh_le
        refine ⟨entered.kept ?_ ?_ ?_, ?_⟩
        · rw [targets_addFallThrough, kept]
        · rw [fresh_addFallThrough]
          exact grown
        · intro reference isCurrent
          rw [current_addFallThrough] at isCurrent
          rw [fresh_addFallThrough]
          exact current reference isCurrent
        · rw [fresh_addFallThrough]
          exact grown
      have visitAll {visited after : Builder} (visit : visitStatement inferType command
            (builder.setCurrent (some caseBlock)) = some visited)
          (kept : visited.targets = (builder.setCurrent (some caseBlock)).targets)
          (visitRest : visitCases inferType join (caseBlock + 1) rest
            (visited.addFallThrough join) = some after)
          (keptRest : after.targets = (visited.addFallThrough join).targets) :
          visitCases inferType join caseBlock
              (.mk constantExpr resolved command :: rest) builder = some after ∧
            after.targets = builder.targets := by
        constructor
        · simp only [visitCases, Option.bind_eq_bind, visit, Option.bind_some, visitRest]
        · rw [keptRest, targets_addFallThrough, kept, targets_setCurrent]
      constructor
      · intro right
        simp only [CasesRight] at right
        rcases firstDecided.complete entered right.1 with
          ⟨⟨visited, visit, kept, current⟩, firstSound⟩
        have following := next visit kept current
        rcases (ih restDecided following.1 (by omega)).1 (right.2 visited visit) with
          ⟨⟨after, visitRest, keptRest, afterCurrent, grown⟩, restSound⟩
        have all := visitAll visit kept visitRest keptRest
        refine ⟨⟨after, all.1, all.2, afterCurrent, Nat.le_trans following.2 grown⟩,
          fun advances => ?_⟩
        simp only [casesSound, firstSound advances, restSound advances, Bool.and_self]
      · intro sound
        simp only [casesSound, Bool.and_eq_true] at sound
        rcases firstDecided.sound entered sound.1 with
          ⟨firstRight, visited, visit, kept, current⟩
        have following := next visit kept current
        have remaining : caseBlock + 1 + rest.length <=
            (visited.addFallThrough join).fresh := by omega
        rcases (ih restDecided following.1 remaining).2 sound.2 with
          ⟨restRight, after, visitRest, keptRest, afterCurrent, grown⟩
        have all := visitAll visit kept visitRest keptRest
        refine ⟨?_, after, all.1, all.2, afterCurrent, Nat.le_trans following.2 grown⟩
        simp only [CasesRight]
        refine ⟨firstRight, fun other otherVisit => ?_⟩
        rw [visit, Option.some.injEq] at otherVisit
        rw [<- otherVisit]
        exact restRight

theorem visitInitializers_visits {initializers : List Expression}
    (free : allHaveNoValof initializers = true) (names : List String) (builder : Builder)
    {reference : Nat} (current : builder.current = some reference)
    (isOld : reference < builder.fresh) :
    exists after, visitInitializers inferType names initializers builder = some after ∧
      after.targets = builder.targets ∧ after.CurrentExists := by
  induction initializers generalizing names builder with
  | nil =>
      refine ⟨builder, ?_, rfl, currentExists_of current isOld⟩
      cases names <;> simp only [visitInitializers]
  | cons initializer rest ih =>
      cases names with
      | nil => exact ⟨builder, rfl, rfl, currentExists_of current isOld⟩
      | cons name names =>
          simp only [allHaveNoValof, Bool.and_eq_true] at free
          simp only [visitInitializers, visitExpression_noValof initializer free.1,
            Option.bind_eq_bind, Option.bind_some, addStatement_current _ current]
          rcases ih free.2 names
            (builder.addStatementTo reference (assignVariable name initializer))
            (by rw [current_addStatementTo, current])
            (by rw [fresh_addStatementTo]; exact isOld) with ⟨after, visits, kept, exists_⟩
          exact ⟨after, visits, by rw [kept, targets_addStatementTo], exists_⟩

theorem visitDeclarations_visits {declarations : List Declaration}
    (free : forall declaration, declaration ∈ declarations ->
      declarationHasNoValof declaration = true)
    {builder : Builder} (exists_ : builder.CurrentExists) :
    exists after, visitDeclarations inferType declarations builder = some after ∧
      after.targets = builder.targets ∧ after.CurrentExists ∧
      builder.fresh <= after.fresh := by
  induction declarations generalizing builder with
  | nil => exact ⟨builder, rfl, rfl, exists_, Nat.le_refl _⟩
  | cons first rest ih =>
      have freeFirst := free first List.mem_cons_self
      rcases ih (fun declaration member =>
          free declaration (List.mem_cons_of_mem first member))
          (ensureCurrent_currentExists exists_) with ⟨after, visits, kept, current, grown⟩
      refine ⟨after, ?_, by rw [kept, targets_ensureCurrent], current,
        Nat.le_trans (ensureCurrent_fresh_le builder) grown⟩
      cases first with
      | staticDeclaration name initializer =>
          simp only [declarationHasNoValof] at freeFirst
          simp only [visitDeclarations, visitExpression_noValof initializer freeFirst,
            Option.bind_eq_bind, Option.bind_some, visits]
      | manifestDeclaration name value => simp only [visitDeclarations, visits]
      | globalDeclaration globals => simp only [visitDeclarations, visits]

theorem decided_if {condition : Expression} {thenBranch : Statement}
    (free : hasNoValof condition = true)
    (branch : Decided inferType thenBranch) :
    Decided inferType (.ifStatement condition thenBranch) := by
  have enters {counted inList : Bool} {enclosing : Enclosing} {builder : Builder}
      (fits : Fits counted inList enclosing builder) :
      exists entered, builder.enterIf (.ifStatement condition thenBranch) = some entered ∧
        entered.targets = builder.targets ∧ Fits counted inList enclosing entered := by
    rcases enterIf_visits fits.current (.ifStatement condition thenBranch) with
      ⟨entered, equal, kept, current⟩
    exact ⟨entered, equal, kept, fits.kept kept
      (enterIf_grows (Grows.refl _) equal).fresh_le current⟩
  -- The visit of the whole from the visit of the branch.
  have visits {builder entered : Builder}
      (equal : builder.enterIf (.ifStatement condition thenBranch) = some entered)
      (kept : entered.targets = builder.targets)
      (inner : Visits inferType thenBranch entered) :
      Visits inferType (.ifStatement condition thenBranch) builder := by
    rcases inner with ⟨after, visit, keptInner, _⟩
    have whole : visitStatement inferType (.ifStatement condition thenBranch) builder =
        some ((after.addFallThrough (builder.ensureCurrent.fresh + 1)).setCurrent
          (some (builder.ensureCurrent.fresh + 1))) := by
      simp only [visitStatement, Option.bind_eq_bind, visitExpression_noValof _ free,
        Option.bind_some, equal, visit, Option.pure_def]
    have entered_fresh : entered.fresh = builder.ensureCurrent.fresh + 2 := by
      rcases Option.map_eq_some_iff.mp equal with ⟨added, adds, enteredEqual⟩
      rcases addStatement_inv adds with ⟨reference, current, addedEqual⟩
      rw [<- enteredEqual, addedEqual]
      simp [current]
    have grown := (visitStatement_grows _ _ _ _ (Grows.refl entered) visit).fresh_le
    refine ⟨_, whole, ?_, ?_⟩
    · rw [targets_setCurrent, targets_addFallThrough, keptInner, kept]
    · refine currentExists_of rfl ?_
      rw [fresh_setCurrent, fresh_addFallThrough]
      omega
  constructor
  · intro counted inList enclosing builder fits right
    rcases enters fits with ⟨entered, equal, kept, inside⟩
    simp only [TargetsRight] at right
    have branchRight := right.2 builder entered (visitExpression_noValof _ free _) equal
    rcases branch.complete inside branchRight with ⟨inner, isSound⟩
    refine ⟨visits equal kept inner, fun advances => ?_⟩
    simp only [jumpsSound]
    exact isSound advances
  · intro counted inList enclosing builder fits isSound
    rcases enters fits with ⟨entered, equal, kept, inside⟩
    simp only [jumpsSound] at isSound
    rcases branch.sound inside isSound with ⟨branchRight, inner⟩
    have whole := visits equal kept inner
    refine ⟨?_, whole⟩
    simp only [TargetsRight]
    refine ⟨whole.keepsTargets, fun visited other visit otherEqual => ?_⟩
    rw [visitExpression_noValof _ free, Option.some.injEq] at visit
    rw [<- visit, equal, Option.some.injEq] at otherEqual
    rw [<- otherEqual]
    exact branchRight

/-- Popping the targets of a loop whose body kept the stacks. -/
theorem popLoop_insideLoop {builder : Builder} {targets : Targets} {exit advance : Nat}
    (inside : builder.targets = targets.insideLoop exit advance) :
    exists popped, builder.popLoop = some popped ∧ popped.targets = targets ∧
      SameGraph builder popped := by
  simp only [Builder.targets, Targets.insideLoop, Targets.mk.injEq] at inside
  have pops : builder.popLoop = some { builder with
      breakTargets := targets.breaks, loopTargets := targets.loops } := by
    simp only [popLoop, inside.1, inside.2.1]
  refine ⟨_, pops, ?_, popLoop_sameGraph pops⟩
  simp only [Builder.targets, inside.2.2]

theorem loopPops_insideLoop {body : Statement} {entered : Builder} {targets : Targets}
    {exit advance : Nat} (pushed : entered.targets = targets.insideLoop exit advance)
    (keeps : KeepsTargets inferType body entered) : LoopPops inferType body entered := by
  intro inside visit
  have kept := keeps inside visit
  rw [pushed] at kept
  simp only [Builder.targets, Targets.insideLoop, Targets.mk.injEq] at kept
  rw [kept.1, kept.2.1]
  simp

theorem currentExists_sameGraph {first second : Builder} (same : SameGraph first second)
    (exists_ : first.CurrentExists) : second.CurrentExists := by
  intro reference current
  rw [same.current] at current
  rw [same.fresh]
  exact exists_ reference current

/-- The last steps of a loop: the current block is the exit, and the targets are
popped. -/
theorem popLoop_visits {builder : Builder} {targets : Targets} {exit advance : Nat}
    (inside : builder.targets = targets.insideLoop exit advance)
    (current : builder.current = some exit) (isOld : exit < builder.fresh) :
    exists after, builder.popLoop = some after ∧ after.targets = targets ∧
      after.CurrentExists := by
  rcases popLoop_insideLoop inside with ⟨popped, pops, kept, same⟩
  exact ⟨popped, pops, kept,
    currentExists_sameGraph same (currentExists_of current isOld)⟩

theorem leaveFor_visits {builder : Builder} {targets : Targets} {header : Nat}
    {uniqueName : String} {stepExpr : Option Expression}
    (inside : builder.targets = targets.insideLoop (header + 3) (header + 2))
    (isOld : header + 3 < builder.fresh) :
    exists after, builder.leaveFor header uniqueName stepExpr = some after ∧
      after.targets = targets ∧ after.CurrentExists := by
  apply popLoop_visits
  · simp only [targets_setCurrent, targets_addEdge, targets_addStatementTo,
      targets_addEdgeFromCurrent]
    exact inside
  · rfl
  · simp only [fresh_setCurrent, fresh_addEdge, fresh_addStatementTo,
      fresh_addEdgeFromCurrent]
    exact isOld

theorem leaveVectorForEach_visits {builder : Builder} {targets : Targets} {header : Nat}
    {indexName : String}
    (inside : builder.targets = targets.insideLoop (header + 3) (header + 2))
    (isOld : header + 3 < builder.fresh) :
    exists after, builder.leaveVectorForEach header indexName = some after ∧
      after.targets = targets ∧ after.CurrentExists := by
  apply popLoop_visits
  · simp only [targets_setCurrent, targets_addEdge, targets_addStatementTo,
      targets_addFallThrough]
    exact inside
  · rfl
  · simp only [fresh_setCurrent, fresh_addEdge, fresh_addStatementTo,
      fresh_addFallThrough]
    exact isOld

theorem decided_for {loopVariable uniqueName : String}
    {startExpr endExpr : Expression} {stepExpr : Option Expression} {body : Statement}
    (free : hasNoValof startExpr = true)
    (bodyDecided : Decided inferType body) :
    Decided inferType
      (.forStatement loopVariable uniqueName startExpr endExpr stepExpr body) := by
  have enters {counted inList : Bool} {enclosing : Enclosing} {builder : Builder}
      (fits : Fits counted inList enclosing builder) :
      exists entered, builder.ensureCurrent.enterFor
          (.forStatement loopVariable uniqueName startExpr endExpr stepExpr body)
          uniqueName startExpr = some entered ∧
        entered.targets = builder.targets.insideLoop (builder.ensureCurrent.fresh + 3)
          (builder.ensureCurrent.fresh + 2) ∧
        entered.fresh = builder.ensureCurrent.fresh + 4 ∧
        Fits true false { enclosing with
          exit := some (builder.ensureCurrent.fresh + 3)
          advance := some (builder.ensureCurrent.fresh + 2) } entered := by
    rcases ensureCurrent_exists builder fits.current with ⟨init, current, _⟩
    rcases enterFor_visits current
      (.forStatement loopVariable uniqueName startExpr endExpr stepExpr body)
      uniqueName startExpr with ⟨entered, equal, pushed, fresh, enteredCurrent⟩
    have grown := ensureCurrent_fresh_le builder
    rw [targets_ensureCurrent] at pushed
    exact ⟨entered, equal, pushed, fresh, fits.insideLoop pushed (by omega) (by omega)
      (by omega) (currentExists_of enteredCurrent (by omega))⟩
  have visits {builder entered : Builder}
      (equal : builder.ensureCurrent.enterFor
        (.forStatement loopVariable uniqueName startExpr endExpr stepExpr body)
        uniqueName startExpr = some entered)
      (pushed : entered.targets = builder.targets.insideLoop
        (builder.ensureCurrent.fresh + 3) (builder.ensureCurrent.fresh + 2))
      (fresh : entered.fresh = builder.ensureCurrent.fresh + 4)
      (inner : Visits inferType body entered) :
      Visits inferType
        (.forStatement loopVariable uniqueName startExpr endExpr stepExpr body) builder := by
    rcases inner with ⟨inside, visit, kept, _⟩
    have grown := (visitStatement_grows _ _ _ _ (Grows.refl entered) visit).fresh_le
    have insideFor : exists after,
        inside.leaveFor builder.ensureCurrent.fresh uniqueName stepExpr = some after ∧
          after.targets = builder.targets ∧ after.CurrentExists :=
      leaveFor_visits (kept.trans pushed) (by omega)
    rcases insideFor with ⟨after, leaves, keptAfter, current⟩
    refine ⟨after, ?_, keptAfter, current⟩
    simp only [visitStatement, Option.bind_eq_bind, visitExpression_noValof _ free,
      Option.bind_some, equal, visit, leaves]
  constructor
  · intro counted inList enclosing builder fits right
    rcases enters fits with ⟨entered, equal, pushed, fresh, inside⟩
    simp only [TargetsRight] at right
    have bodyRight := (right.2 builder.ensureCurrent entered
      (visitExpression_noValof _ free _) equal).1
    rcases bodyDecided.complete inside bodyRight with ⟨inner, isSound⟩
    refine ⟨visits equal pushed fresh inner, fun _ => ?_⟩
    simp only [jumpsSound]
    exact isSound fun notList => nomatch notList
  · intro counted inList enclosing builder fits isSound
    rcases enters fits with ⟨entered, equal, pushed, fresh, inside⟩
    simp only [jumpsSound] at isSound
    rcases bodyDecided.sound inside isSound with ⟨bodyRight, inner⟩
    have whole := visits equal pushed fresh inner
    refine ⟨?_, whole⟩
    simp only [TargetsRight]
    refine ⟨whole.keepsTargets, fun visited other visit otherEqual => ?_⟩
    rw [visitExpression_noValof _ free, Option.some.injEq] at visit
    rw [<- visit, equal, Option.some.injEq] at otherEqual
    rw [<- otherEqual, <- visit]
    exact ⟨bodyRight, loopPops_insideLoop pushed inner.keepsTargets⟩

theorem targets_popLoopIfAny (builder : Builder) :
    builder.popLoopIfAny.targets = { builder.targets with
      breaks := builder.targets.breaks.tail, loops := builder.targets.loops.tail } := rfl

/-- The second pop of a `FOREACH` over a vector is harmless exactly when nothing is
left on the stack. -/
theorem popLoopIfAny_kept_iff {counted inList : Bool} {enclosing : Enclosing}
    {builder after : Builder} (fits : Fits counted inList enclosing builder)
    (kept : after.targets = builder.targets) :
    after.popLoopIfAny.targets = builder.targets <-> counted = false := by
  rw [targets_popLoopIfAny, kept]
  constructor
  · intro equal
    cases isCounted : counted with
    | false => rfl
    | true =>
        have nonempty := (fits.inside isCounted).1
        have breaks := congrArg Targets.breaks equal
        dsimp only at breaks
        have lengths := congrArg List.length breaks
        rw [List.length_tail] at lengths
        have := List.length_pos_of_ne_nil nonempty
        omega
  · intro notCounted
    rcases fits.outside notCounted with ⟨noBreaks, noLoops⟩
    cases targets : builder.targets with
    | mk breaks loops endcases =>
        rw [targets] at noBreaks noLoops
        dsimp only at noBreaks noLoops
        rw [noBreaks, noLoops]
        rfl

theorem decided_vectorForEach {loopVariableName typeVariableName : String}
    {collection : Expression} {filterType inferredElementType : VarType} {body : Statement}
    (isVector : isListType (inferType collection) = false)
    (bodyDecided : Decided inferType body) :
    Decided inferType (.forEach loopVariableName typeVariableName collection body
      filterType inferredElementType) := by
  have notList : ¬ isListType (inferType collection) = true := by
    rw [isVector]
    exact Bool.false_ne_true
  have enters {counted inList : Bool} {enclosing : Enclosing} {builder : Builder}
      (fits : Fits counted inList enclosing builder) :
      exists entered, builder.ensureCurrent.enterVectorForEach loopVariableName collection
          (inferType collection) = some entered ∧
        entered.targets = builder.targets.insideLoop (builder.ensureCurrent.fresh + 3)
          (builder.ensureCurrent.fresh + 2) ∧
        entered.fresh = builder.ensureCurrent.fresh + 4 ∧
        Fits true false { enclosing with
          exit := some (builder.ensureCurrent.fresh + 3)
          advance := some (builder.ensureCurrent.fresh + 2) } entered := by
    rcases ensureCurrent_exists builder fits.current with ⟨init, current, _⟩
    rcases enterVectorForEach_visits current loopVariableName collection
      (inferType collection) with ⟨entered, equal, pushed, fresh, enteredCurrent⟩
    have grown := ensureCurrent_fresh_le builder
    rw [targets_ensureCurrent] at pushed
    exact ⟨entered, equal, pushed, fresh, fits.insideLoop pushed (by omega) (by omega)
      (by omega) (currentExists_of enteredCurrent (by omega))⟩
  -- The whole visit, before the second pop.
  have visits {builder entered : Builder}
      (equal : builder.ensureCurrent.enterVectorForEach loopVariableName collection
        (inferType collection) = some entered)
      (pushed : entered.targets = builder.targets.insideLoop
        (builder.ensureCurrent.fresh + 3) (builder.ensureCurrent.fresh + 2))
      (fresh : entered.fresh = builder.ensureCurrent.fresh + 4)
      (inner : Visits inferType body entered) :
      exists left : Builder, visitStatement inferType (.forEach loopVariableName typeVariableName
          collection body filterType inferredElementType) builder =
          some left.popLoopIfAny ∧
        left.targets = builder.targets ∧ left.CurrentExists := by
    rcases inner with ⟨inside, visit, kept, _⟩
    have grown := (visitStatement_grows _ _ _ _ (Grows.refl entered) visit).fresh_le
    have insideLoop : exists left, inside.leaveVectorForEach builder.ensureCurrent.fresh
          (builder.ensureCurrent.countHidden.countHidden.hiddenName "_forEach_idx_") =
          some left ∧ left.targets = builder.targets ∧ left.CurrentExists :=
      leaveVectorForEach_visits (kept.trans pushed) (by omega)
    rcases insideLoop with ⟨left, leaves, keptLeft, current⟩
    refine ⟨left, ?_, keptLeft, current⟩
    simp only [visitStatement, if_neg notList, Option.bind_eq_bind, equal,
      Option.bind_some, visit, leaves, Option.pure_def]
  constructor
  · intro counted inList enclosing builder fits right
    rcases enters fits with ⟨entered, equal, pushed, fresh, inside⟩
    simp only [TargetsRight, if_neg notList] at right
    rcases bodyDecided.complete inside (right.2 entered equal).1 with ⟨inner, isSound⟩
    rcases visits equal pushed fresh inner with ⟨left, visit, kept, current⟩
    have keptAfter := right.1 _ visit
    have notCounted := (popLoopIfAny_kept_iff fits kept).mp keptAfter
    refine ⟨⟨_, visit, keptAfter, current⟩, fun _ => ?_⟩
    simp only [jumpsSound, if_neg notList, notCounted, Bool.not_false, Bool.true_and]
    exact isSound fun notInList => nomatch notInList
  · intro counted inList enclosing builder fits isSound
    rcases enters fits with ⟨entered, equal, pushed, fresh, inside⟩
    simp only [jumpsSound, if_neg notList, Bool.and_eq_true, Bool.not_eq_true'] at isSound
    rcases bodyDecided.sound inside isSound.2 with ⟨bodyRight, inner⟩
    rcases visits equal pushed fresh inner with ⟨left, visit, kept, current⟩
    have whole : Visits inferType (.forEach loopVariableName typeVariableName collection
        body filterType inferredElementType) builder :=
      ⟨_, visit, (popLoopIfAny_kept_iff fits kept).mpr isSound.1, current⟩
    refine ⟨?_, whole⟩
    simp only [TargetsRight, if_neg notList]
    refine ⟨whole.keepsTargets, fun other otherEqual => ?_⟩
    rw [equal, Option.some.injEq] at otherEqual
    rw [<- otherEqual]
    exact ⟨bodyRight, loopPops_insideLoop pushed inner.keepsTargets⟩

theorem decided_listForEach {loopVariableName typeVariableName : String}
    {collection : Expression} {filterType inferredElementType : VarType} {body : Statement}
    (isList : isListType (inferType collection) = true)
    (bodyDecided : Decided inferType body) :
    Decided inferType (.forEach loopVariableName typeVariableName collection body
      filterType inferredElementType) := by
  have enters {counted inList : Bool} {enclosing : Enclosing} {builder : Builder}
      (fits : Fits counted inList enclosing builder) :
      exists entered, builder.ensureCurrent.enterListForEach loopVariableName
          typeVariableName collection inferredElementType = some entered ∧
        entered.targets = builder.targets ∧
        entered.fresh = builder.ensureCurrent.fresh + 3 ∧
        Fits counted true { enclosing with
          exit := some (builder.ensureCurrent.fresh + 2)
          advance := (visitStatement inferType body entered).map Builder.fresh }
          entered := by
    rcases ensureCurrent_exists builder fits.current with ⟨init, current, _⟩
    rcases enterListForEach_visits current loopVariableName typeVariableName collection
      inferredElementType with ⟨entered, equal, kept, fresh, enteredCurrent⟩
    have grown := ensureCurrent_fresh_le builder
    rw [targets_ensureCurrent] at kept
    refine ⟨entered, equal, kept, fresh, fits.insideList kept (by omega) (by omega) ?_
      (currentExists_of enteredCurrent (by omega))⟩
    intro target advances
    rcases Option.map_eq_some_iff.mp advances with ⟨inside, visit, isFresh⟩
    have := (visitStatement_grows _ _ _ _ (Grows.refl entered) visit).fresh_le
    omega
  have visits {builder entered : Builder}
      (equal : builder.ensureCurrent.enterListForEach loopVariableName
        typeVariableName collection inferredElementType = some entered)
      (kept : entered.targets = builder.targets)
      (fresh : entered.fresh = builder.ensureCurrent.fresh + 3)
      (inner : Visits inferType body entered) :
      Visits inferType (.forEach loopVariableName typeVariableName collection body
        filterType inferredElementType) builder := by
    rcases inner with ⟨inside, visit, keptInside, _⟩
    have grown := (visitStatement_grows _ _ _ _ (Grows.refl entered) visit).fresh_le
    refine ⟨(inside.leaveListForEach builder.ensureCurrent.fresh
      (builder.ensureCurrent.hiddenName "_forEach_cursor_")).popLoopIfAny, ?_, ?_, ?_⟩
    · simp only [visitStatement, if_pos isList, Option.bind_eq_bind, equal,
        Option.bind_some, visit, Option.pure_def]
    · simp only [leaveListForEach, targets_popLoopIfAny, targets_pushLoop,
        targets_setCurrent, targets_addEdge, targets_addStatementTo,
        targets_addFallThrough, targets_createBlock, Targets.insideLoop, List.tail_cons]
      rw [keptInside, kept]
    · refine @currentExists_of _ (builder.ensureCurrent.fresh + 2) rfl ?_
      simp only [leaveListForEach, fresh_popLoopIfAny, fresh_pushLoop, fresh_setCurrent,
        fresh_addEdge, fresh_addStatementTo, fresh_addFallThrough, fresh_createBlock]
      omega
  constructor
  · intro counted inList enclosing builder fits right
    rcases enters fits with ⟨entered, equal, kept, fresh, inside⟩
    simp only [TargetsRight, if_pos isList] at right
    rcases bodyDecided.complete inside (right.2 entered equal) with ⟨inner, isSound⟩
    refine ⟨visits equal kept fresh inner, fun _ => ?_⟩
    simp only [jumpsSound, if_pos isList]
    apply isSound
    intro _
    rcases inner with ⟨after, visit, _⟩
    rw [visit]
    intro isNone
    cases isNone
  · intro counted inList enclosing builder fits isSound
    rcases enters fits with ⟨entered, equal, kept, fresh, inside⟩
    simp only [jumpsSound, if_pos isList] at isSound
    rcases bodyDecided.sound inside isSound with ⟨bodyRight, inner⟩
    have whole := visits equal kept fresh inner
    refine ⟨?_, whole⟩
    simp only [TargetsRight, if_pos isList]
    refine ⟨whole.keepsTargets, fun other otherEqual => ?_⟩
    rw [equal, Option.some.injEq] at otherEqual
    rw [<- otherEqual]
    exact bodyRight

theorem leaveSwitchon_visits {builder : Builder} {targets : Targets} {join : Nat}
    (inside : builder.targets = targets.insideSwitch join) (isOld : join < builder.fresh) :
    exists after, builder.leaveSwitchon join = some after ∧ after.targets = targets ∧
      after.CurrentExists := by
  simp only [Builder.targets, Targets.insideSwitch, Targets.mk.injEq] at inside
  have leaves : builder.leaveSwitchon join = some { builder.setCurrent (some join) with
      endcaseTargets := targets.endcases } := by
    simp only [leaveSwitchon, popEndcase, setCurrent, inside.2.2]
  refine ⟨_, leaves, ?_, currentExists_of rfl isOld⟩
  simp only [Builder.targets, setCurrent, inside.1, inside.2.1]

theorem endcase_nonempty {builder : Builder} {targets : Targets} {join : Nat}
    (inside : builder.targets = targets.insideSwitch join) :
    builder.endcaseTargets ≠ [] := by
  simp only [Builder.targets, Targets.insideSwitch, Targets.mk.injEq] at inside
  rw [inside.2.2]
  simp

/-- Entering a `SWITCHON` with the facts about the stacks. -/
theorem enterSwitchon_fits {counted inList : Bool} {enclosing : Enclosing}
    {builder : Builder} (fits : Fits counted inList enclosing builder)
    (statement : Statement) (cases : List CaseStatement) (hasDefault : Bool) :
    exists entered, builder.enterSwitchon statement cases hasDefault = some entered ∧
      entered.targets = builder.targets.insideSwitch
        builder.endCurrentBlockAndStartNew.fresh ∧
      entered.fresh = builder.endCurrentBlockAndStartNew.fresh + 1 + cases.length +
        hasDefault.toNat ∧
      Fits counted inList
        { enclosing with join := some builder.endCurrentBlockAndStartNew.fresh }
        entered := by
  rcases enterSwitchon_visits fits.current statement cases hasDefault with
    ⟨entered, equal, pushed, fresh⟩
  have grown := enterSwitchon_grows (Grows.refl builder) equal
  refine ⟨entered, equal, pushed, fresh,
    fits.insideSwitch pushed grown.fresh_le (fun reference current => ?_)⟩
  rcases endCurrentBlockAndStartNew_exists builder fits.current with
    ⟨header, headerCurrent, isOld⟩
  have headerStays : entered.current = some header := by
    unfold enterSwitchon at equal
    rw [addStatement_current _ headerCurrent, Option.map_some] at equal
    simp only [current_addStatementTo, headerCurrent, Option.some.injEq] at equal
    rw [<- equal, current_addEdges]
    cases hasDefault <;> simp [current_createCaseBlocks, headerCurrent]
  rw [headerStays] at current
  cases current
  omega

theorem decided_switchon {expression : Expression}
    {cases : List CaseStatement}
    (each : forall branch, branch ∈ cases -> Decided inferType branch.command) :
    Decided inferType (.switchon expression cases none) := by
  have visits {builder entered visited : Builder}
      (equal : builder.enterSwitchon (.switchon expression cases none) cases false =
        some entered)
      (pushed : entered.targets = builder.targets.insideSwitch
        builder.endCurrentBlockAndStartNew.fresh)
      (fresh : entered.fresh = builder.endCurrentBlockAndStartNew.fresh + 1 +
        cases.length + false.toNat)
      (visit : visitCases inferType builder.endCurrentBlockAndStartNew.fresh
        (builder.endCurrentBlockAndStartNew.fresh + 1) cases entered = some visited)
      (kept : visited.targets = entered.targets)
      (grown : entered.fresh <= visited.fresh) :
      Visits inferType (.switchon expression cases none) builder := by
    rcases leaveSwitchon_visits (kept.trans pushed) (by omega) with
      ⟨after, leaves, keptAfter, current⟩
    refine ⟨after, ?_, keptAfter, current⟩
    simp only [visitStatement, Option.bind_eq_bind, equal, Option.bind_some, visit, leaves]
  constructor
  · intro counted inList enclosing builder fits right
    rcases enterSwitchon_fits fits (.switchon expression cases none) cases false with
      ⟨entered, equal, pushed, fresh, inside⟩
    simp only [TargetsRight] at right
    have decided := casesRight_decided each inside
      builder.endCurrentBlockAndStartNew.fresh
      (show builder.endCurrentBlockAndStartNew.fresh + 1 + cases.length <= entered.fresh
        by omega)
    rcases decided.1 (right.2 entered equal).1 with
      ⟨⟨visited, visit, kept, _, grown⟩, isSound⟩
    refine ⟨visits equal pushed fresh visit kept grown, fun advances => ?_⟩
    simp only [jumpsSound]
    exact isSound advances
  · intro counted inList enclosing builder fits isSound
    rcases enterSwitchon_fits fits (.switchon expression cases none) cases false with
      ⟨entered, equal, pushed, fresh, inside⟩
    simp only [jumpsSound] at isSound
    have decided := casesRight_decided each inside
      builder.endCurrentBlockAndStartNew.fresh
      (show builder.endCurrentBlockAndStartNew.fresh + 1 + cases.length <= entered.fresh
        by omega)
    rcases decided.2 isSound with ⟨casesRight, visited, visit, kept, _, grown⟩
    have whole := visits equal pushed fresh visit kept grown
    refine ⟨?_, whole⟩
    simp only [TargetsRight]
    refine ⟨whole.keepsTargets, fun other otherEqual => ?_⟩
    rw [equal, Option.some.injEq] at otherEqual
    rw [<- otherEqual]
    refine ⟨casesRight, fun otherVisited otherVisit => ?_⟩
    rw [visit, Option.some.injEq] at otherVisit
    rw [<- otherVisit]
    exact endcase_nonempty (kept.trans pushed)

theorem decided_switchonDefault {expression : Expression}
    {cases : List CaseStatement} {defaultCase : Statement}
    (each : forall branch, branch ∈ cases -> Decided inferType branch.command)
    (defaultDecided : Decided inferType defaultCase) :
    Decided inferType (.switchon expression cases (some defaultCase)) := by
  have visits {builder entered visited branch : Builder}
      (equal : builder.enterSwitchon (.switchon expression cases (some defaultCase)) cases
        true = some entered)
      (pushed : entered.targets = builder.targets.insideSwitch
        builder.endCurrentBlockAndStartNew.fresh)
      (fresh : entered.fresh = builder.endCurrentBlockAndStartNew.fresh + 1 +
        cases.length + true.toNat)
      (visit : visitCases inferType builder.endCurrentBlockAndStartNew.fresh
        (builder.endCurrentBlockAndStartNew.fresh + 1) cases entered = some visited)
      (kept : visited.targets = entered.targets)
      (grown : entered.fresh <= visited.fresh)
      (visitDefault : visitStatement inferType defaultCase (visited.setCurrent (some
        (builder.endCurrentBlockAndStartNew.fresh + 1 + cases.length))) = some branch)
      (keptDefault : branch.targets = visited.targets) :
      Visits inferType (.switchon expression cases (some defaultCase)) builder := by
    have grownDefault := (visitStatement_grows _ _ _ _
      (Grows.refl _) visitDefault).fresh_le
    rw [fresh_setCurrent] at grownDefault
    have inside : (branch.addFallThrough builder.endCurrentBlockAndStartNew.fresh).targets =
        builder.targets.insideSwitch builder.endCurrentBlockAndStartNew.fresh := by
      rw [targets_addFallThrough, keptDefault, kept, pushed]
    rcases leaveSwitchon_visits inside (by rw [fresh_addFallThrough]; omega) with
      ⟨after, leaves, keptAfter, current⟩
    refine ⟨after, ?_, keptAfter, current⟩
    simp only [visitStatement, Option.bind_eq_bind, equal, Option.bind_some, visit,
      visitDefault, leaves]
  -- The state in which the default command is visited.
  have enterDefault {counted inList : Bool} {enclosing : Enclosing}
      {entered visited : Builder} {join : Nat}
      (inside : Fits counted inList enclosing entered)
      (fresh : entered.fresh = join + 1 + cases.length + true.toNat)
      (kept : visited.targets = entered.targets)
      (grown : entered.fresh <= visited.fresh) :
      Fits counted inList enclosing
        (visited.setCurrent (some (join + 1 + cases.length))) := by
    rw [Bool.toNat_true] at fresh
    refine inside.kept kept grown (currentExists_of rfl ?_)
    rw [fresh_setCurrent]
    omega
  constructor
  · intro counted inList enclosing builder fits right
    rcases enterSwitchon_fits fits (.switchon expression cases (some defaultCase)) cases
      true with ⟨entered, equal, pushed, fresh, inside⟩
    simp only [TargetsRight] at right
    have decided := casesRight_decided each inside
      builder.endCurrentBlockAndStartNew.fresh
      (show builder.endCurrentBlockAndStartNew.fresh + 1 + cases.length <= entered.fresh
        by omega)
    have rights := right.2 entered equal
    rcases decided.1 rights.1 with ⟨⟨visited, visit, kept, _, grown⟩, isSound⟩
    rcases defaultDecided.complete (enterDefault inside fresh kept grown)
      (rights.2 visited visit).1 with ⟨⟨branch, visitDefault, keptDefault, _⟩, defaultSound⟩
    refine ⟨visits equal pushed fresh visit kept grown visitDefault keptDefault,
      fun advances => ?_⟩
    simp only [jumpsSound, isSound advances, defaultSound advances, Bool.and_self]
  · intro counted inList enclosing builder fits isSound
    rcases enterSwitchon_fits fits (.switchon expression cases (some defaultCase)) cases
      true with ⟨entered, equal, pushed, fresh, inside⟩
    simp only [jumpsSound, Bool.and_eq_true] at isSound
    have decided := casesRight_decided each inside
      builder.endCurrentBlockAndStartNew.fresh
      (show builder.endCurrentBlockAndStartNew.fresh + 1 + cases.length <= entered.fresh
        by omega)
    rcases decided.2 isSound.1 with ⟨casesRight, visited, visit, kept, _, grown⟩
    rcases defaultDecided.sound (enterDefault inside fresh kept grown) isSound.2 with
      ⟨defaultRight, branch, visitDefault, keptDefault, _⟩
    have whole := visits equal pushed fresh visit kept grown visitDefault keptDefault
    refine ⟨?_, whole⟩
    simp only [TargetsRight]
    refine ⟨whole.keepsTargets, fun other otherEqual => ?_⟩
    rw [equal, Option.some.injEq] at otherEqual
    rw [<- otherEqual]
    refine ⟨casesRight, fun otherVisited otherVisit => ?_⟩
    rw [visit, Option.some.injEq] at otherVisit
    rw [<- otherVisit]
    refine ⟨defaultRight, fun otherBranch otherDefault => ?_⟩
    rw [visitDefault, Option.some.injEq] at otherDefault
    rw [<- otherDefault]
    exact endcase_nonempty ((keptDefault.trans kept).trans pushed)

theorem decided_compound {statements : List Statement}
    (each : forall statement, statement ∈ statements -> Decided inferType statement) :
    Decided inferType (.compound statements) := by
  constructor
  · intro counted inList enclosing builder fits right
    simp only [TargetsRight] at right
    simp only [jumpsSound]
    exact (allRight_decided each fits).1 right.2
  · intro counted inList enclosing builder fits isSound
    simp only [jumpsSound] at isSound
    rcases (allRight_decided each fits).2 isSound with ⟨right, visits⟩
    have whole : Visits inferType (.compound statements) builder := visits
    simp only [TargetsRight]
    exact ⟨⟨whole.keepsTargets, right⟩, whole⟩

theorem decided_block {declarations : List Declaration}
    {statements : List Statement}
    (free : forall declaration, declaration ∈ declarations ->
      declarationHasNoValof declaration = true)
    (each : forall statement, statement ∈ statements -> Decided inferType statement) :
    Decided inferType (.block declarations statements) := by
  have visits {builder declared : Builder}
      (declares : visitDeclarations inferType declarations builder = some declared)
      (kept : declared.targets = builder.targets)
      (inner : exists after, visitStatements inferType statements declared = some after ∧
        after.targets = declared.targets ∧ after.CurrentExists) :
      Visits inferType (.block declarations statements) builder := by
    rcases inner with ⟨after, visit, keptAfter, current⟩
    refine ⟨after, ?_, keptAfter.trans kept, current⟩
    simp only [visitStatement, Option.bind_eq_bind, declares, Option.bind_some, visit]
  constructor
  · intro counted inList enclosing builder fits right
    rcases visitDeclarations_visits free fits.current with
      ⟨declared, declares, kept, current, grown⟩
    simp only [TargetsRight] at right
    have inside := fits.kept kept grown current
    rcases (allRight_decided each inside).1 (right.2 declared declares) with
      ⟨inner, isSound⟩
    simp only [jumpsSound]
    exact ⟨visits declares kept inner, isSound⟩
  · intro counted inList enclosing builder fits isSound
    rcases visitDeclarations_visits free fits.current with
      ⟨declared, declares, kept, current, grown⟩
    simp only [jumpsSound] at isSound
    have inside := fits.kept kept grown current
    rcases (allRight_decided each inside).2 isSound with ⟨right, inner⟩
    have whole := visits declares kept inner
    refine ⟨?_, whole⟩
    simp only [TargetsRight]
    refine ⟨whole.keepsTargets, fun other otherDeclares => ?_⟩
    rw [declares, Option.some.injEq] at otherDeclares
    rw [<- otherDeclares]
    exact right

/-- Every nesting without labels is decided by the condition. -/
theorem nesting_decided {statement : Statement} (nesting : Nesting false statement) :
    Decided inferType statement := by
  induction nesting with
  | letDeclaration names free =>
      refine decided_leaf ?_
        (fun _ _ => by simp only [TargetsRight]) (fun _ _ => by simp only [jumpsSound])
      intro builder exists_
      rcases ensureCurrent_exists builder exists_ with ⟨reference, current, isOld⟩
      rcases @visitInitializers_visits inferType _ free names _ _ current isOld
        with ⟨after, visit, kept, afterExists⟩
      refine ⟨after, ?_, by rw [kept, targets_ensureCurrent], afterExists⟩
      simp only [visitStatement, visit]
  | @assignment lhs rhs freeLhs freeRhs =>
      refine decided_leaf ?_
        (fun _ _ => by simp only [TargetsRight]) (fun _ _ => by simp only [jumpsSound])
      intro builder exists_
      rcases addStatement_visits exists_ (.assignment lhs rhs) with
        ⟨after, adds, kept, afterExists⟩
      refine ⟨after, ?_, kept, afterExists⟩
      simp only [visitStatement, Option.bind_eq_bind, adds, Option.bind_some,
        visitExpressions_noValof _ freeLhs, visitExpressions_noValof _ freeRhs]
  | @routineCall routine arguments freeRoutine freeArguments =>
      refine decided_leaf ?_
        (fun _ _ => by simp only [TargetsRight]) (fun _ _ => by simp only [jumpsSound])
      intro builder exists_
      rcases addStatement_visits exists_ (.routineCall routine arguments) with
        ⟨after, adds, kept, afterExists⟩
      refine ⟨after, ?_, kept, afterExists⟩
      simp only [visitStatement, Option.bind_eq_bind, adds, Option.bind_some,
        visitExpression_noValof _ freeRoutine, visitExpressions_noValof _ freeArguments]
  | @stringStatement size free =>
      refine decided_leaf ?_
        (fun _ _ => by simp only [TargetsRight]) (fun _ _ => by simp only [jumpsSound])
      intro builder exists_
      rcases addStatement_visits exists_ (.stringStatement size) with
        ⟨after, adds, kept, afterExists⟩
      refine ⟨after, ?_, kept, afterExists⟩
      simp only [visitStatement, Option.bind_eq_bind, adds, Option.bind_some,
        visitExpression_noValof _ free]
  | brk =>
      refine decided_leaf ?_
        (fun _ _ => by simp only [TargetsRight]) (fun _ _ => by simp only [jumpsSound])
      intro builder exists_
      exact addStatement_visits exists_ .brk
  | ifStatement free _ branch => exact decided_if free branch
  | forStatement loopVariable uniqueName endExpr stepExpr free _ body =>
      exact decided_for free body
  | forEach loopVariableName typeVariableName collection filterType inferredElementType
      _ body =>
      cases isList : isListType (inferType collection) with
      | true => exact decided_listForEach isList body
      | false => exact decided_vectorForEach isList body
  | @switchon expression cases defaultCase _ _ each eachDefault =>
      cases defaultCase with
      | none => exact decided_switchon each
      | some command =>
          exact decided_switchonDefault each (eachDefault command rfl)
  | goto label =>
      refine decided_leaf ?_
        (fun _ _ => by simp only [TargetsRight]) (fun _ _ => by simp only [jumpsSound])
      intro builder exists_
      exact visitGoto_visits exists_ label
  | returnStatement =>
      refine decided_leaf ?_
        (fun _ _ => by simp only [TargetsRight]) (fun _ _ => by simp only [jumpsSound])
      intro builder exists_
      exact visitLeave_visits exists_ .returnStatement
  | finish =>
      refine decided_leaf ?_
        (fun _ _ => by simp only [TargetsRight]) (fun _ _ => by simp only [jumpsSound])
      intro builder exists_
      exact visitFinish_visits exists_
  | breakStatement =>
      refine decided_jump Targets.breaks
        Enclosing.exit true (fun _ => by simp only [visitStatement]; rfl)
        (fun _ _ => by simp only [TargetsRight]) (fun _ _ => by simp [jumpsSound]) ?_ ?_
      · intro counted inList enclosing builder fits kept
        exact fits.exit (by simpa using kept)
      · intro counted inList enclosing builder fits lost _
        rcases fits.lostExit (by simpa using lost) with ⟨target, isIntended, absent⟩
        exact ⟨target, isIntended, fun head => absent (List.mem_of_mem_head? head)⟩
  | loop =>
      refine decided_jump Targets.loops
        Enclosing.advance true (fun _ => by simp only [visitStatement]; rfl)
        (fun _ _ => by simp only [TargetsRight]) (fun _ _ => by simp [jumpsSound]) ?_ ?_
      · intro counted inList enclosing builder fits kept
        exact fits.advance (by simpa using kept)
      · intro counted inList enclosing builder fits lost advances
        rcases Option.ne_none_iff_exists'.mp advances with ⟨target, isIntended⟩
        exact ⟨target, isIntended, fun head =>
          fits.lostAdvance (by simpa using lost) target isIntended
            (List.mem_of_mem_head? head)⟩
  | endcase =>
      refine decided_jump Targets.endcases
        Enclosing.join false (fun _ => by simp only [visitStatement]; rfl)
        (fun _ _ => by simp only [TargetsRight]) (fun _ _ => by simp [jumpsSound]) ?_ ?_
      · intro counted inList enclosing builder fits _
        exact fits.join
      · intro counted inList enclosing builder fits lost
        cases lost
  | resultis expression =>
      refine decided_leaf ?_
        (fun _ _ => by simp only [TargetsRight]) (fun _ _ => by simp only [jumpsSound])
      intro builder exists_
      exact visitLeave_visits exists_ (.resultis expression)
  | compound _ each => exact decided_compound each
  | block free _ each => exact decided_block free each
  | labelTarget labelName noLabels => cases noLabels

end Balance

/-- Outside every construct. -/
def Enclosing.outermost : Enclosing :=
  { exit := none, advance := none, join := none }

/-- The body of a function starts with empty stacks. -/
theorem fits_outermost {builder : Builder} (current : builder.CurrentExists)
    (empty : builder.targets = { breaks := [], loops := [], endcases := [] }) :
    Fits false false Enclosing.outermost builder := by
  constructor
  · exact current
  · rw [empty]
    intro target member
    simp at member
  · rw [empty]
    exact fun _ => ⟨rfl, rfl⟩
  · intro counted
    cases counted
  · intro _ target isSome
    cases isSome
  · intro _ target isSome
    cases isSome
  · intro isList
    cases isList
  · intro isList
    cases isList
  · intro target isSome
    cases isSome

/-- The visits of a nesting, and of everything in it, keep the stacks, pop no empty
one and aim every jump at its innermost construct exactly when no `FOREACH` over a
vector or a string stands inside a `FOR` or another such `FOREACH`, and no `BREAK` or
`LOOP` has a `FOREACH` over a list as its innermost loop. The visit then has a
result, with the stacks of before. -/
theorem targetsRight_iff_jumpsSound (inferType : Expression -> VarType)
    {statement : Statement} (nesting : Nesting false statement) {builder : Builder}
    (current : builder.CurrentExists)
    (empty : builder.targets = { breaks := [], loops := [], endcases := [] }) :
    (TargetsRight inferType Enclosing.outermost statement builder <->
      jumpsSound inferType false false statement = true) ∧
    (jumpsSound inferType false false statement = true ->
      exists after, visitStatement inferType statement builder = some after ∧
        after.targets = builder.targets) := by
  have decided := @nesting_decided inferType statement nesting
  have fits := fits_outermost current empty
  refine ⟨⟨fun right => ?_, fun isSound => (decided.sound fits isSound).1⟩, ?_⟩
  · exact (decided.complete fits right).2 fun isList => nomatch isList
  · intro isSound
    rcases (decided.sound fits isSound).2 with ⟨after, visit, kept, _⟩
    exact ⟨after, visit, kept⟩

/-- The variable `l` is a list, every other collection a vector. -/
def listNamedL : Expression -> VarType
  | .variableAccess name => if name = "l" then .pointerToAnyList else .pointerToIntVec
  | _ => .pointerToIntVec

/-- `FOR i = 1 TO 3 DO $( SWITCHON i INTO $( CASE 1: ENDCASE; DEFAULT: BREAK $);
FOREACH x IN l DO y := x; LOOP $); FOREACH x IN v DO BREAK`. -/
def balancedLoops : Statement :=
  .compound [
    .forStatement "i" "i_for" (.integerLiteral 1#64) (.integerLiteral 3#64) none
      (.compound [
        .switchon (.variableAccess "i")
          [.mk (.integerLiteral 1#64) (some 1#64) .endcase] (some .breakStatement),
        .forEach "x" "" (.variableAccess "l")
          (.assignment [.variableAccess "y"] [.variableAccess "x"]) .unknown .unknown,
        .loop]),
    .forEach "x" "" (.variableAccess "v") .breakStatement .unknown .unknown]

theorem balancedLoops_nesting : Nesting false balancedLoops := by
  refine .compound fun statement member => ?_
  simp only [List.mem_cons, List.not_mem_nil, or_false] at member
  rcases member with equal | equal
  · rw [equal]
    refine .forStatement "i" "i_for" _ _ rfl (.compound fun inner member => ?_)
    simp only [List.mem_cons, List.not_mem_nil, or_false] at member
    rcases member with isSwitch | isEach | isLoop
    · rw [isSwitch]
      refine .switchon _ (fun branch member => ?_) (fun command isSome => ?_)
      · rw [List.mem_singleton.mp member]
        exact .endcase
      · cases isSome
        exact .breakStatement
    · rw [isEach]
      exact .forEach "x" "" _ _ _ (.assignment rfl rfl)
    · rw [isLoop]
      exact .loop
  · rw [equal]
    exact .forEach "x" "" _ _ _ .breakStatement

theorem targetsRight_balancedLoops :
    TargetsRight listNamedL Enclosing.outermost balancedLoops (Builder.start "f") :=
  (targetsRight_iff_jumpsSound listNamedL balancedLoops_nesting
    (currentExists_of rfl (by decide)) rfl).1.mpr (by decide)

/-- `FOR i = 1 TO 3 DO $( FOREACH x IN v DO y := x; BREAK $)`. -/
def lostTargets : Statement :=
  .forStatement "i" "i_for" (.integerLiteral 1#64) (.integerLiteral 3#64) none
    (.compound [
      .forEach "x" "" (.variableAccess "v")
        (.assignment [.variableAccess "y"] [.variableAccess "x"]) .unknown .unknown,
      .breakStatement])

/-- The inner `FOREACH` pops the targets of the `FOR`, so the `BREAK` after it has no
edge, and the `FOR` pops an empty stack. -/
theorem targets_lost :
    ¬ forall (inferType : Expression -> VarType) (statement : Statement),
      Nesting false statement ->
      TargetsRight inferType Enclosing.outermost statement (Builder.start "f") := by
  intro right
  have nesting : Nesting false lostTargets := by
    refine .forStatement "i" "i_for" _ _ rfl (.compound fun inner member => ?_)
    simp only [List.mem_cons, List.not_mem_nil, or_false] at member
    rcases member with isEach | isBreak
    · rw [isEach]
      exact .forEach "x" "" _ _ _ (.assignment rfl rfl)
    · rw [isBreak]
      exact .breakStatement
  have fits := fits_outermost
    (currentExists_of rfl (by decide) : (Builder.start "f").CurrentExists) rfl
  have isSound := (nesting_decided nesting).complete fits (right listNamedL _ nesting)
  exact absurd (isSound.2 fun isList => nomatch isList) (by decide)

end ControlFlow
end NewBcpl
