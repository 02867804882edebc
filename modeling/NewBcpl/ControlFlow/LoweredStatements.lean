import NewBcpl.ControlFlow.StatementLayouts

namespace NewBcpl
namespace ControlFlow

open Builder

/-!
# The layout that the builder makes

The visit of a structured statement keeps the current block open and the targets, and lays
the statement out from the end of the current block on. What is laid out is read in a later
graph: one that has the blocks of the visit as they are after it, but may have added to the
block that is current then.
-/

namespace BasicBlock

/-- Statements and edges can still be added to the block. -/
structure Open (block : BasicBlock) : Prop where
  successors : block.successors = []
  goesOn : block.endsWithControlFlow = false

/-- A block without statements and successors. -/
def Empty (block : BasicBlock) : Prop :=
  block.statements = [] ∧ block.successors = []

theorem Empty.isOpen {block : BasicBlock} (empty : block.Empty) : block.Open := by
  refine ⟨empty.2, ?_⟩
  unfold endsWithControlFlow
  rw [empty.1]
  rfl

end BasicBlock

namespace Builder

/-- The current block, if there is one, exists and is open. -/
def CurrentOpen (builder : Builder) : Prop :=
  forall reference, builder.current = some reference ->
    reference < builder.fresh ∧ (builder.block reference).Open

/-- The end of the current block. -/
def here (builder : Builder) : Option Point :=
  builder.current.map fun reference =>
    ⟨reference, (builder.block reference).statements.length⟩

/-- A graph keeps what a visit has made. -/
structure Keeps (before after : Builder) (graph : Nat -> BasicBlock) (exit : Option Nat) :
    Prop where
  settled : forall reference, Grows.Owns before reference -> reference < after.fresh ->
    after.current ≠ some reference -> graph reference = after.block reference
  extended : forall reference, after.current = some reference ->
    (after.block reference).statements <+: (graph reference).statements
  exits : forall block, after.exitBlock = some block -> exit = some block

section Growth

variable {before middle after builder : Builder} {reference target : Nat}
  {graph : Nat -> BasicBlock} {exit : Option Nat}

/-- A block of before that is not current stays as it is. -/
theorem Grows.untouched (grows : Grows before after) (old : reference < before.fresh)
    (other : before.current ≠ some reference) :
    after.block reference = before.block reference ∧ after.current ≠ some reference := by
  refine ⟨grows.unchanged reference old other, fun current => ?_⟩
  rcases grows.current reference current with same | new
  · exact other same
  · exact absurd old (Nat.not_lt.mpr new)

theorem Grows.owns (grows : Grows before after) (owned : Grows.Owns after reference) :
    Grows.Owns before reference := by
  rcases owned with current | new
  · exact grows.current reference current
  · exact Or.inr (Nat.le_trans grows.fresh_le new)

theorem Keeps.first (keeps : Keeps before after graph exit) (first : Grows before middle)
    (second : Grows middle after) (isOpen : middle.CurrentOpen) :
    Keeps before middle graph exit := by
  constructor
  · intro reference owned old other
    rcases second.untouched old other with ⟨same, later⟩
    rw [keeps.settled reference owned (Nat.lt_of_lt_of_le old second.fresh_le) later, same]
  · intro reference current
    have old := (isOpen reference current).1
    rcases second.extended reference old with ⟨added, more⟩
    have grown : (middle.block reference).statements <+: (after.block reference).statements :=
      ⟨added, more.symm⟩
    by_cases still : after.current = some reference
    · exact grown.trans (keeps.extended reference still)
    · rw [keeps.settled reference (first.current reference current)
        (Nat.lt_of_lt_of_le old second.fresh_le) still]
      exact grown
  · exact fun block found => keeps.exits block (second.registry.exitBlock block found)

theorem Keeps.second (keeps : Keeps before after graph exit) (first : Grows before middle) :
    Keeps middle after graph exit :=
  ⟨fun reference owned => keeps.settled reference (first.owns owned), keeps.extended,
    keeps.exits⟩

theorem block_addEdgeFromCurrent_other (other : builder.current ≠ some reference) :
    (builder.addEdgeFromCurrent target).block reference = builder.block reference := by
  unfold addEdgeFromCurrent
  cases current : builder.current with
  | none => rfl
  | some source =>
      refine block_addEdge_other builder target fun same => other ?_
      rw [current, same]

theorem addEdgeFromCurrent_kept (builder : Builder) (target : Nat) :
    (builder.addEdgeFromCurrent target).exitBlock = builder.exitBlock ∧
      (builder.addEdgeFromCurrent target).unresolvedGotos = builder.unresolvedGotos := by
  unfold addEdgeFromCurrent
  cases builder.current with
  | none => exact ⟨rfl, rfl⟩
  | some reference => exact ⟨rfl, rfl⟩

/-- A block that is open falls through. -/
theorem CurrentOpen.addFallThrough (isOpen : builder.CurrentOpen) (target : Nat) :
    builder.addFallThrough target = builder.addEdgeFromCurrent target := by
  unfold Builder.addFallThrough Builder.addEdgeFromCurrent
  cases current : builder.current with
  | none => rfl
  | some reference => simp [fallsThrough, current, (isOpen reference current).2.goesOn]

/-- The blocks of the visit of a part that is joined to a block. -/
def Closes (entered inside : Builder) (target : Nat) (graph : Nat -> BasicBlock) : Prop :=
  forall reference, Grows.Owns entered reference -> reference < inside.fresh ->
    graph reference = (inside.addEdgeFromCurrent target).block reference

theorem Closes.block (closes : Closes before after target graph) (grows : Grows before after)
    (isOpen : after.CurrentOpen) (current : after.current = some reference) :
    graph reference = { after.block reference with successors := [target] } := by
  have facts := isOpen reference current
  rw [closes reference (grows.current reference current) facts.1]
  unfold addEdgeFromCurrent
  rw [current]
  change (after.addEdge reference target).block reference = _
  rw [block_addEdge_same after target facts.1, facts.2.successors]
  rfl

theorem Closes.keeps (closes : Closes before after target graph) (grows : Grows before after)
    (isOpen : after.CurrentOpen)
    (exits : forall block, after.exitBlock = some block -> exit = some block) :
    Keeps before after graph exit := by
  refine ⟨fun reference owned old other => ?_, fun reference current => ?_, exits⟩
  · rw [closes reference owned old, block_addEdgeFromCurrent_other other]
  · rw [closes.block grows isOpen current]

theorem Closes.joins (closes : Closes before after target graph) (grows : Grows before after)
    (isOpen : after.CurrentOpen) : Joins graph after.here target := by
  intro point isHere
  rcases Option.map_eq_some_iff.mp isHere with ⟨reference, current, rfl⟩
  have block := closes.block grows isOpen current
  constructor
  · rw [block]
    exact List.drop_length
  · rw [block]

end Growth

/-- The visit of a part of a routine that lays it out. -/
structure Lowers (part : Part) (before after : Builder) : Prop where
  grows : Grows before after
  isOpen : after.CurrentOpen
  targets : after.targets = before.targets
  gotos : after.unresolvedGotos = before.unresolvedGotos
  laid : forall graph exit point, Keeps before after graph exit -> before.here = some point ->
    Laid graph exit before.targets part point after.here
  exits : forall graph exit block, Keeps before after graph exit ->
    after.exitBlock = some block -> before.exitBlock = some block ∨ (graph block).Empty

/-- The jumps out of the constructs around a statement have targets. -/
structure Serves (inLoop inSwitch : Bool) (targets : Targets) : Prop where
  loops : inLoop = true -> targets.breaks ≠ [] ∧ targets.loops ≠ []
  switches : inSwitch = true -> targets.endcases ≠ []

/-- A state in which the visit of a structured statement can start. -/
structure Ready (inLoop inSwitch : Bool) (builder : Builder) (current : Nat) : Prop where
  current : builder.current = some current
  isOpen : builder.CurrentOpen
  serves : Serves inLoop inSwitch builder.targets

/-- The visits of a statement lay it out. -/
def Lowered (inferType : Expression -> VarType) (inLoop inSwitch : Bool)
    (statement : Statement) : Prop :=
  forall builder current, Ready inLoop inSwitch builder current ->
    exists after, visitStatement inferType statement builder = some after ∧
      Lowers (.statement statement) builder after

section Statements

variable {inferType : Expression -> VarType} {inLoop inSwitch : Bool} {builder : Builder}
  {current target : Nat} {statement : Statement}

theorem visitStatement_grows_of {after : Builder}
    (visits : visitStatement inferType statement builder = some after) : Grows builder after :=
  visitStatement_grows statement builder builder after (.refl builder) visits

theorem Ready.ensured (ready : Ready inLoop inSwitch builder current) :
    builder.ensureCurrent = builder := by
  unfold ensureCurrent
  rw [ready.current]

theorem Ready.exists_ (ready : Ready inLoop inSwitch builder current) :
    current < builder.fresh :=
  (ready.isOpen current ready.current).1

theorem Ready.open_ (ready : Ready inLoop inSwitch builder current) :
    (builder.block current).Open :=
  (ready.isOpen current ready.current).2

theorem Ready.point (ready : Ready inLoop inSwitch builder current) {point : Point}
    (isHere : builder.here = some point) :
    point = ⟨current, (builder.block current).statements.length⟩ := by
  unfold here at isHere
  rw [ready.current] at isHere
  exact (Option.some.inj isHere).symm

theorem Ready.addStatement (ready : Ready inLoop inSwitch builder current)
    (statement : Statement) :
    builder.ensureCurrent.addStatement statement =
      some (builder.addStatementTo current statement) := by
  rw [ready.ensured, addStatement_current _ ready.current]

/-- Statements that are added to a block. -/
theorem addStatementsTo_facts (exists_ : current < builder.fresh) (code : List Statement) :
    (builder.addStatementsTo current code).current = builder.current ∧
      (builder.addStatementsTo current code).unresolvedGotos = builder.unresolvedGotos ∧
      (builder.addStatementsTo current code).exitBlock = builder.exitBlock ∧
      (builder.addStatementsTo current code).block current =
        { builder.block current with
          statements := (builder.block current).statements ++ code } := by
  induction code generalizing builder with
  | nil => exact ⟨rfl, rfl, rfl, by rw [List.append_nil]; rfl⟩
  | cons first rest ih =>
      have added := @ih (builder.addStatementTo current first) (by simpa using exists_)
      refine ⟨added.1, added.2.1, added.2.2.1, added.2.2.2.trans ?_⟩
      rw [block_addStatementTo_same builder first exists_, List.append_assoc]
      rfl

theorem lowered_straight {code : List Statement} (straight : straightCode statement = some code)
    (plain : forall other, other ∈ code -> BasicBlock.isControlFlow other = false)
    (visits : forall builder current, Ready inLoop inSwitch builder current ->
      visitStatement inferType statement builder = some (builder.addStatementsTo current code)) :
    Lowered inferType inLoop inSwitch statement := by
  intro builder current ready
  have visit := visits builder current ready
  rcases addStatementsTo_facts ready.exists_ code with ⟨same, gotos, exitBlock, block⟩
  rw [ready.current] at same
  refine ⟨_, visit, ⟨visitStatement_grows_of visit, ?_, targets_addStatementsTo .., gotos, ?_, ?_⟩⟩
  · intro reference isCurrent
    rw [same] at isCurrent
    cases isCurrent
    rw [block, fresh_addStatementsTo]
    refine ⟨ready.exists_, ready.open_.successors, ?_⟩
    unfold BasicBlock.endsWithControlFlow
    rw [List.getLast?_append]
    cases last : code.getLast? with
    | none => exact ready.open_.goesOn
    | some other => exact plain other (List.mem_of_getLast? last)
  · intro graph exit point keeps isHere
    rcases ready.point isHere with rfl
    unfold here
    rw [same, Option.map_some, block, List.length_append]
    refine .straight _ straight ?_
    rcases keeps.extended current same with ⟨others, grown⟩
    rw [block] at grown
    refine ⟨others, ?_⟩
    rw [<- grown, List.append_assoc, List.drop_left]
  · intro graph exit block _ found
    exact Or.inl (exitBlock ▸ found)

/-- The block of a statement behind which nothing of the visit is current. -/
theorem Keeps.closed {after : Builder} {graph : Nat -> BasicBlock} {exit : Option Nat}
    {added : List Statement} {successors : List Nat} {point : Point}
    (keeps : Keeps builder after graph exit) (ready : Ready inLoop inSwitch builder current)
    (isHere : builder.here = some point) (old : current < after.fresh)
    (other : after.current ≠ some current)
    (block : after.block current = { builder.block current with
      statements := (builder.block current).statements ++ added
      successors := (builder.block current).successors ++ successors }) :
    Ends graph point added successors := by
  rcases ready.point isHere with rfl
  have settled := keeps.settled current (Or.inl ready.current) old other
  constructor
  · rw [settled, block]
    exact List.drop_left
  · rw [settled, block, ready.open_.successors]
    rfl

theorem lowered_jump {jumpTargets : Builder -> List Nat}
    (visits : forall builder, visitStatement inferType statement builder =
      builder.visitJump statement (jumpTargets builder))
    (isJump : forall builder, builder.targets.ofJump statement = (jumpTargets builder).head?)
    (inside : forall builder current, Ready inLoop inSwitch builder current ->
      jumpTargets builder ≠ []) :
    Lowered inferType inLoop inSwitch statement := by
  intro builder current ready
  rcases List.exists_cons_of_ne_nil (inside builder current ready) with ⟨target, rest, stack⟩
  have visit : visitStatement inferType statement builder =
      some (((builder.addStatementTo current statement).addEdge current target).setCurrent
        none) := by
    rw [visits, stack]
    unfold visitJump
    rw [ready.addStatement, Option.map_some, current_addStatementTo, ready.current]
  refine ⟨_, visit, ⟨visitStatement_grows_of visit, (fun _ none_ => nomatch none_), rfl, rfl, ?_,
    fun _ _ _ _ found => Or.inl found⟩⟩
  intro graph exit point keeps isHere
  refine .jump ((isJump builder).trans (by rw [stack]; rfl))
    (keeps.closed ready isHere (by simpa using ready.exists_) nofun ?_)
  rw [block_setCurrent, block_addEdge_same _ _ (by simpa using ready.exists_),
    block_addStatementTo_same _ _ ready.exists_]

theorem lowered_finish : Lowered inferType inLoop inSwitch .finish := by
  intro builder current ready
  have visit : visitStatement inferType .finish builder =
      some ((builder.addStatementTo current .finish).setCurrent none) := by
    rw [visitStatement, ready.addStatement]
    rfl
  refine ⟨_, visit, ⟨visitStatement_grows_of visit, (fun _ none_ => nomatch none_), rfl, rfl, ?_,
    fun _ _ _ _ found => Or.inl found⟩⟩
  intro graph exit point keeps isHere
  refine .finish (keeps.closed ready isHere (by simpa using ready.exists_) nofun ?_)
  rw [block_setCurrent, block_addStatementTo_same _ _ ready.exists_, List.append_nil]

/-- The exit block of a state, created if need be. -/
theorem ensureExit_facts (builder : Builder) :
    exists exit, builder.ensureExit.exitBlock = some exit ∧
      (builder.exitBlock = some exit ∨
        builder.fresh ≤ exit ∧ exit < builder.ensureExit.fresh ∧
          (builder.ensureExit.block exit).Empty) ∧
      builder.ensureExit.current = builder.current ∧
      builder.ensureExit.targets = builder.targets ∧
      builder.ensureExit.unresolvedGotos = builder.unresolvedGotos ∧
      builder.fresh ≤ builder.ensureExit.fresh ∧
      forall reference, reference < builder.fresh ->
        builder.ensureExit.block reference = builder.block reference := by
  unfold ensureExit
  cases found : builder.exitBlock with
  | some exit => exact ⟨exit, found, Or.inl rfl, rfl, rfl, rfl, Nat.le_refl _, fun _ _ => rfl⟩
  | none =>
      have fresh : ((builder.createBlock "Exit_").modifyBlock builder.fresh
          (fun block => { block with isExit := true })).fresh = builder.fresh + 1 := by simp
      have block : ((builder.createBlock "Exit_").modifyBlock builder.fresh
          (fun block => { block with isExit := true })).block builder.fresh =
            { builder.newBlock "Exit_" with isExit := true } := by
        rw [block_modifyBlock_same _ _ (by simp), block_createBlock_new _ _ rfl]
      refine ⟨builder.fresh, rfl, Or.inr ⟨Nat.le_refl _, ?_, ?_⟩, rfl, rfl, rfl, ?_, ?_⟩
      · exact fresh ▸ Nat.lt_succ_self _
      · exact ⟨congrArg BasicBlock.statements block, congrArg BasicBlock.successors block⟩
      · exact fresh ▸ Nat.le_succ _
      · intro reference old
        change ((builder.createBlock "Exit_").modifyBlock builder.fresh _).block reference = _
        rw [block_modifyBlock_other _ _ (Nat.ne_of_lt old), block_createBlock_old _ _ old]

theorem lowered_leave (isLeave : isLeaving statement = true)
    (visits : forall builder, visitStatement inferType statement builder =
      builder.visitLeave statement) : Lowered inferType inLoop inSwitch statement := by
  intro builder current ready
  have exists_ := ready.exists_
  rcases ensureExit_facts (builder.addStatementTo current statement) with
    ⟨exit, isExit, from_, same, targets, gotos, grown, blocks⟩
  rw [fresh_addStatementTo] at from_ grown blocks
  have visit : visitStatement inferType statement builder =
      some ((((builder.addStatementTo current statement).ensureExit).addEdge current
        exit).setCurrent none) := by
    rw [visits]
    unfold visitLeave
    rw [ready.addStatement, Option.map_some]
    dsimp only
    rw [same, isExit, current_addStatementTo, ready.current]
  refine ⟨_, visit, ⟨visitStatement_grows_of visit, (fun _ none_ => nomatch none_), targets, gotos,
    ?_, ?_⟩⟩
  · intro graph other point keeps isHere
    refine .leave isLeave (keeps.exits exit isExit) (keeps.closed ready isHere ?_ nofun ?_)
    · simpa using Nat.lt_of_lt_of_le exists_ grown
    · rw [block_setCurrent, block_addEdge_same _ _ (Nat.lt_of_lt_of_le exists_ grown),
        blocks current exists_, block_addStatementTo_same _ _ exists_]
  · intro graph other block keeps found
    have sameExit : some exit = some block := isExit.symm.trans found
    cases sameExit
    rcases from_ with old | ⟨new, small, empty⟩
    · exact Or.inl old
    · right
      rw [keeps.settled exit (Or.inr new) (by simpa using small) nofun, block_setCurrent,
        block_addEdge_other _ _ (by omega)]
      exact empty

/-- A block without statements and successors is where a visit can start. -/
theorem here_head {reference : Nat} (isCurrent : builder.current = some reference)
    (empty : (builder.block reference).Empty) : builder.here = some (.head reference) := by
  unfold here
  rw [isCurrent, Option.map_some, empty.1]
  rfl

section Nested

variable {entered inside after : Builder} {part : Part} {reference next : Nat}
  {graph : Nat -> BasicBlock} {exit : Option Nat}

/-- The blocks outside a part that is visited. -/
theorem Lowers.outside (lowers : Lowers part entered inside) (old : reference < entered.fresh)
    (other : entered.current ≠ some reference) (target : Nat) :
    (inside.addEdgeFromCurrent target).block reference = entered.block reference := by
  rcases lowers.grows.untouched old other with ⟨same, notCurrent⟩
  rw [block_addEdgeFromCurrent_other notCurrent, same]

/-- A part of a construct that is joined to a block of the construct: behind the construct
another of its blocks is current. -/
theorem Keeps.nested (keeps : Keeps builder after graph exit) (grows : Grows builder entered)
    (lowers : Lowers part entered inside) (fresh : after.fresh = inside.fresh)
    (exitBlock : after.exitBlock = inside.exitBlock) (isNext : after.current = some next)
    (old : next < entered.fresh) (other : entered.current ≠ some next)
    (same : forall reference, Grows.Owns entered reference ->
      after.block reference = (inside.addEdgeFromCurrent target).block reference) :
    Keeps entered inside graph exit ∧ Joins graph inside.here target := by
  have closes : Closes entered inside target graph := by
    intro reference owned isOld
    rw [keeps.settled reference (grows.owns owned) (fresh ▸ isOld) ?_, same reference owned]
    rw [isNext]
    rintro ⟨⟩
    rcases owned with current | new
    · exact other current
    · exact absurd old (Nat.not_lt.mpr new)
  exact ⟨closes.keeps lowers.grows lowers.isOpen fun block found =>
    keeps.exits block (exitBlock.trans found), closes.joins lowers.grows lowers.isOpen⟩

/-- The visit of a part of a construct can start in an empty block. -/
theorem Ready.enter {inLoopThere inSwitchThere : Bool}
    (isCurrent : entered.current = some reference)
    (old : reference < entered.fresh) (empty : (entered.block reference).Empty)
    (serves : Serves inLoopThere inSwitchThere entered.targets) :
    Ready inLoopThere inSwitchThere entered reference := by
  refine ⟨isCurrent, fun other found => ?_, serves⟩
  rw [isCurrent] at found
  cases found
  exact ⟨old, empty.isOpen⟩

end Nested

/-- The state in which the branch of an `IF` is visited. -/
theorem enterIf_facts (ready : Ready inLoop inSwitch builder current) (statement : Statement) :
    exists entered, builder.enterIf statement = some entered ∧
      entered.current = some builder.fresh ∧ entered.fresh = builder.fresh + 2 ∧
      entered.targets = builder.targets ∧ entered.unresolvedGotos = builder.unresolvedGotos ∧
      entered.exitBlock = builder.exitBlock ∧
      entered.block current = { builder.block current with
        statements := (builder.block current).statements ++ [statement]
        successors := (builder.block current).successors ++
          [builder.fresh, builder.fresh + 1] } ∧
      (entered.block builder.fresh).Empty ∧ (entered.block (builder.fresh + 1)).Empty := by
  have exists_ := ready.exists_
  unfold enterIf
  rw [ready.addStatement, Option.map_some]
  simp only [current_addStatementTo, ready.current]
  refine ⟨_, rfl, by simp, by simp, by simp, rfl, rfl, ?_, ?_, ?_⟩
  all_goals
    simp (disch := first | omega | (simp <;> omega) | fail) [BasicBlock.Empty,
      block_addEdge_same, block_addEdge_other, block_addStatementTo_same,
      block_createBlock_old, block_createBlock_new, newBlock]

theorem lowered_if {condition : Expression} {thenBranch : Statement}
    (free : hasNoValof condition = true)
    (branch : Lowered inferType inLoop inSwitch thenBranch) :
    Lowered inferType inLoop inSwitch (.ifStatement condition thenBranch) := by
  intro builder current ready
  have exists_ := ready.exists_
  rcases enterIf_facts ready (.ifStatement condition thenBranch) with ⟨entered, enters,
    isCurrent, fresh, targets, gotos, exitBlock, block, thenEmpty, joinEmpty⟩
  have enteredReady : Ready inLoop inSwitch entered builder.fresh :=
    .enter isCurrent (by omega) thenEmpty (targets ▸ ready.serves)
  rcases branch entered builder.fresh enteredReady with ⟨inside, visitsBranch, lowers⟩
  have visit : visitStatement inferType (.ifStatement condition thenBranch) builder =
      some ((inside.addFallThrough (builder.fresh + 1)).setCurrent
        (some (builder.fresh + 1))) := by
    simp [visitStatement, visitExpression_noValof condition free, ready.ensured, enters,
      visitsBranch]
  rw [lowers.isOpen.addFallThrough] at visit
  have kept := addEdgeFromCurrent_kept inside (builder.fresh + 1)
  have more := lowers.grows.fresh_le
  have notJoin : entered.current ≠ some (builder.fresh + 1) := by simp [isCurrent]
  have joinNow : ((inside.addEdgeFromCurrent (builder.fresh + 1)).block
      (builder.fresh + 1)).Empty := by
    rw [lowers.outside (by omega) notJoin]
    exact joinEmpty
  have nested : forall {graph exit}, Keeps builder
      ((inside.addEdgeFromCurrent (builder.fresh + 1)).setCurrent (some (builder.fresh + 1)))
      graph exit -> Keeps entered inside graph exit ∧ Joins graph inside.here (builder.fresh + 1) :=
    fun keeps => keeps.nested (enterIf_grows (.refl builder) enters) lowers (by simp) kept.1 rfl
      (by omega) notJoin fun _ _ => rfl
  refine ⟨_, visit, ⟨visitStatement_grows_of visit, ?_, ?_, ?_, ?_, ?_⟩⟩
  · intro reference found
    cases found
    exact ⟨by simp; omega, joinNow.isOpen⟩
  · rw [targets_setCurrent, targets_addEdgeFromCurrent, lowers.targets, targets]
  · exact kept.2.trans (lowers.gotos.trans gotos)
  · intro graph exit point keeps isHere
    rcases nested keeps with ⟨inner, joins⟩
    rw [here_head (current_setCurrent _ _) joinNow]
    have ends : Ends graph point [.ifStatement condition thenBranch]
        [builder.fresh, builder.fresh + 1] :=
      keeps.closed ready isHere (by simp; omega) (by simp; omega)
        ((lowers.outside (by omega) (by simp [isCurrent]; omega) _).trans block)
    have laid := lowers.laid graph exit _ inner (here_head isCurrent thenEmpty)
    rw [targets] at laid
    exact .ifStatement ends laid joins
  · intro graph exit block keeps found
    rw [<- exitBlock]
    exact lowers.exits graph exit block (nested keeps).1 (kept.1.symm.trans found)

/-- The state in which the body of a `FOR` is visited. -/
theorem enterFor_facts (ready : Ready inLoop inSwitch builder current) (statement : Statement)
    (uniqueName : String) (startExpr : Expression) :
    exists entered, builder.enterFor statement uniqueName startExpr = some entered ∧
      entered.current = some (builder.fresh + 1) ∧ entered.fresh = builder.fresh + 4 ∧
      entered.targets = builder.targets.insideLoop (builder.fresh + 3) (builder.fresh + 2) ∧
      entered.unresolvedGotos = builder.unresolvedGotos ∧
      entered.exitBlock = builder.exitBlock ∧
      entered.block current = { builder.block current with
        statements := (builder.block current).statements ++
          [assignVariable uniqueName startExpr]
        successors := (builder.block current).successors ++ [builder.fresh] } ∧
      (entered.block builder.fresh).statements = [statement] ∧
      (entered.block builder.fresh).successors = [builder.fresh + 1, builder.fresh + 3] ∧
      forall offset, 0 < offset -> offset < 4 -> (entered.block (builder.fresh + offset)).Empty := by
  have exists_ := ready.exists_
  unfold enterFor
  rw [addStatement_current _ ready.current, Option.map_some]
  simp only [current_addStatementTo, ready.current]
  refine ⟨_, rfl, by simp, by simp, by simp, rfl, rfl, ?_, ?_, ?_, ?_⟩
  case refine_4 =>
    intro offset positive small
    have cases_ : offset = 1 ∨ offset = 2 ∨ offset = 3 := by omega
    rcases cases_ with rfl | rfl | rfl
    all_goals
      simp (disch := first | omega | (simp <;> omega) | fail) [BasicBlock.Empty,
        block_addEdge_other, block_addStatementTo_other, block_createBlock_old,
        block_createBlock_new, newBlock]
  all_goals
    simp (disch := first | omega | (simp <;> omega) | fail) [block_addEdge_same,
      block_addEdge_other, block_addStatementTo_other, block_addStatementTo_same,
      block_createBlock_old, block_createBlock_new, newBlock]

/-- The block that leads back to the header of a `FOR`. -/
theorem leaveFor_facts {header exit advance : Nat} {targets : Targets} {uniqueName : String}
    {stepExpr : Option Expression}
    (stack : builder.targets = targets.insideLoop exit advance)
    (old : header + 2 < builder.fresh) (notCurrent : builder.current ≠ some (header + 2))
    (empty : (builder.block (header + 2)).Empty) :
    exists after, builder.leaveFor header uniqueName stepExpr = some after ∧
      after.current = some (header + 3) ∧ after.fresh = builder.fresh ∧
      after.targets = targets ∧ after.unresolvedGotos = builder.unresolvedGotos ∧
      after.exitBlock = builder.exitBlock ∧
      (after.block (header + 2)).statements = [increment uniqueName stepExpr] ∧
      (after.block (header + 2)).successors = [header] ∧
      forall reference, reference ≠ header + 2 ->
        after.block reference =
          (builder.addEdgeFromCurrent (header + 2)).block reference := by
  have kept := addEdgeFromCurrent_kept builder (header + 2)
  have joinedFresh := fresh_addEdgeFromCurrent builder (header + 2)
  have joinedStack := (targets_addEdgeFromCurrent builder (header + 2)).trans stack
  have joinedEmpty : ((builder.addEdgeFromCurrent (header + 2)).block (header + 2)).Empty := by
    rw [block_addEdgeFromCurrent_other notCurrent]
    exact empty
  unfold leaveFor
  generalize builder.addEdgeFromCurrent (header + 2) = joined at *
  have breaks : joined.breakTargets = exit :: targets.breaks :=
    congrArg Targets.breaks joinedStack
  have loops : joined.loopTargets = advance :: targets.loops :=
    congrArg Targets.loops joinedStack
  have endcases : joined.endcaseTargets = targets.endcases :=
    congrArg Targets.endcases joinedStack
  have block : ((joined.addStatementTo (header + 2) (increment uniqueName stepExpr)).addEdge
      (header + 2) header).block (header + 2) = { joined.block (header + 2) with
        statements := [increment uniqueName stepExpr], successors := [header] } := by
    rw [block_addEdge_same _ _ (by simp; omega), block_addStatementTo_same _ _ (by omega),
      joinedEmpty.1, joinedEmpty.2]
    rfl
  refine ⟨{ (joined.addStatementTo (header + 2) (increment uniqueName stepExpr)).addEdge
      (header + 2) header with
      current := some (header + 3)
      breakTargets := targets.breaks
      loopTargets := targets.loops }, ?_, rfl, ?_, ?_, kept.2, kept.1,
    congrArg BasicBlock.statements block, congrArg BasicBlock.successors block, ?_⟩
  · simp only [popLoop, setCurrent, addEdge, addStatementTo, modifyBlock, breaks, loops]
    rfl
  · change Builder.fresh ((joined.addStatementTo _ _).addEdge _ _) = _
    rw [fresh_addEdge, fresh_addStatementTo, joinedFresh]
  · change Targets.mk targets.breaks targets.loops joined.endcaseTargets = targets
    rw [endcases]
  · intro reference other
    change ((joined.addStatementTo _ _).addEdge _ _).block reference = _
    rw [block_addEdge_other _ _ other, block_addStatementTo_other _ _ other]

theorem lowered_for {loopVariable uniqueName : String} {startExpr endExpr : Expression}
    {stepExpr : Option Expression} {body : Statement} (free : hasNoValof startExpr = true)
    (branch : Lowered inferType true inSwitch body) :
    Lowered inferType inLoop inSwitch
      (.forStatement loopVariable uniqueName startExpr endExpr stepExpr body) := by
  intro builder current ready
  have exists_ := ready.exists_
  rcases enterFor_facts ready
    (.forStatement loopVariable uniqueName startExpr endExpr stepExpr body) uniqueName startExpr
    with ⟨entered, enters, isCurrent, fresh, targets, gotos, exitBlock, block, header, decides,
      empty⟩
  have enteredReady : Ready true inSwitch entered (builder.fresh + 1) := by
    refine .enter isCurrent (by omega) (empty 1 (by omega) (by omega)) ?_
    rw [targets]
    exact ⟨fun _ => ⟨List.cons_ne_nil _ _, List.cons_ne_nil _ _⟩, ready.serves.switches⟩
  rcases branch entered _ enteredReady with ⟨inside, visitsBody, lowers⟩
  have more := lowers.grows.fresh_le
  -- the blocks of the loop besides the one its body starts in
  have outside : forall reference, reference < builder.fresh + 4 ->
      reference ≠ builder.fresh + 1 ->
      (inside.addEdgeFromCurrent (builder.fresh + 2)).block reference =
        entered.block reference ∧
      inside.block reference = entered.block reference ∧
      inside.current ≠ some reference := by
    intro reference old other
    have notCurrent : entered.current ≠ some reference := by
      rw [isCurrent]
      simpa using other.symm
    exact ⟨lowers.outside (by omega) notCurrent _, lowers.grows.untouched (by omega) notCurrent⟩
  have advance := outside (builder.fresh + 2) (by omega) (by omega)
  rcases @leaveFor_facts inside builder.fresh _ _ _ uniqueName stepExpr
    (lowers.targets.trans targets) (by omega) advance.2.2
    (by rw [advance.2.1]; exact empty 2 (by omega) (by omega)) with
    ⟨after, leaves, isNext, sameFresh, sameTargets, sameGotos, sameExit, statements, successors,
      blocks⟩
  have visit : visitStatement inferType
      (.forStatement loopVariable uniqueName startExpr endExpr stepExpr body) builder =
      some after := by
    simp [visitStatement, visitExpression_noValof startExpr free, ready.ensured, enters,
      visitsBody, leaves]
  have nextEmpty : (after.block (builder.fresh + 3)).Empty := by
    rw [blocks _ (by omega), (outside _ (by omega) (by omega)).1]
    exact empty 3 (by omega) (by omega)
  have nested : forall {graph exit}, Keeps builder after graph exit ->
      Keeps entered inside graph exit ∧ Joins graph inside.here (builder.fresh + 2) := by
    intro graph exit keeps
    refine keeps.nested (enterFor_grows (.refl builder) enters) lowers sameFresh sameExit isNext
      (by omega) (by simp [isCurrent]) fun reference owned => blocks reference ?_
    rintro rfl
    rcases owned with current | new
    · simp [isCurrent] at current
    · omega
  refine ⟨after, visit, ⟨visitStatement_grows_of visit, ?_, sameTargets, ?_, ?_, ?_⟩⟩
  · intro reference found
    rw [isNext] at found
    cases found
    exact ⟨by omega, nextEmpty.isOpen⟩
  · exact sameGotos.trans (lowers.gotos.trans gotos)
  · intro graph exit point keeps isHere
    rcases nested keeps with ⟨inner, joins⟩
    have settled : forall reference, builder.fresh ≤ reference -> reference < after.fresh ->
        reference ≠ builder.fresh + 3 -> graph reference = after.block reference :=
      fun reference new old other =>
        keeps.settled reference (Or.inr new) old (by simpa [isNext] using other.symm)
    have enters : Ends graph point [assignVariable uniqueName startExpr] [builder.fresh] := by
      refine keeps.closed ready isHere (by omega) (by simp [isNext]; omega) ?_
      rw [blocks _ (by omega), (outside _ (by omega) (by omega)).1, block]
    have tests : Ends graph (.head builder.fresh)
        [.forStatement loopVariable uniqueName startExpr endExpr stepExpr body]
        [builder.fresh + 1, builder.fresh + 3] := by
      have same := settled builder.fresh (Nat.le_refl _) (by omega) (by omega)
      rw [blocks _ (by omega), (outside _ (by omega) (by omega)).1] at same
      exact ⟨(congrArg BasicBlock.statements same).trans header,
        (congrArg BasicBlock.successors same).trans decides⟩
    have advances : Ends graph (.head (builder.fresh + 2)) [increment uniqueName stepExpr]
        [builder.fresh] := by
      have same := settled (builder.fresh + 2) (by omega) (by omega) (by omega)
      exact ⟨(congrArg BasicBlock.statements same).trans statements,
        (congrArg BasicBlock.successors same).trans successors⟩
    have laid := lowers.laid graph exit _ inner
      (here_head isCurrent (empty 1 (by omega) (by omega)))
    rw [targets] at laid
    rw [here_head isNext nextEmpty]
    exact .forStatement enters tests laid joins advances
  · intro graph exit block keeps found
    rw [<- exitBlock]
    exact lowers.exits graph exit block (nested keeps).1 (sameExit.symm.trans found)

/-- The blocks that the visits of cases are the only ones to change. -/
structure LowersCases (join first : Nat) (commands : List CaseStatement)
    (before after : Builder) : Prop where
  fresh_le : before.fresh ≤ after.fresh
  targets : after.targets = before.targets
  gotos : after.unresolvedGotos = before.unresolvedGotos
  exitBlock : forall block, before.exitBlock = some block -> after.exitBlock = some block
  unchanged : forall reference, reference < before.fresh ->
    reference < first ∨ first + commands.length ≤ reference ->
      after.block reference = before.block reference
  laid : forall graph exit,
    (forall reference, first ≤ reference ∧ reference < first + commands.length ∨
      before.fresh ≤ reference -> reference < after.fresh ->
        graph reference = after.block reference) ->
    (forall block, after.exitBlock = some block -> exit = some block) ->
    (exists last : Nat -> Option Point, (forall index, Joins graph (last index) join) ∧
      forall (index : Nat) branch, commands[index]? = some branch ->
        Laid graph exit before.targets (.statement branch.command) (.head (first + index))
          (last index)) ∧
    forall block, after.exitBlock = some block ->
      before.exitBlock = some block ∨ (graph block).Empty

theorem visitCases_lowers {join : Nat} (commands : List CaseStatement)
    (lowered : forall branch, branch ∈ commands ->
      Lowered inferType inLoop true branch.command) (first : Nat) (builder : Builder)
    (old : first + commands.length ≤ builder.fresh)
    (empty : forall index, index < commands.length -> (builder.block (first + index)).Empty)
    (serves : Serves inLoop true builder.targets) :
    exists after, visitCases inferType join first commands builder = some after ∧
      LowersCases join first commands builder after := by
  induction commands generalizing first builder with
  | nil =>
      refine ⟨builder, rfl, Nat.le_refl _, rfl, rfl, fun _ found => found, fun _ _ _ => rfl, ?_⟩
      exact fun graph exit _ _ => ⟨⟨fun _ => none, nofun, nofun⟩, fun _ => Or.inl⟩
  | cons branch rest ih =>
      rcases branch with ⟨constantExpr, resolved, command⟩
      rw [List.length_cons] at old empty
      have isEmpty : ((builder.setCurrent (some first)).block first).Empty :=
        empty 0 (by omega)
      have entered : Ready inLoop true (builder.setCurrent (some first)) first :=
        .enter rfl (show first < builder.fresh by omega) isEmpty serves
      rcases lowered _ List.mem_cons_self _ _ entered with ⟨inside, visits, lowers⟩
      have grown : builder.fresh ≤ inside.fresh := lowers.grows.fresh_le
      have kept := addEdgeFromCurrent_kept inside join
      have sameTargets : (inside.addEdgeFromCurrent join).targets = builder.targets :=
        (targets_addEdgeFromCurrent inside join).trans lowers.targets
      have outside : forall reference, reference < builder.fresh -> reference ≠ first ->
          (inside.addEdgeFromCurrent join).block reference = builder.block reference :=
        fun reference isOld other => lowers.outside isOld (by simpa using other.symm) join
      rcases ih (fun branch member => lowered branch (List.mem_cons_of_mem _ member)) (first + 1)
        (inside.addEdgeFromCurrent join) (by simp; omega)
        (fun index small => by
          rw [outside _ (by omega) (by omega), Nat.add_assoc, Nat.add_comm 1]
          exact empty (index + 1) (by omega))
        (sameTargets ▸ serves) with
        ⟨after, visitsRest, others⟩
      have further := others.fresh_le
      rw [fresh_addEdgeFromCurrent] at further
      refine ⟨after, ?_, by omega, others.targets.trans sameTargets,
        others.gotos.trans (kept.2.trans lowers.gotos), ?_, ?_, ?_⟩
      · change visitStatement inferType command _ = some inside at visits
        simp only [visitCases, Option.bind_eq_bind]
        rw [visits, Option.bind_some, lowers.isOpen.addFallThrough]
        exact visitsRest
      · intro block found
        exact others.exitBlock block (kept.1.trans (lowers.grows.registry.exitBlock block found))
      · intro reference isOld other
        rw [List.length_cons] at other
        rw [others.unchanged reference (by simp; omega) (by omega),
          outside reference isOld (by omega)]
      · intro graph exit settled exits
        rw [List.length_cons] at settled
        rcases others.laid graph exit
          (fun reference range isOld => settled reference (by simp at range; omega) isOld) exits
          with ⟨⟨last, joins, laid⟩, restExits⟩
        have closes : Closes (builder.setCurrent (some first)) inside join graph := by
          intro reference owned isOld
          have place : reference = first ∨ builder.fresh ≤ reference := by
            rcases owned with current | new
            · exact Or.inl (Option.some.inj current).symm
            · exact Or.inr new
          rw [settled reference (by omega) (by omega),
            others.unchanged reference (by simpa using isOld) (by omega)]
        have keeps := closes.keeps lowers.grows lowers.isOpen fun block found =>
          exits block (others.exitBlock block (kept.1.trans found))
        refine ⟨⟨fun index => Nat.casesOn index inside.here last, ?_, ?_⟩, ?_⟩
        · intro index
          cases index with
          | zero => exact closes.joins lowers.grows lowers.isOpen
          | succ index => exact joins index
        · intro index branch found
          cases index with
          | zero =>
              cases found
              exact lowers.laid graph exit _ keeps (here_head rfl isEmpty)
          | succ index =>
              have laidThere := laid index branch found
              rw [sameTargets, Nat.add_assoc, Nat.add_comm 1] at laidThere
              exact laidThere
        · intro block found
          rcases restExits block found with before | new
          · exact lowers.exits graph exit block keeps (kept.1.symm.trans before)
          · exact Or.inr new

theorem block_addEdges_same {source : Nat} (exists_ : source < builder.fresh)
    (edges : List Nat) : (builder.addEdges source edges).block source =
      { builder.block source with
        successors := (builder.block source).successors ++ edges } := by
  induction edges generalizing builder with
  | nil => simp [addEdges]
  | cons first rest ih =>
      refine (@ih (builder.addEdge source first) (by simpa using exists_)).trans ?_
      rw [block_addEdge_same _ _ exists_, List.append_assoc]
      rfl

theorem block_addEdges_other {source reference : Nat} (other : reference ≠ source)
    (edges : List Nat) :
    (builder.addEdges source edges).block reference = builder.block reference := by
  induction edges generalizing builder with
  | nil => rfl
  | cons first rest ih => exact ih.trans (block_addEdge_other _ _ other)

theorem addEdges_kept (source : Nat) (edges : List Nat) :
    (builder.addEdges source edges).unresolvedGotos = builder.unresolvedGotos ∧
      (builder.addEdges source edges).exitBlock = builder.exitBlock := by
  induction edges generalizing builder with
  | nil => exact ⟨rfl, rfl⟩
  | cons first rest ih => exact @ih (builder.addEdge source first)

/-- The blocks that are created for the cases and the default case. -/
theorem createCaseBlocks_facts (index : Nat) (cases : List CaseStatement) (hasDefault : Bool) :
    exists blocks, (if hasDefault then (builder.createCaseBlocks index cases).createBlock
        "DefaultCase_" else builder.createCaseBlocks index cases) = blocks ∧
      blocks.fresh = builder.fresh + cases.length + hasDefault.toNat ∧
      blocks.targets = builder.targets ∧ blocks.unresolvedGotos = builder.unresolvedGotos ∧
      blocks.exitBlock = builder.exitBlock ∧
      (forall reference, reference < builder.fresh ->
        blocks.block reference = builder.block reference) ∧
      forall reference, builder.fresh ≤ reference -> reference < blocks.fresh ->
        (blocks.block reference).Empty := by
  induction cases generalizing builder index with
  | nil =>
      cases hasDefault with
      | false =>
          exact ⟨builder, rfl, rfl, rfl, rfl, rfl, fun _ _ => rfl, fun _ _ _ => by omega⟩
      | true =>
          refine ⟨_, rfl, fresh_createBlock .., rfl, rfl, rfl,
            fun _ old => block_createBlock_old _ _ old, fun reference new small => ?_⟩
          change reference < (builder.createBlock "DefaultCase_").fresh at small
          rw [fresh_createBlock] at small
          change ((builder.createBlock "DefaultCase_").block reference).Empty
          rw [block_createBlock_new _ _ (by omega)]
          exact ⟨rfl, rfl⟩
  | cons first rest ih =>
      rcases @ih (builder.createBlock ("Case_" ++ toString index ++ "_")) (index + 1) with
        ⟨blocks, isBlocks, fresh, targets, gotos, exitBlock, old, new⟩
      rw [fresh_createBlock] at fresh old new
      refine ⟨blocks, isBlocks, by simp; omega, targets, gotos, exitBlock,
        fun reference isOld => ?_, fun reference isNew small => ?_⟩
      · exact (old reference (by omega)).trans (block_createBlock_old _ _ isOld)
      · by_cases isFirst : reference = builder.fresh
        · rw [old reference (by omega), block_createBlock_new _ _ isFirst]
          exact ⟨rfl, rfl⟩
        · exact new reference (by omega) small

/-- The state in which the cases of a `SWITCHON` are visited. -/
theorem enterSwitchon_facts (ready : Ready inLoop inSwitch builder current)
    (statement : Statement) (cases : List CaseStatement) (hasDefault : Bool) :
    builder.endCurrentBlockAndStartNew.fresh = builder.fresh + 1 ∧
    exists entered, builder.enterSwitchon statement cases hasDefault = some entered ∧
      entered.fresh = builder.fresh + 2 + cases.length + hasDefault.toNat ∧
      entered.targets = builder.targets.insideSwitch (builder.fresh + 1) ∧
      entered.unresolvedGotos = builder.unresolvedGotos ∧
      entered.exitBlock = builder.exitBlock ∧
      entered.block current = { builder.block current with
        successors := (builder.block current).successors ++ [builder.fresh] } ∧
      (entered.block builder.fresh).statements = [statement] ∧
      (entered.block builder.fresh).successors =
        List.range' (builder.fresh + 2) cases.length ++
          (if hasDefault then [builder.fresh + 2 + cases.length] else []) ++
            [builder.fresh + 1] ∧
      forall reference, builder.fresh < reference -> reference < entered.fresh ->
        (entered.block reference).Empty := by
  have exists_ := ready.exists_
  have started : builder.endCurrentBlockAndStartNew =
      ((builder.createBlock "BB_").addEdge current builder.fresh).setCurrent
        (some builder.fresh) := by
    unfold endCurrentBlockAndStartNew
    rw [ready.current]
    simp [fallsThrough, ready.current, ready.open_.goesOn]
  have startedFresh : builder.endCurrentBlockAndStartNew.fresh = builder.fresh + 1 := by
    rw [started]
    simp
  refine ⟨startedFresh, ?_⟩
  have base : exists joined, ((builder.endCurrentBlockAndStartNew.addStatementTo builder.fresh
      statement).createBlock "SwitchJoin_").pushEndcase (builder.fresh + 1) = joined ∧
      joined.fresh = builder.fresh + 2 ∧
      joined.targets = builder.targets.insideSwitch (builder.fresh + 1) ∧
      joined.unresolvedGotos = builder.unresolvedGotos ∧
      joined.exitBlock = builder.exitBlock ∧
      joined.block current = { builder.block current with
        successors := (builder.block current).successors ++ [builder.fresh] } ∧
      (joined.block builder.fresh).statements = [statement] ∧
      (joined.block builder.fresh).successors = [] ∧
      (joined.block (builder.fresh + 1)).Empty := by
    rw [started]
    refine ⟨_, rfl, by simp, by simp, rfl, rfl, ?_, ?_, ?_, ?_⟩
    all_goals
      simp (disch := first | omega | (simp <;> omega) | fail) [BasicBlock.Empty,
        block_createBlock_old, block_createBlock_new, block_addStatementTo_other,
        block_addStatementTo_same, block_addEdge_same, block_addEdge_other, newBlock]
  rcases base with ⟨joined, isJoined, joinedFresh, joinedTargets, joinedGotos, joinedExit,
    block, header, undecided, join⟩
  rcases @createCaseBlocks_facts joined 0 cases hasDefault with
    ⟨blocks, isBlocks, fresh, targets, gotos, exitBlock, old, new⟩
  rw [joinedFresh] at fresh old new
  have kept := @addEdges_kept blocks builder.fresh
  unfold enterSwitchon
  rw [addStatement_current _ (congrArg Builder.current started), Option.map_some]
  simp only [current_addStatementTo, started, current_setCurrent, fresh_addStatementTo,
    fresh_setCurrent, fresh_addEdge, fresh_createBlock]
  simp only [started] at isJoined
  rw [isJoined, isBlocks]
  refine ⟨_, rfl, ?_, ?_, ?_, ?_, ?_, ?_, ?_, ?_⟩
  · rw [fresh_addEdges, fresh]
  · rw [targets_addEdges, targets, joinedTargets]
  · rw [(kept _).1, gotos, joinedGotos]
  · rw [(kept _).2, exitBlock, joinedExit]
  · rw [block_addEdges_other (by omega), old current (by omega), block]
  · rw [block_addEdges_same (by omega), old _ (by omega)]
    exact header
  · rw [block_addEdges_same (by omega), old _ (by omega), undecided]
    rfl
  · intro reference later small
    rw [fresh_addEdges] at small
    rw [block_addEdges_other (by omega)]
    by_cases isJoin : reference = builder.fresh + 1
    · rw [old reference (by omega), isJoin]
      exact join
    · exact new reference (by omega) small

/-- The command of a default case, as the case behind the others. -/
def defaultBranches (defaultCase : Option Statement) : List CaseStatement :=
  defaultCase.toList.map fun command => .mk (.booleanLiteral true) none command

theorem visitCases_append {join : Nat} (cases others : List CaseStatement) (first : Nat) :
    visitCases inferType join first (cases ++ others) builder =
      (visitCases inferType join first cases builder).bind
        (visitCases inferType join (first + cases.length) others) := by
  induction cases generalizing first builder with
  | nil => simp [visitCases]
  | cons branch rest ih =>
      rcases branch with ⟨constantExpr, resolved, command⟩
      simp only [List.cons_append, visitCases, Option.bind_eq_bind, List.length_cons]
      cases visitStatement inferType command (builder.setCurrent (some first)) with
      | none => rfl
      | some visited =>
          rw [Option.bind_some, Option.bind_some, ih, Nat.add_right_comm, Nat.add_assoc]

/-- The visit of a `SWITCHON` visits its default case as one more case. -/
theorem visitStatement_switchon {expression : Expression} {cases : List CaseStatement}
    {defaultCase : Option Statement} {join : Nat}
    (isJoin : builder.endCurrentBlockAndStartNew.fresh = join) :
    visitStatement inferType (.switchon expression cases defaultCase) builder =
      (builder.enterSwitchon (.switchon expression cases defaultCase) cases
        defaultCase.isSome).bind fun entered =>
          (visitCases inferType join (join + 1) (cases ++ defaultBranches defaultCase)
            entered).bind fun visited => visited.leaveSwitchon join := by
  subst isJoin
  cases defaultCase with
  | none => simp [visitStatement, defaultBranches, Option.bind_eq_bind]
  | some command =>
      simp only [visitStatement, Option.bind_eq_bind, Option.isSome_some]
      congr 1
      funext entered
      rw [visitCases_append, Option.bind_assoc]
      congr 1
      funext visited
      simp only [defaultBranches, Option.toList_some, List.map_cons, List.map_nil, visitCases,
        Option.bind_eq_bind, Option.bind_assoc, Option.bind_some]

theorem leaveSwitchon_facts {join : Nat} {targets : Targets}
    (stack : builder.targets = targets.insideSwitch join) :
    exists after, builder.leaveSwitchon join = some after ∧ after.current = some join ∧
      after.fresh = builder.fresh ∧ after.targets = targets ∧
      after.unresolvedGotos = builder.unresolvedGotos ∧ after.exitBlock = builder.exitBlock ∧
      forall reference, after.block reference = builder.block reference := by
  have endcases : builder.endcaseTargets = join :: targets.endcases :=
    congrArg Targets.endcases stack
  have breaks : builder.breakTargets = targets.breaks := congrArg Targets.breaks stack
  have loops : builder.loopTargets = targets.loops := congrArg Targets.loops stack
  refine ⟨{ builder with current := some join, endcaseTargets := targets.endcases }, ?_, rfl, rfl,
    ?_, rfl, rfl, fun _ => rfl⟩
  · simp only [leaveSwitchon, popEndcase, setCurrent, endcases]
  · change Targets.mk builder.breakTargets builder.loopTargets targets.endcases = targets
    rw [breaks, loops]

theorem lowered_switchon {expression : Expression} {cases : List CaseStatement}
    {defaultCase : Option Statement}
    (comparable : forall branch, branch ∈ cases -> isComparable branch = true)
    (branches : forall branch, branch ∈ cases -> Lowered inferType inLoop true branch.command)
    (defaults : forall command, defaultCase = some command ->
      Lowered inferType inLoop true command) :
    Lowered inferType inLoop inSwitch (.switchon expression cases defaultCase) := by
  intro builder current ready
  have exists_ := ready.exists_
  rcases enterSwitchon_facts ready (.switchon expression cases defaultCase) cases
    defaultCase.isSome with ⟨isJoin, entered, enters, fresh, targets, gotos, exitBlock, block,
      header, decides, empty⟩
  have count : (cases ++ defaultBranches defaultCase).length =
      cases.length + defaultCase.isSome.toNat := by
    cases defaultCase <;> simp [defaultBranches]
  have commands : forall branch, branch ∈ cases ++ defaultBranches defaultCase ->
      Lowered inferType inLoop true branch.command := by
    intro branch member
    rcases List.mem_append.mp member with isCase | isDefault
    · exact branches branch isCase
    · rcases List.mem_map.mp isDefault with ⟨command, found, rfl⟩
      exact defaults command (Option.mem_toList.mp found)
  rcases @visitCases_lowers _ _ (builder.fresh + 1) (cases ++ defaultBranches defaultCase)
    commands (builder.fresh + 2) entered (by omega) (fun index small => empty _ (by omega) (by omega))
    (by rw [targets]; exact ⟨ready.serves.loops, fun _ => List.cons_ne_nil _ _⟩) with
    ⟨visited, visits, lowers⟩
  have further := lowers.fresh_le
  rcases leaveSwitchon_facts (lowers.targets.trans targets) with
    ⟨after, leaves, isNext, sameFresh, sameTargets, sameGotos, sameExit, blocks⟩
  have visit : visitStatement inferType (.switchon expression cases defaultCase) builder =
      some after := by
    rw [visitStatement_switchon isJoin, enters, Option.bind_some, visits, Option.bind_some,
      leaves]
  -- the blocks of the construct besides those of its cases
  have outside : forall reference, reference < builder.fresh + 2 ->
      after.block reference = entered.block reference :=
    fun reference old =>
      (blocks reference).trans (lowers.unchanged reference (by omega) (Or.inl old))
  have joinNow : (after.block (builder.fresh + 1)).Empty := by
    rw [outside _ (by omega)]
    exact empty _ (by omega) (by omega)
  have laid : forall {graph exit}, Keeps builder after graph exit -> _ :=
    fun {graph exit} keeps => lowers.laid graph exit
      (fun reference place old => by
        rw [keeps.settled reference (Or.inr (by omega)) (by omega)
          (by rw [isNext]; simp; omega), blocks])
      fun block found => keeps.exits block (sameExit.trans found)
  refine ⟨after, visit, ⟨visitStatement_grows_of visit, ?_, sameTargets,
    sameGotos.trans (lowers.gotos.trans gotos), ?_, ?_⟩⟩
  · intro reference found
    rw [isNext] at found
    cases found
    exact ⟨by omega, joinNow.isOpen⟩
  · intro graph exit point keeps isHere
    rcases (laid keeps).1 with ⟨last, joins, laidCases⟩
    rw [targets] at laidCases
    have enters : Ends graph point [] [builder.fresh] := by
      refine keeps.closed ready isHere (by omega) (by rw [isNext]; simp; omega) ?_
      rw [List.append_nil, outside current (by omega), block]
    have tests : graph builder.fresh = entered.block builder.fresh := by
      rw [keeps.settled builder.fresh (Or.inr (Nat.le_refl _)) (by omega)
        (by rw [isNext]; simp), outside _ (by omega)]
    have found (index : Nat) (branch : CaseStatement) (isCase : cases[index]? = some branch) :
        (cases ++ defaultBranches defaultCase)[index]? = some branch := by
      rw [List.getElem?_append_left (List.getElem?_eq_some_iff.mp isCase).1]
      exact isCase
    rw [here_head isNext joinNow]
    refine .switchon last comparable enters
      ⟨(congrArg BasicBlock.statements tests).trans header,
        (congrArg BasicBlock.successors tests).trans decides⟩
      (fun index branch isCase => laidCases index branch (found index branch isCase)) ?_ joins
    rintro command rfl
    refine laidCases cases.length (.mk (.booleanLiteral true) none command) ?_
    rw [List.getElem?_append_right (Nat.le_refl _), Nat.sub_self]
    rfl
  · intro graph exit block keeps isExit
    rw [<- exitBlock]
    exact (laid keeps).2 block (sameExit.symm.trans isExit)

theorem ensureCurrent_kept (builder : Builder) :
    builder.ensureCurrent.exitBlock = builder.exitBlock ∧
      builder.ensureCurrent.unresolvedGotos = builder.unresolvedGotos := by
  unfold ensureCurrent
  cases builder.current with
  | none => exact ⟨rfl, rfl⟩
  | some reference => exact ⟨rfl, rfl⟩

/-- Behind a statement there is a current block again in front of the next one. -/
theorem Ready.next {after : Builder} (ready : Ready inLoop inSwitch builder current)
    (isOpen : after.CurrentOpen) (targets : after.targets = builder.targets) :
    exists next, Ready inLoop inSwitch after.ensureCurrent next := by
  have serves := ready.serves
  rw [<- targets, <- targets_ensureCurrent after] at serves
  unfold ensureCurrent at serves ⊢
  cases found : after.current with
  | some reference =>
      rw [found] at serves
      exact ⟨reference, found, isOpen, serves⟩
  | none =>
      rw [found] at serves
      refine ⟨after.fresh, .enter rfl (by simp) ?_ serves⟩
      rw [block_setCurrent, block_createBlock_new _ _ rfl]
      exact ⟨rfl, rfl⟩

/-- Statements in turn. -/
theorem visitStatements_lowers {statements : List Statement}
    (lowered : forall statement, statement ∈ statements ->
      Lowered inferType inLoop inSwitch statement)
    (ready : Ready inLoop inSwitch builder current) :
    exists after, visitStatements inferType statements builder = some after ∧
      Lowers (.sequence statements) builder after := by
  induction statements generalizing builder current with
  | nil =>
      refine ⟨builder, rfl, .refl builder, ready.isOpen, rfl, rfl, ?_, fun _ _ _ _ => Or.inl⟩
      intro graph exit point _ isHere
      rw [isHere]
      exact .nil point
  | cons first rest ih =>
      rcases lowered first List.mem_cons_self builder current ready with
        ⟨middle, visits, lowers⟩
      have start : visitStatements inferType (first :: rest) builder =
          visitStatements inferType rest middle := by
        rw [visitStatements, ready.ensured, visits]
        rfl
      rw [start]
      cases rest with
      | nil =>
          refine ⟨middle, rfl, lowers.grows, lowers.isOpen, lowers.targets, lowers.gotos, ?_,
            lowers.exits⟩
          intro graph exit point keeps isHere
          have laid := lowers.laid graph exit point keeps isHere
          cases last : middle.here with
          | none => exact .unreached (last ▸ laid)
          | some there => exact .cons (last ▸ laid) (.nil there)
      | cons second others =>
          rcases ready.next lowers.isOpen lowers.targets with ⟨next, nextReady⟩
          rcases ih (fun statement member => lowered statement (List.mem_cons_of_mem _ member))
            nextReady with ⟨after, visitsRest, behind⟩
          have kept := ensureCurrent_kept middle
          have same : visitStatements inferType (second :: others) middle.ensureCurrent =
              visitStatements inferType (second :: others) middle := by
            simp only [visitStatements, nextReady.ensured]
          have reached := (Grows.refl middle).ensureCurrent
          refine ⟨after, same ▸ visitsRest, (lowers.grows.trans reached).trans behind.grows,
            behind.isOpen, behind.targets.trans ((targets_ensureCurrent _).trans lowers.targets),
            behind.gotos.trans (kept.2.trans lowers.gotos), ?_, ?_⟩
          · intro graph exit point keeps isHere
            have laid := lowers.laid graph exit point
              (keeps.first lowers.grows (reached.trans behind.grows) lowers.isOpen) isHere
            cases last : middle.here with
            | none => exact .unreached (last ▸ laid)
            | some there =>
                have laidRest := behind.laid graph exit there
                  (keeps.second (lowers.grows.trans reached))
                rw [targets_ensureCurrent, lowers.targets] at laidRest
                refine .cons (last ▸ laid) (laidRest ?_)
                rcases Option.map_eq_some_iff.mp last with ⟨reference, isCurrent, _⟩
                unfold ensureCurrent
                rw [isCurrent]
                exact last
          · intro graph exit block keeps found
            rcases behind.exits graph exit block (keeps.second (lowers.grows.trans reached)) found
              with before | new
            · exact lowers.exits graph exit block
                (keeps.first lowers.grows (reached.trans behind.grows) lowers.isOpen)
                (kept.1.symm.trans before)
            · exact Or.inr new

theorem visitDeclarations_noValof {declarations : List Declaration}
    (free : declarations.all declarationHasNoValof = true)
    (ready : Ready inLoop inSwitch builder current) :
    visitDeclarations inferType declarations builder = some builder := by
  induction declarations with
  | nil => simp
  | cons first rest ih =>
      rw [List.all_cons, Bool.and_eq_true] at free
      have later := ih free.2
      cases first with
      | staticDeclaration name initializer =>
          simp [visitExpression_noValof initializer free.1, ready.ensured, later]
      | manifestDeclaration name value => simp [ready.ensured, later]
      | globalDeclaration globals => simp [ready.ensured, later]

theorem lowered_statements {statements : List Statement} (construct : List Statement -> Statement)
    (lowered : forall statement, statement ∈ statements ->
      Lowered inferType inLoop inSwitch statement)
    (visits : forall builder current, Ready inLoop inSwitch builder current ->
      visitStatement inferType (construct statements) builder =
        visitStatements inferType statements builder)
    (constructs : forall {graph exit targets point last},
      Laid graph exit targets (.sequence statements) point last ->
        Laid graph exit targets (.statement (construct statements)) point last) :
    Lowered inferType inLoop inSwitch (construct statements) := by
  intro builder current ready
  rcases visitStatements_lowers lowered ready with ⟨after, visited, lowers⟩
  exact ⟨after, (visits builder current ready).trans visited, lowers.grows, lowers.isOpen,
    lowers.targets, lowers.gotos, fun graph exit point keeps isHere =>
      constructs (lowers.laid graph exit point keeps isHere), lowers.exits⟩

theorem visitInitializers_noValof (names : List String) (initializers : List Expression)
    (free : allHaveNoValof initializers = true) (isCurrent : builder.current = some current) :
    visitInitializers inferType names initializers builder =
      some (builder.addStatementsTo current (initializations names initializers)) := by
  induction initializers generalizing names builder with
  | nil => cases names <;> rfl
  | cons initializer rest ih =>
      cases names with
      | nil => rfl
      | cons name names =>
          simp only [allHaveNoValof, Bool.and_eq_true] at free
          simp only [visitInitializers, visitExpression_noValof initializer free.1,
            Option.bind_eq_bind, Option.bind_some, addStatement_current _ isCurrent]
          exact ih names free.2 isCurrent

end Statements

section Structured

variable {inferType : Expression -> VarType}

mutual

/-- Every structured statement is laid out by its visit. -/
theorem isStructured_lowered : (statement : Statement) -> forall inLoop inSwitch,
    isStructured inLoop inSwitch statement = true ->
      Lowered inferType inLoop inSwitch statement
  | .letDeclaration names initializers, inLoop, inSwitch, structured => by
      simp only [isStructured] at structured
      refine lowered_straight rfl (fun other member => ?_) fun builder current ready => ?_
      · rcases List.mem_map.mp member with ⟨_, _, rfl⟩
        rfl
      · rw [visitStatement, ready.ensured]
        exact visitInitializers_noValof names initializers structured ready.current
  | .assignment lhs rhs, inLoop, inSwitch, structured => by
      simp only [isStructured, Bool.and_eq_true] at structured
      refine lowered_straight rfl (fun other member => ?_) fun builder current ready => ?_
      · rw [List.mem_singleton.mp member]
        rfl
      · simp only [visitStatement, ready.addStatement, Option.bind_eq_bind, Option.bind_some,
          visitExpressions_noValof lhs structured.1, visitExpressions_noValof rhs structured.2]
        rfl
  | .routineCall routine arguments, inLoop, inSwitch, structured => by
      simp only [isStructured, Bool.and_eq_true] at structured
      refine lowered_straight rfl (fun other member => ?_) fun builder current ready => ?_
      · rw [List.mem_singleton.mp member]
        rfl
      · simp only [visitStatement, ready.addStatement, Option.bind_eq_bind, Option.bind_some,
          visitExpression_noValof routine structured.1,
          visitExpressions_noValof arguments structured.2]
        rfl
  | .stringStatement size, inLoop, inSwitch, structured => by
      simp only [isStructured] at structured
      refine lowered_straight rfl (fun other member => ?_) fun builder current ready => ?_
      · rw [List.mem_singleton.mp member]
        rfl
      · simp only [visitStatement, ready.addStatement, Option.bind_eq_bind, Option.bind_some,
          visitExpression_noValof size structured]
        rfl
  | .brk, inLoop, inSwitch, _ => by
      refine lowered_straight rfl (fun other member => ?_) fun builder current ready => ?_
      · rw [List.mem_singleton.mp member]
        rfl
      · rw [visitStatement, ready.addStatement]
        rfl
  | .ifStatement condition thenBranch, inLoop, inSwitch, structured => by
      simp only [isStructured, Bool.and_eq_true] at structured
      exact lowered_if structured.1 (isStructured_lowered thenBranch _ _ structured.2)
  | .forStatement _ _ startExpr _ _ body, inLoop, inSwitch, structured => by
      simp only [isStructured, Bool.and_eq_true] at structured
      exact lowered_for structured.1 (isStructured_lowered body _ _ structured.2)
  | .switchon _ cases none, inLoop, inSwitch, structured => by
      simp only [isStructured] at structured
      have branches := areStructuredCases_lowered cases inLoop structured
      exact lowered_switchon (fun branch member => (branches branch member).1)
        (fun branch member => (branches branch member).2) nofun
  | .switchon _ cases (some defaultCase), inLoop, inSwitch, structured => by
      simp only [isStructured, Bool.and_eq_true] at structured
      have branches := areStructuredCases_lowered cases inLoop structured.1
      have otherwise_ := isStructured_lowered defaultCase inLoop true structured.2
      refine lowered_switchon (fun branch member => (branches branch member).1)
        (fun branch member => (branches branch member).2) ?_
      rintro command ⟨⟩
      exact otherwise_
  | .returnStatement, _, _, _ => lowered_leave rfl fun _ => by rw [visitStatement]
  | .resultis _, _, _, _ => lowered_leave rfl fun _ => by rw [visitStatement]
  | .finish, _, _, _ => lowered_finish
  | .breakStatement, inLoop, inSwitch, structured => by
      simp only [isStructured] at structured
      exact @lowered_jump _ _ _ _ breakTargets (fun _ => by rw [visitStatement])
        (fun _ => rfl) fun _ _ ready => (ready.serves.loops structured).1
  | .loop, inLoop, inSwitch, structured => by
      simp only [isStructured] at structured
      exact @lowered_jump _ _ _ _ loopTargets (fun _ => by rw [visitStatement])
        (fun _ => rfl) fun _ _ ready => (ready.serves.loops structured).2
  | .endcase, inLoop, inSwitch, structured => by
      simp only [isStructured] at structured
      exact @lowered_jump _ _ _ _ endcaseTargets (fun _ => by rw [visitStatement])
        (fun _ => rfl) fun _ _ ready => ready.serves.switches structured
  | .compound statements, inLoop, inSwitch, structured => by
      simp only [isStructured] at structured
      exact lowered_statements .compound
        (areStructured_lowered statements inLoop inSwitch structured)
        (fun _ _ _ => by rw [visitStatement]) .compound
  | .block declarations statements, inLoop, inSwitch, structured => by
      simp only [isStructured, Bool.and_eq_true] at structured
      refine lowered_statements (.block declarations)
        (areStructured_lowered statements inLoop inSwitch structured.2)
        (fun builder current ready => ?_) .block
      rw [visitStatement, visitDeclarations_noValof structured.1 ready]
      rfl
  | .unless _ _, _, _, structured | .test _ _ _, _, _, structured
  | .whileStatement _ _, _, _, structured | .untilStatement _ _, _, _, structured
  | .repeatStatement _ _ _, _, _, structured | .forEach _ _ _ _ _ _, _, _, structured
  | .goto _, _, _, structured | .free _, _, _, structured
  | .labelTarget _, _, _, structured | .conditionalBranch _ _ _, _, _, structured
  | .misplacedExpression _, _, _, structured => by
      simp only [isStructured] at structured
      cases structured

theorem areStructured_lowered : (statements : List Statement) -> forall inLoop inSwitch,
    areStructured inLoop inSwitch statements = true ->
      forall statement, statement ∈ statements -> Lowered inferType inLoop inSwitch statement
  | [], _, _, _ => nofun
  | first :: rest, inLoop, inSwitch, structured => by
      simp only [areStructured, Bool.and_eq_true] at structured
      have here_ := isStructured_lowered first inLoop inSwitch structured.1
      have later := areStructured_lowered rest inLoop inSwitch structured.2
      exact List.forall_mem_cons.mpr ⟨here_, later⟩

theorem areStructuredCases_lowered : (cases : List CaseStatement) -> forall inLoop,
    areStructuredCases inLoop cases = true -> forall branch, branch ∈ cases ->
      isComparable branch = true ∧ Lowered inferType inLoop true branch.command
  | [], _, _ => nofun
  | .mk constantExpr constant command :: rest, inLoop, structured => by
      simp only [areStructuredCases, Bool.and_eq_true] at structured
      have here_ := isStructured_lowered command inLoop true structured.1.2
      have later := areStructuredCases_lowered rest inLoop structured.2
      exact List.forall_mem_cons.mpr ⟨⟨structured.1.1, here_⟩, later⟩

end

end Structured

end Builder

end ControlFlow
end NewBcpl
