import NewBcpl.ControlFlow.VisitGrowth

namespace NewBcpl
namespace ControlFlow

/-!
# The target stacks and the current block

The operations on blocks leave the three stacks as they are. Every part of a
construct that is entered from a state whose current block exists can be entered,
and the stacks it pushes are read off here.
-/

/-- The stacks of break, loop and endcase targets. -/
structure Targets where
  breaks : List Nat
  loops : List Nat
  endcases : List Nat

namespace Targets

/-- The stacks inside a loop. -/
def insideLoop (targets : Targets) (exit advance : Nat) : Targets :=
  { targets with breaks := exit :: targets.breaks, loops := advance :: targets.loops }

/-- The stacks inside a `SWITCHON`. -/
def insideSwitch (targets : Targets) (join : Nat) : Targets :=
  { targets with endcases := join :: targets.endcases }

end Targets

namespace Builder

/-- The target stacks of a state. -/
def targets (builder : Builder) : Targets :=
  { breaks := builder.breakTargets
    loops := builder.loopTargets
    endcases := builder.endcaseTargets }

/-- The current block is one of the blocks. -/
def CurrentExists (builder : Builder) : Prop :=
  forall reference, builder.current = some reference -> reference < builder.fresh

section Operations

variable (builder : Builder)

@[simp] theorem targets_createBlock (idPrefix : String) :
    (builder.createBlock idPrefix).targets = builder.targets := rfl

@[simp] theorem targets_modifyBlock (reference : Nat)
    (change : BasicBlock -> BasicBlock) :
    (builder.modifyBlock reference change).targets = builder.targets := rfl

@[simp] theorem targets_addEdge (source target : Nat) :
    (builder.addEdge source target).targets = builder.targets := rfl

@[simp] theorem targets_addStatementTo (reference : Nat) (statement : Statement) :
    (builder.addStatementTo reference statement).targets = builder.targets := rfl

@[simp] theorem targets_setCurrent (current : Option Nat) :
    (builder.setCurrent current).targets = builder.targets := rfl

@[simp] theorem targets_countHidden : builder.countHidden.targets = builder.targets := rfl

@[simp] theorem targets_pushLoop (exit advance : Nat) :
    (builder.pushLoop exit advance).targets = builder.targets.insideLoop exit advance := rfl

@[simp] theorem targets_pushEndcase (join : Nat) :
    (builder.pushEndcase join).targets = builder.targets.insideSwitch join := rfl

@[simp] theorem targets_addFallThrough (target : Nat) :
    (builder.addFallThrough target).targets = builder.targets := by
  unfold addFallThrough
  cases builder.current with
  | none => rfl
  | some reference =>
      dsimp only
      split <;> rfl

@[simp] theorem fresh_addFallThrough (target : Nat) :
    (builder.addFallThrough target).fresh = builder.fresh := by
  unfold addFallThrough
  cases builder.current with
  | none => rfl
  | some reference =>
      dsimp only
      split <;> simp

@[simp] theorem current_addFallThrough (target : Nat) :
    (builder.addFallThrough target).current = builder.current := by
  unfold addFallThrough
  cases current : builder.current with
  | none => exact current
  | some reference =>
      dsimp only
      split
      · exact current
      · exact current

@[simp] theorem targets_addEdgeFromCurrent (target : Nat) :
    (builder.addEdgeFromCurrent target).targets = builder.targets := by
  unfold addEdgeFromCurrent
  cases builder.current <;> rfl

@[simp] theorem fresh_addEdgeFromCurrent (target : Nat) :
    (builder.addEdgeFromCurrent target).fresh = builder.fresh := by
  unfold addEdgeFromCurrent
  cases builder.current with
  | none => rfl
  | some reference => exact builder.fresh_addEdge _ _

@[simp] theorem targets_ensureCurrent : builder.ensureCurrent.targets = builder.targets := by
  unfold ensureCurrent
  cases builder.current <;> rfl

@[simp] theorem targets_endCurrentBlockAndStartNew :
    builder.endCurrentBlockAndStartNew.targets = builder.targets := by
  unfold endCurrentBlockAndStartNew
  cases builder.current with
  | none => rfl
  | some reference =>
      dsimp only
      split <;> rfl

@[simp] theorem targets_ensureExit : builder.ensureExit.targets = builder.targets := by
  unfold ensureExit
  cases builder.exitBlock <;> rfl

theorem targets_addEdges (source : Nat) (edges : List Nat) :
    (builder.addEdges source edges).targets = builder.targets := by
  induction edges generalizing builder with
  | nil => rfl
  | cons first rest ih => exact ih (builder.addEdge source first)

theorem current_addEdges (source : Nat) (edges : List Nat) :
    (builder.addEdges source edges).current = builder.current := by
  induction edges generalizing builder with
  | nil => rfl
  | cons first rest ih => exact ih (builder.addEdge source first)

theorem fresh_addEdges (source : Nat) (edges : List Nat) :
    (builder.addEdges source edges).fresh = builder.fresh := by
  induction edges generalizing builder with
  | nil => rfl
  | cons first rest ih =>
      exact (ih (builder.addEdge source first)).trans (builder.fresh_addEdge _ _)

theorem targets_addStatementsTo (reference : Nat) (statements : List Statement) :
    (builder.addStatementsTo reference statements).targets = builder.targets := by
  induction statements generalizing builder with
  | nil => rfl
  | cons first rest ih => exact ih (builder.addStatementTo reference first)

theorem fresh_addStatementsTo (reference : Nat) (statements : List Statement) :
    (builder.addStatementsTo reference statements).fresh = builder.fresh := by
  induction statements generalizing builder with
  | nil => rfl
  | cons first rest ih =>
      exact (ih (builder.addStatementTo reference first)).trans
        (builder.fresh_addStatementTo _ _)

theorem targets_createCaseBlocks (index : Nat) (cases : List CaseStatement) :
    (builder.createCaseBlocks index cases).targets = builder.targets := by
  induction cases generalizing builder index with
  | nil => rfl
  | cons first rest ih => exact ih _ _

theorem current_createCaseBlocks (index : Nat) (cases : List CaseStatement) :
    (builder.createCaseBlocks index cases).current = builder.current := by
  induction cases generalizing builder index with
  | nil => rfl
  | cons first rest ih => exact ih _ _

theorem fresh_createCaseBlocks (index : Nat) (cases : List CaseStatement) :
    (builder.createCaseBlocks index cases).fresh = builder.fresh + cases.length := by
  induction cases generalizing builder index with
  | nil => rfl
  | cons first rest ih =>
      rw [createCaseBlocks, ih, fresh_createBlock, List.length_cons]
      omega

theorem ensureCurrent_exists (exists_ : builder.CurrentExists) :
    exists reference, builder.ensureCurrent.current = some reference ∧
      reference < builder.ensureCurrent.fresh := by
  unfold ensureCurrent
  cases current : builder.current with
  | none => exact ⟨builder.fresh, rfl, by simp⟩
  | some reference => exact ⟨reference, current, exists_ reference current⟩

theorem endCurrentBlockAndStartNew_exists (exists_ : builder.CurrentExists) :
    exists reference, builder.endCurrentBlockAndStartNew.current = some reference ∧
      reference < builder.endCurrentBlockAndStartNew.fresh := by
  unfold endCurrentBlockAndStartNew
  cases current : builder.current with
  | none => exact ⟨builder.fresh, rfl, by simp⟩
  | some reference =>
      dsimp only
      split
      · exact ⟨builder.fresh, rfl, by simp⟩
      · exact ⟨reference, current, exists_ reference current⟩

theorem addStatement_current {reference : Nat} (current : builder.current = some reference)
    (statement : Statement) :
    builder.addStatement statement = some (builder.addStatementTo reference statement) := by
  unfold addStatement
  rw [current]
  rfl

end Operations

section Visits

variable {builder : Builder} (exists_ : builder.CurrentExists)

include exists_

theorem ensureCurrent_currentExists : builder.ensureCurrent.CurrentExists := by
  intro reference current
  rcases ensureCurrent_exists builder exists_ with ⟨other, otherCurrent, isOld⟩
  rw [otherCurrent] at current
  cases current
  exact isOld

/-- A statement that is added to the current block, created if need be. -/
theorem addStatement_visits (statement : Statement) :
    exists after, builder.ensureCurrent.addStatement statement = some after ∧
      after.targets = builder.targets ∧ after.CurrentExists := by
  rcases ensureCurrent_exists builder exists_ with ⟨reference, current, isOld⟩
  refine ⟨_, addStatement_current _ current statement, by simp, ?_⟩
  intro other otherCurrent
  rw [current_addStatementTo, current] at otherCurrent
  cases otherCurrent
  rw [fresh_addStatementTo]
  exact isOld

theorem visitJump_visits (statement : Statement) (jumpTargets : List Nat) :
    exists after, builder.visitJump statement jumpTargets = some after ∧
      after.targets = builder.targets ∧ after.CurrentExists := by
  rcases addStatement_visits exists_ statement with ⟨added, adds, kept, _⟩
  unfold visitJump
  rw [adds, Option.map_some]
  refine ⟨_, rfl, ?_, ?_⟩
  · split <;> exact kept
  · split <;> exact fun _ none_ => nomatch none_

theorem visitLeave_visits (statement : Statement) :
    exists after, builder.visitLeave statement = some after ∧
      after.targets = builder.targets ∧ after.CurrentExists := by
  rcases addStatement_visits exists_ statement with ⟨added, adds, kept, _⟩
  unfold visitLeave
  rw [adds, Option.map_some]
  have exiting : added.ensureExit.targets = builder.targets := by
    rw [targets_ensureExit, kept]
  refine ⟨_, rfl, ?_, ?_⟩
  · dsimp only
    split <;> exact exiting
  · dsimp only
    split <;> exact fun _ none_ => nomatch none_

theorem visitGoto_visits (label : Expression) :
    exists after, builder.visitGoto label = some after ∧
      after.targets = builder.targets ∧ after.CurrentExists := by
  rcases addStatement_visits exists_ (.goto label) with ⟨added, adds, kept, addedExists⟩
  unfold visitGoto
  rw [adds, Option.map_some]
  refine ⟨_, rfl, ?_, ?_⟩
  · split <;> exact kept
  · split
    · exact fun _ none_ => nomatch none_
    · exact addedExists

theorem visitFinish_visits :
    exists after, (builder.ensureCurrent.addStatement .finish).map
        (fun added => added.setCurrent none) = some after ∧
      after.targets = builder.targets ∧ after.CurrentExists := by
  rcases addStatement_visits exists_ .finish with ⟨added, adds, kept, _⟩
  rw [adds]
  exact ⟨_, rfl, kept, fun _ none_ => nomatch none_⟩

theorem enterIf_visits (statement : Statement) :
    exists entered, builder.enterIf statement = some entered ∧
      entered.targets = builder.targets ∧ entered.CurrentExists := by
  rcases ensureCurrent_exists builder exists_ with ⟨reference, current, isOld⟩
  unfold enterIf
  rw [addStatement_current _ current, Option.map_some]
  refine ⟨_, rfl, ?_, ?_⟩
  · simp [current]
  · simp only [current_addStatementTo, current]
    intro other otherCurrent
    cases otherCurrent
    have grows : builder.ensureCurrent.fresh < builder.ensureCurrent.fresh + 1 + 1 := by
      omega
    simpa using grows

end Visits

/-- The current block of a state is a given block that exists. -/
theorem currentExists_of {builder : Builder} {reference : Nat}
    (current : builder.current = some reference) (isOld : reference < builder.fresh) :
    builder.CurrentExists := by
  intro other otherCurrent
  rw [current] at otherCurrent
  cases otherCurrent
  exact isOld

/-- Entering a `FOR` pushes its exit and its increment block. -/
theorem enterFor_visits {builder : Builder} {init : Nat}
    (current : builder.current = some init) (statement : Statement) (uniqueName : String)
    (startExpr : Expression) :
    exists entered, builder.enterFor statement uniqueName startExpr = some entered ∧
      entered.targets = builder.targets.insideLoop (builder.fresh + 3) (builder.fresh + 2) ∧
      entered.fresh = builder.fresh + 4 ∧
      entered.current = some (builder.fresh + 1) := by
  unfold enterFor
  rw [addStatement_current _ current, Option.map_some]
  simp only [current_addStatementTo, current]
  refine ⟨_, rfl, ?_, ?_, ?_⟩
  · simp
  · simp
  · simp

/-- Entering a `FOREACH` over a vector pushes its exit and its increment block. -/
theorem enterVectorForEach_visits {builder : Builder} {init : Nat}
    (current : builder.current = some init) (loopVariableName : String)
    (collection : Expression) (collectionType : VarType) :
    exists entered, builder.enterVectorForEach loopVariableName collection collectionType =
        some entered ∧
      entered.targets = builder.targets.insideLoop (builder.fresh + 3) (builder.fresh + 2) ∧
      entered.fresh = builder.fresh + 4 ∧
      entered.current = some (builder.fresh + 1) := by
  have ensured : builder.countHidden.countHidden.countHidden.ensureCurrent =
      builder.countHidden.countHidden.countHidden := by
    simp [ensureCurrent, current]
  simp only [enterVectorForEach, ensured, Option.bind_eq_bind, addStatement,
    current_countHidden, current_addStatementTo, current, Option.map_some,
    Option.bind_some, current_setCurrent, Option.pure_def]
  refine ⟨_, rfl, ?_, ?_, ?_⟩
  · simp
  · simp
  · simp

/-- Entering a `FOREACH` over a list pushes nothing. -/
theorem enterListForEach_visits {builder : Builder} {init : Nat}
    (current : builder.current = some init) (loopVariableName typeVariableName : String)
    (collection : Expression) (inferredElementType : VarType) :
    exists entered, builder.enterListForEach loopVariableName typeVariableName collection
        inferredElementType = some entered ∧
      entered.targets = builder.targets ∧ entered.fresh = builder.fresh + 3 ∧
      entered.current = some (builder.fresh + 1) := by
  simp only [enterListForEach, Option.bind_eq_bind, addStatement, current_countHidden,
    current_addStatementTo, current, Option.map_some, Option.bind_some, Option.pure_def]
  refine ⟨_, rfl, ?_, ?_, ?_⟩
  · simp [targets_addStatementsTo]
  · simp [fresh_addStatementsTo]
  · simp

/-- Entering a `SWITCHON` pushes its join block. -/
theorem enterSwitchon_visits {builder : Builder} (exists_ : builder.CurrentExists)
    (statement : Statement) (cases : List CaseStatement) (hasDefault : Bool) :
    exists entered, builder.enterSwitchon statement cases hasDefault = some entered ∧
      entered.targets = builder.targets.insideSwitch
        builder.endCurrentBlockAndStartNew.fresh ∧
      entered.fresh = builder.endCurrentBlockAndStartNew.fresh + 1 + cases.length +
        hasDefault.toNat := by
  rcases endCurrentBlockAndStartNew_exists builder exists_ with ⟨header, current, isOld⟩
  unfold enterSwitchon
  rw [addStatement_current _ current, Option.map_some]
  simp only [current_addStatementTo, current]
  refine ⟨_, rfl, ?_, ?_⟩
  · rw [targets_addEdges]
    cases hasDefault <;> simp [targets_createCaseBlocks]
  · rw [fresh_addEdges]
    cases hasDefault <;> simp [fresh_createCaseBlocks]

end Builder

end ControlFlow
end NewBcpl
