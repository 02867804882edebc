import NewBcpl.ControlFlow.BlockNames

namespace NewBcpl
namespace ControlFlow

/-!
# How the graph grows during a visit

A visit creates blocks, adds statements and edges to the current block, and
leaves every other block that existed before as it was. Afterwards the current
block is the one of before, or a new one, or there is none. The ids of the blocks
stay distinct, and the exit block, the labels and the recorded `GOTO`s of before
are kept. Each operation of the builder is described by what it does to the block
at a reference; growth is proved from that once for each kind of statement.
-/

namespace Builder

section Blocks

variable (builder : Builder)

@[simp] theorem fresh_setCurrent (current : Option Nat) :
    (builder.setCurrent current).fresh = builder.fresh := rfl

@[simp] theorem block_setCurrent (current : Option Nat) (reference : Nat) :
    (builder.setCurrent current).block reference = builder.block reference := rfl

@[simp] theorem current_setCurrent (current : Option Nat) :
    (builder.setCurrent current).current = current := rfl

@[simp] theorem fresh_createBlock (idPrefix : String) :
    (builder.createBlock idPrefix).fresh = builder.fresh + 1 := by
  simp [fresh, createBlock]

@[simp] theorem current_createBlock (idPrefix : String) :
    (builder.createBlock idPrefix).current = builder.current := rfl

/-- The block that is created. -/
def newBlock (idPrefix : String) : BasicBlock :=
  { id := builder.freshId idPrefix, statements := [], successors := [],
    isEntry := false, isExit := false }

theorem block_createBlock_old (idPrefix : String) {reference : Nat}
    (old : reference < builder.fresh) :
    (builder.createBlock idPrefix).block reference = builder.block reference := by
  unfold fresh at old
  simp [block, createBlock, List.getD, List.getElem?_append_left old]

theorem block_createBlock_new (idPrefix : String) {reference : Nat}
    (new : reference = builder.fresh) :
    (builder.createBlock idPrefix).block reference = builder.newBlock idPrefix := by
  rw [new]
  simp [block, createBlock, List.getD, fresh, newBlock, freshId]

@[simp] theorem fresh_modifyBlock (reference : Nat) (change : BasicBlock -> BasicBlock) :
    (builder.modifyBlock reference change).fresh = builder.fresh := by
  simp [fresh, modifyBlock]

@[simp] theorem current_modifyBlock (reference : Nat)
    (change : BasicBlock -> BasicBlock) :
    (builder.modifyBlock reference change).current = builder.current := rfl

theorem block_modifyBlock_same {reference : Nat} (change : BasicBlock -> BasicBlock)
    (exists_ : reference < builder.fresh) :
    (builder.modifyBlock reference change).block reference =
      change (builder.block reference) := by
  unfold fresh at exists_
  simp [block, modifyBlock, List.getD, exists_]

theorem block_modifyBlock_other {reference other : Nat}
    (change : BasicBlock -> BasicBlock) (different : other ≠ reference) :
    (builder.modifyBlock reference change).block other = builder.block other := by
  simp [block, modifyBlock, List.getD, Ne.symm different]

@[simp] theorem fresh_addEdge (source target : Nat) :
    (builder.addEdge source target).fresh = builder.fresh :=
  builder.fresh_modifyBlock _ _

@[simp] theorem current_addEdge (source target : Nat) :
    (builder.addEdge source target).current = builder.current := rfl

theorem block_addEdge_other {source other : Nat} (target : Nat)
    (different : other ≠ source) :
    (builder.addEdge source target).block other = builder.block other :=
  builder.block_modifyBlock_other _ different

theorem block_addEdge_same {source : Nat} (target : Nat)
    (exists_ : source < builder.fresh) :
    (builder.addEdge source target).block source =
      { builder.block source with
        successors := (builder.block source).successors ++ [target] } :=
  builder.block_modifyBlock_same _ exists_

@[simp] theorem fresh_addStatementTo (reference : Nat) (statement : Statement) :
    (builder.addStatementTo reference statement).fresh = builder.fresh :=
  builder.fresh_modifyBlock _ _

@[simp] theorem current_addStatementTo (reference : Nat) (statement : Statement) :
    (builder.addStatementTo reference statement).current = builder.current := rfl

theorem block_addStatementTo_other {reference other : Nat} (statement : Statement)
    (different : other ≠ reference) :
    (builder.addStatementTo reference statement).block other = builder.block other :=
  builder.block_modifyBlock_other _ different

theorem block_addStatementTo_same {reference : Nat} (statement : Statement)
    (exists_ : reference < builder.fresh) :
    (builder.addStatementTo reference statement).block reference =
      { builder.block reference with
        statements := (builder.block reference).statements ++ [statement] } :=
  builder.block_modifyBlock_same _ exists_

/-- The edges that an operation adds leave the statements of every block. -/
theorem statements_addEdge (source target reference : Nat) :
    ((builder.addEdge source target).block reference).statements =
      (builder.block reference).statements := by
  by_cases same : reference = source
  · rw [same]
    by_cases exists_ : source < builder.fresh
    · rw [block_addEdge_same builder target exists_]
    · unfold fresh at exists_
      simp [block, addEdge, modifyBlock, List.getD,
        List.getElem?_eq_none (Nat.le_of_not_lt exists_)]
  · rw [block_addEdge_other builder target same]

@[simp] theorem fresh_pushLoop (exit advance : Nat) :
    (builder.pushLoop exit advance).fresh = builder.fresh := rfl

@[simp] theorem block_pushLoop (exit advance reference : Nat) :
    (builder.pushLoop exit advance).block reference = builder.block reference := rfl

@[simp] theorem current_pushLoop (exit advance : Nat) :
    (builder.pushLoop exit advance).current = builder.current := rfl

@[simp] theorem fresh_pushEndcase (join : Nat) :
    (builder.pushEndcase join).fresh = builder.fresh := rfl

@[simp] theorem block_pushEndcase (join reference : Nat) :
    (builder.pushEndcase join).block reference = builder.block reference := rfl

@[simp] theorem current_pushEndcase (join : Nat) :
    (builder.pushEndcase join).current = builder.current := rfl

@[simp] theorem fresh_popLoopIfAny : builder.popLoopIfAny.fresh = builder.fresh := rfl

@[simp] theorem current_popLoopIfAny : builder.popLoopIfAny.current = builder.current := rfl

@[simp] theorem fresh_countHidden : builder.countHidden.fresh = builder.fresh := rfl

@[simp] theorem current_countHidden : builder.countHidden.current = builder.current := rfl

end Blocks

/-- What the builder has recorded besides the blocks and the target stacks. -/
structure Registry where
  functionName : String
  exitBlock : Option Nat
  labelTargets : List (String × Nat)
  unresolvedGotos : List (Expression × Nat)

/-- The records of a state. -/
def registry (builder : Builder) : Registry :=
  { functionName := builder.functionName
    exitBlock := builder.exitBlock
    labelTargets := builder.labelTargets
    unresolvedGotos := builder.unresolvedGotos }

/-- The later records keep the earlier ones. -/
structure Registry.Extends (before after : Registry) : Prop where
  functionName : after.functionName = before.functionName
  exitBlock : forall exit, before.exitBlock = some exit -> after.exitBlock = some exit
  labelTargets : exists added, after.labelTargets = added ++ before.labelTargets
  unresolvedGotos : exists added, after.unresolvedGotos = before.unresolvedGotos ++ added

namespace Registry.Extends

theorem refl (registry : Registry) : registry.Extends registry :=
  ⟨rfl, fun _ exit => exit, ⟨[], rfl⟩, ⟨[], (List.append_nil _).symm⟩⟩

theorem trans {before middle after : Registry} (first : before.Extends middle)
    (second : middle.Extends after) : before.Extends after := by
  rcases first with ⟨firstName, firstExit, ⟨firstLabels, labelsEqual⟩,
    ⟨firstGotos, gotosEqual⟩⟩
  rcases second with ⟨secondName, secondExit, ⟨secondLabels, secondLabelsEqual⟩,
    ⟨secondGotos, secondGotosEqual⟩⟩
  refine ⟨secondName.trans firstName, fun exit found => secondExit exit (firstExit exit found),
    ⟨secondLabels ++ firstLabels, ?_⟩, ⟨firstGotos ++ secondGotos, ?_⟩⟩
  · rw [secondLabelsEqual, labelsEqual, List.append_assoc]
  · rw [secondGotosEqual, gotosEqual, List.append_assoc]

end Registry.Extends

namespace Named

variable {builder : Builder}

/-- A block whose id no earlier block has. -/
theorem createBlock_of (named : builder.Named) {idPrefix : String}
    (idAt : IdAt builder.functionName builder.fresh (builder.freshId idPrefix))
    (new : forall reference, reference < builder.fresh ->
      (builder.block reference).id ≠ builder.freshId idPrefix) :
    (builder.createBlock idPrefix).Named := by
  constructor
  · intro reference isOld
    rw [fresh_createBlock] at isOld
    by_cases isNew : reference = builder.fresh
    · rw [block_createBlock_new _ _ isNew, isNew]
      exact idAt
    · rw [block_createBlock_old _ _ (by omega)]
      exact named.ids reference (by omega)
  · intro first second firstOld secondOld equal
    rw [fresh_createBlock] at firstOld secondOld
    by_cases firstNew : first = builder.fresh
    · by_cases secondNew : second = builder.fresh
      · rw [firstNew, secondNew]
      · rw [block_createBlock_new _ _ firstNew,
          block_createBlock_old _ _ (by omega)] at equal
        exact absurd equal.symm (new second (by omega))
    · by_cases secondNew : second = builder.fresh
      · rw [block_createBlock_new _ _ secondNew,
          block_createBlock_old _ _ (by omega)] at equal
        exact absurd equal (new first (by omega))
      · rw [block_createBlock_old _ _ (by omega),
          block_createBlock_old _ _ (by omega)] at equal
        exact named.distinct first second (by omega) (by omega) equal

theorem createBlock (named : builder.Named) {idPrefix : String}
    (ordinary : OrdinaryPrefix idPrefix) : (builder.createBlock idPrefix).Named := by
  refine named.createBlock_of (.ordinary ordinary) ?_
  intro reference isOld equal
  have idAt := named.ids reference isOld
  rw [equal] at idAt
  generalize idEqual : builder.freshId idPrefix = id at idAt
  cases idAt with
  | ordinary otherOrdinary =>
      exact Nat.ne_of_gt isOld (ordinary_distinct ordinary otherOrdinary idEqual)
  | label labelName => exact ordinary_ne_label labelName ordinary idEqual

/-- A label whose id was looked for. -/
theorem createLabel (named : builder.Named) {labelName : String}
    (new : (builder.blocks.any fun block => block.id == builder.labelId labelName) = false) :
    (builder.createBlock ("Label_" ++ labelName)).Named := by
  refine named.createBlock_of (.label labelName) ?_
  intro reference isOld equal
  rw [List.any_eq_false] at new
  unfold fresh at isOld
  refine new builder.blocks[reference] (List.getElem_mem isOld) ?_
  rw [beq_iff_eq]
  simpa [block, List.getD, isOld, labelId] using equal

/-- Changes that keep the ids of all blocks. -/
theorem of_ids (named : builder.Named) {other : Builder}
    (functionName : other.functionName = builder.functionName)
    (fresh : other.fresh = builder.fresh)
    (ids : forall reference, (other.block reference).id = (builder.block reference).id) :
    other.Named := by
  constructor
  · intro reference isOld
    rw [ids, functionName]
    exact named.ids reference (fresh ▸ isOld)
  · intro first second firstOld secondOld equal
    rw [ids, ids] at equal
    exact named.distinct first second (fresh ▸ firstOld) (fresh ▸ secondOld) equal

theorem modifyBlock (named : builder.Named) {reference : Nat}
    {change : BasicBlock -> BasicBlock} (keepsId : forall block, (change block).id = block.id) :
    (builder.modifyBlock reference change).Named := by
  refine named.of_ids rfl (fresh_modifyBlock _ _ _) fun other => ?_
  by_cases same : other = reference
  · by_cases isOld : reference < builder.fresh
    · rw [same, block_modifyBlock_same _ _ isOld, keepsId]
    · unfold fresh at isOld
      rw [same]
      simp [block, Builder.modifyBlock, List.getD,
        List.getElem?_eq_none (Nat.le_of_not_lt isOld)]
  · rw [block_modifyBlock_other _ _ same]

end Named

/-- Two states have the same blocks and the same current block, and the second one
has more records. -/
structure SameGraph (first second : Builder) : Prop where
  fresh : second.fresh = first.fresh
  block : forall reference, second.block reference = first.block reference
  current : second.current = first.current
  registry : first.registry.Extends second.registry

theorem popLoop_sameGraph {builder popped : Builder}
    (pops : builder.popLoop = some popped) : SameGraph builder popped := by
  unfold popLoop at pops
  split at pops
  · cases pops
    exact ⟨rfl, fun _ => rfl, rfl, .refl _⟩
  · cases pops

theorem popEndcase_sameGraph {builder popped : Builder}
    (pops : builder.popEndcase = some popped) : SameGraph builder popped := by
  unfold popEndcase at pops
  split at pops
  · cases pops
    exact ⟨rfl, fun _ => rfl, rfl, .refl _⟩
  · cases pops

theorem addStatement_inv {builder added : Builder} {statement : Statement}
    (adds : builder.addStatement statement = some added) :
    exists reference, builder.current = some reference ∧
      added = builder.addStatementTo reference statement := by
  unfold addStatement at adds
  rcases Option.map_eq_some_iff.mp adds with ⟨reference, current, equal⟩
  exact ⟨reference, current, equal.symm⟩

/-- What a visit may do to the graph. -/
structure Grows (before after : Builder) : Prop where
  fresh_le : before.fresh <= after.fresh
  unchanged : forall reference, reference < before.fresh ->
    before.current ≠ some reference -> after.block reference = before.block reference
  extended : forall reference, reference < before.fresh ->
    exists added, (after.block reference).statements =
      (before.block reference).statements ++ added
  current : forall reference, after.current = some reference ->
    before.current = some reference ∨ before.fresh <= reference
  named : before.Named -> after.Named
  registry : before.registry.Extends after.registry

namespace Grows

variable {before middle after : Builder}

theorem refl (builder : Builder) : Grows builder builder :=
  ⟨Nat.le_refl _, fun _ _ _ => rfl, fun _ _ => ⟨[], (List.append_nil _).symm⟩,
    fun _ current => Or.inl current, fun named => named, .refl _⟩

theorem trans (first : Grows before middle) (second : Grows middle after) :
    Grows before after := by
  constructor
  · exact Nat.le_trans first.fresh_le second.fresh_le
  · intro reference old other
    rw [second.unchanged reference (Nat.lt_of_lt_of_le old first.fresh_le) ?_]
    · exact first.unchanged reference old other
    · intro current
      rcases first.current reference current with same | new
      · exact other same
      · omega
  · intro reference old
    rcases first.extended reference old with ⟨firstAdded, firstEqual⟩
    rcases second.extended reference (Nat.lt_of_lt_of_le old first.fresh_le) with
      ⟨secondAdded, secondEqual⟩
    exact ⟨firstAdded ++ secondAdded, by
      rw [secondEqual, firstEqual, List.append_assoc]⟩
  · intro reference current
    rcases second.current reference current with same | new
    · exact first.current reference same
    · exact Or.inr (Nat.le_trans first.fresh_le new)
  · exact fun named => second.named (first.named named)
  · exact first.registry.trans second.registry

/-- The block belongs to the visit: it was current before it, or is new. -/
def Owns (before : Builder) (reference : Nat) : Prop :=
  before.current = some reference ∨ before.fresh <= reference

/-- The creation of a block that keeps the ids distinct. -/
theorem createBlock_of (grows : Grows before after) {idPrefix : String}
    (named : after.Named -> (after.createBlock idPrefix).Named) :
    Grows before (after.createBlock idPrefix) := by
  have old {reference : Nat} (isOld : reference < before.fresh) :
      (after.createBlock idPrefix).block reference = after.block reference :=
    after.block_createBlock_old idPrefix (Nat.lt_of_lt_of_le isOld grows.fresh_le)
  constructor
  · rw [fresh_createBlock]
    exact Nat.le_succ_of_le grows.fresh_le
  · intro reference isOld other
    rw [old isOld]
    exact grows.unchanged reference isOld other
  · intro reference isOld
    rw [old isOld]
    exact grows.extended reference isOld
  · exact grows.current
  · exact fun beforeNamed => named (grows.named beforeNamed)
  · exact grows.registry

theorem createBlock (grows : Grows before after) (idPrefix : String)
    (ordinary : OrdinaryPrefix idPrefix) : Grows before (after.createBlock idPrefix) :=
  grows.createBlock_of fun named => named.createBlock ordinary

theorem addEdge (grows : Grows before after) {source : Nat} (target : Nat)
    (owned : Owns before source) : Grows before (after.addEdge source target) := by
  constructor
  · rw [fresh_addEdge]
    exact grows.fresh_le
  · intro reference isOld other
    rw [block_addEdge_other]
    · exact grows.unchanged reference isOld other
    · intro same
      rw [same] at isOld other
      rcases owned with current | new
      · exact other current
      · omega
  · intro reference isOld
    rw [statements_addEdge]
    exact grows.extended reference isOld
  · exact grows.current
  · exact fun named => (grows.named named).modifyBlock fun _ => rfl
  · exact grows.registry

theorem addStatementTo (grows : Grows before after) {reference : Nat}
    (statement : Statement) (owned : Owns before reference) :
    Grows before (after.addStatementTo reference statement) := by
  constructor
  · rw [fresh_addStatementTo]
    exact grows.fresh_le
  · intro other isOld different
    rw [block_addStatementTo_other]
    · exact grows.unchanged other isOld different
    · intro same
      rw [same] at isOld different
      rcases owned with current | new
      · exact different current
      · omega
  · intro other isOld
    rcases grows.extended other isOld with ⟨added, equal⟩
    by_cases same : other = reference
    · rw [same, block_addStatementTo_same _ _ (by have := grows.fresh_le; omega)]
      rw [same] at equal
      exact ⟨added ++ [statement], by rw [equal, List.append_assoc]⟩
    · rw [block_addStatementTo_other _ _ same]
      exact ⟨added, equal⟩
  · exact grows.current
  · exact fun named => (grows.named named).modifyBlock fun _ => rfl
  · exact grows.registry

theorem setCurrent (grows : Grows before after) {current : Option Nat}
    (owned : forall reference, current = some reference -> Owns before reference) :
    Grows before (after.setCurrent current) :=
  ⟨grows.fresh_le, grows.unchanged, grows.extended, owned,
    fun named => (grows.named named).of_ids rfl rfl fun _ => rfl, grows.registry⟩

theorem sameGraph (grows : Grows before after) {other : Builder}
    (same : SameGraph after other) : Grows before other := by
  constructor
  · rw [same.fresh]
    exact grows.fresh_le
  · intro reference isOld different
    rw [same.block]
    exact grows.unchanged reference isOld different
  · intro reference isOld
    rw [same.block]
    exact grows.extended reference isOld
  · rw [same.current]
    exact grows.current
  · exact fun named => (grows.named named).of_ids
      same.registry.functionName same.fresh
      fun reference => congrArg BasicBlock.id (same.block reference)
  · exact grows.registry.trans same.registry

/-- The current block after a visit belongs to the visit. -/
theorem owns_current (grows : Grows before after) {reference : Nat}
    (current : after.current = some reference) : Owns before reference :=
  grows.current reference current

theorem owns_fresh (grows : Grows before after) : Owns before after.fresh :=
  Or.inr grows.fresh_le

/-- A block that is created at or after a new one is new. -/
theorem owns_offset (grows : Grows before after) (offset : Nat) :
    Owns before (after.fresh + offset) :=
  Or.inr (Nat.le_trans grows.fresh_le (Nat.le_add_right _ _))

theorem addStatement (grows : Grows before after) {added : Builder}
    {statement : Statement} (adds : after.addStatement statement = some added) :
    Grows before added := by
  rcases addStatement_inv adds with ⟨reference, current, equal⟩
  rw [equal]
  exact grows.addStatementTo statement (grows.owns_current current)

theorem addFallThrough (grows : Grows before after) (target : Nat) :
    Grows before (after.addFallThrough target) := by
  unfold Builder.addFallThrough
  cases current : after.current with
  | none => exact grows
  | some reference =>
      simp only
      split
      · exact grows.addEdge target (grows.owns_current current)
      · exact grows

theorem addEdgeFromCurrent (grows : Grows before after) (target : Nat) :
    Grows before (after.addEdgeFromCurrent target) := by
  unfold Builder.addEdgeFromCurrent
  cases current : after.current with
  | none => exact grows
  | some reference => exact grows.addEdge target (grows.owns_current current)

theorem ensureCurrent (grows : Grows before after) :
    Grows before after.ensureCurrent := by
  unfold Builder.ensureCurrent
  cases current : after.current with
  | some reference => exact grows
  | none =>
      refine (grows.createBlock _ (by decide)).setCurrent fun reference equal => ?_
      cases equal
      exact grows.owns_fresh

theorem endCurrentBlockAndStartNew (grows : Grows before after) :
    Grows before after.endCurrentBlockAndStartNew := by
  unfold Builder.endCurrentBlockAndStartNew
  cases current : after.current with
  | none =>
      refine (grows.createBlock _ (by decide)).setCurrent fun reference equal => ?_
      cases equal
      exact grows.owns_fresh
  | some reference =>
      simp only
      split
      · refine ((grows.createBlock _ (by decide)).addEdge _ (grows.owns_current current)).setCurrent
          fun other equal => ?_
        cases equal
        exact grows.owns_fresh
      · exact grows

theorem ensureExit (grows : Grows before after) : Grows before after.ensureExit := by
  unfold Builder.ensureExit
  cases exits : after.exitBlock with
  | some exit => exact grows
  | none =>
      have created := grows.createBlock "Exit_" (by decide)
      have old {reference : Nat} (isOld : reference < before.fresh) :
          ((after.createBlock "Exit_").modifyBlock after.fresh
            (fun block => { block with isExit := true })).block reference =
            (after.createBlock "Exit_").block reference := by
        apply block_modifyBlock_other
        have := grows.fresh_le
        omega
      constructor
      · change before.fresh <= ((after.createBlock "Exit_").modifyBlock after.fresh
          (fun block => { block with isExit := true })).fresh
        rw [fresh_modifyBlock]
        exact created.fresh_le
      · intro reference isOld other
        exact (old isOld).trans (created.unchanged reference isOld other)
      · intro reference isOld
        rcases created.extended reference isOld with ⟨added, equal⟩
        exact ⟨added, by rw [<- equal, <- old isOld]; rfl⟩
      · exact created.current
      · intro named
        have marked := @Named.modifyBlock _ (created.named named) after.fresh
          (fun block => { block with isExit := true }) fun _ => rfl
        exact marked.of_ids rfl rfl fun _ => rfl
      · have records := grows.registry
        refine ⟨records.functionName, fun exit found => ?_, records.labelTargets,
          records.unresolvedGotos⟩
        have contradiction := records.exitBlock exit found
        change after.exitBlock = some exit at contradiction
        rw [exits] at contradiction
        cases contradiction

theorem countHidden (grows : Grows before after) : Grows before after.countHidden :=
  grows.sameGraph ⟨rfl, fun _ => rfl, rfl, .refl _⟩

theorem pushLoop (grows : Grows before after) (exit advance : Nat) :
    Grows before (after.pushLoop exit advance) :=
  grows.sameGraph ⟨rfl, fun _ => rfl, rfl, .refl _⟩

theorem pushEndcase (grows : Grows before after) (join : Nat) :
    Grows before (after.pushEndcase join) :=
  grows.sameGraph ⟨rfl, fun _ => rfl, rfl, .refl _⟩

theorem popLoopIfAny (grows : Grows before after) : Grows before after.popLoopIfAny :=
  grows.sameGraph ⟨rfl, fun _ => rfl, rfl, .refl _⟩

end Grows

end Builder

end ControlFlow
end NewBcpl
