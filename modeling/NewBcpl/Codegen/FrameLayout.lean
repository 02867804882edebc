import Mathlib.Algebra.Order.BigOperators.Group.Finset
import Mathlib.Data.String.Basic
import NewBcpl.Codegen.CallFrameManager
import NewBcpl.Foundations.Digits

namespace NewBcpl
namespace Codegen
namespace CallFrameManager

open Foundations.Layout

/-!
# The contents of a frame are disjoint and inside it

The locals, the saved registers and the spill slots are three layouts, one after
the other, behind the saved pair and the canaries. The offsets that the prologue
assigns to the locals are the ones handed out before. What the prologue does not
guarantee is that the frame can be encoded, that a saved register has a slot of
its own, and that later spill slots are inside.
-/

theorem registerName_injective {first second : Fin 31}
    (equal : registerName first = registerName second) : first = second := by
  have lists := congrArg String.toList equal
  simp only [registerName, String.toList_append, List.append_cancel_left_eq] at lists
  exact Fin.ext (Foundations.Digits.digits_injective lists)

section Offsets

/-- Every name keeps the offset it has. -/
def Keeps (before after : List (String × Int)) : Prop :=
  forall name offset, before.lookup name = some offset -> after.lookup name = some offset

theorem Keeps.refl (offsets : List (String × Int)) : Keeps offsets offsets :=
  fun _ _ found => found

theorem Keeps.trans {before middle after : List (String × Int)}
    (first : Keeps before middle) (second : Keeps middle after) : Keeps before after :=
  fun name offset found => second name offset (first name offset found)

theorem Keeps.cons {offsets : List (String × Int)} {name : String} (offset : Int)
    (new : offsets.lookup name = none) : Keeps offsets ((name, offset) :: offsets) := by
  intro other otherOffset found
  by_cases same : other = name
  · rw [same, new] at found
    cases found
  · rw [List.lookup_cons]
    simpa [beq_false_of_ne same] using found

/-- The locals have the offsets of a layout that starts at `start`. -/
def Assigned (offsets : List (String × Int)) : Int -> List (String × Int) -> Prop
  | _, [] => True
  | start, (name, size) :: rest =>
      offsets.lookup name = some start ∧ Assigned offsets (start + size) rest

theorem Assigned.keeps {before after : List (String × Int)} (keeps : Keeps before after)
    {start : Int} {declarations : List (String × Int)}
    (assigned : Assigned before start declarations) :
    Assigned after start declarations := by
  induction declarations generalizing start with
  | nil => trivial
  | cons declaration rest ih => exact ⟨keeps _ _ assigned.1, ih assigned.2⟩

theorem Assigned.concat {offsets : List (String × Int)} {start : Int}
    {declarations : List (String × Int)} (assigned : Assigned offsets start declarations)
    {name : String} (size : Int)
    (found : offsets.lookup name = some (start + (declarations.map Prod.snd).sum)) :
    Assigned offsets start (declarations ++ [(name, size)]) := by
  induction declarations generalizing start with
  | nil => exact ⟨by simpa using found, trivial⟩
  | cons declaration rest ih =>
      refine ⟨assigned.1, ih assigned.2 ?_⟩
      rw [List.map_cons, List.sum_cons, <- Int.add_assoc] at found
      exact found

/-- The slots of assigned locals are a layout. -/
theorem Assigned.regions {offsets : List (String × Int)} {start : Int}
    {declarations : List (String × Int)} (assigned : Assigned offsets start declarations) :
    (declarations.map fun declaration =>
      ({ start := (offsets.lookup declaration.1).getD 0, size := declaration.2 } : Region)) =
      place start (declarations.map Prod.snd) := by
  induction declarations generalizing start with
  | nil => rfl
  | cons declaration rest ih =>
      rw [List.map_cons, List.map_cons, place, assigned.1, ih assigned.2]
      rfl

/-- A saved register gets no offset if its name has one. -/
theorem placeSaved_keeps (state : List (String × Int) × Int) (register : Fin 31) :
    Keeps state.1 (placeSaved state register).1 := by
  unfold placeSaved
  split
  · exact Keeps.refl _
  · rename_i new
    exact Keeps.cons _ new

theorem foldl_placeSaved_keeps (registers : List (Fin 31))
    (state : List (String × Int) × Int) :
    Keeps state.1 (registers.foldl placeSaved state).1 := by
  induction registers generalizing state with
  | nil => exact Keeps.refl _
  | cons register rest ih => exact (placeSaved_keeps state register).trans (ih _)

/-- The slot of a saved register under some offsets. -/
def savedSlot (offsets : List (String × Int)) (register : Fin 31) : Region :=
  { start := (offsets.lookup (registerName register)).getD 0, size := 8 }

/-- The sizes of the saved registers. -/
def savedSizes (registers : List (Fin 31)) : List Int := registers.map fun _ => 8

theorem savedSizes_sum (registers : List (Fin 31)) :
    (savedSizes registers).sum = registers.length * 8 := by
  induction registers with
  | nil => rfl
  | cons register rest ih =>
      change 8 + (savedSizes rest).sum = _
      rw [ih, List.length_cons]
      push_cast
      omega

/-- Registers whose names are new get a layout of their own. -/
theorem foldl_placeSaved {registers : List (Fin 31)} {offsets : List (String × Int)}
    {next : Int} (distinct : registers.Nodup)
    (new : forall register, register ∈ registers ->
      offsets.lookup (registerName register) = none) :
    (registers.foldl placeSaved (offsets, next)).2 = next + registers.length * 8 ∧
      registers.map (savedSlot (registers.foldl placeSaved (offsets, next)).1) =
        place next (savedSizes registers) ∧
      forall register, register ∈ registers ->
        exists count : Nat, count < registers.length ∧
          (registers.foldl placeSaved (offsets, next)).1.lookup (registerName register) =
            some (next + count * 8) := by
  induction registers generalizing offsets next with
  | nil => exact ⟨by simp, rfl, fun _ member => nomatch member⟩
  | cons register rest ih =>
      rw [List.nodup_cons] at distinct
      have placed : placeSaved (offsets, next) register =
          ((registerName register, next) :: offsets, next + 8) := by
        simp [placeSaved, new register List.mem_cons_self]
      have restNew : forall other, other ∈ rest ->
          ((registerName register, next) :: offsets).lookup (registerName other) = none := by
        intro other member
        have different : registerName other ≠ registerName register := by
          intro equal
          rw [registerName_injective equal] at member
          exact distinct.1 member
        rw [List.lookup_cons, beq_false_of_ne different]
        exact new other (List.mem_cons_of_mem _ member)
      rcases @ih _ (next + 8) distinct.2 restNew with ⟨restNext, restRegions, restFound⟩
      have found : (rest.foldl placeSaved
          ((registerName register, next) :: offsets, next + 8)).1.lookup
            (registerName register) = some next :=
        foldl_placeSaved_keeps rest _ _ _ (by simp)
      rw [List.foldl_cons, placed]
      refine ⟨?_, ?_, ?_⟩
      · rw [restNext, List.length_cons]
        push_cast
        omega
      · rw [List.map_cons, restRegions, savedSlot, found]
        rfl
      · intro other member
        rcases List.mem_cons.mp member with equal | inRest
        · exact ⟨0, Nat.zero_lt_succ _, by rw [equal, found]; simp⟩
        · rcases restFound other inRest with ⟨count, isLess, restLookup⟩
          refine ⟨count + 1, Nat.succ_lt_succ isLess, ?_⟩
          rw [restLookup]
          push_cast
          congr 1
          omega

end Offsets

section Preparation

/-- What holds before the prologue. -/
structure Prepared (manager : CallFrameManager) : Prop where
  notGenerated : manager.isPrologueGenerated = false
  offsets : (manager.variableOffsets, manager.currentLocalsOffset) =
    manager.localDeclarations.foldl placeLocal ([], manager.localsStart)
  total : manager.localsTotalSize = (manager.localDeclarations.map Prod.snd).sum
  next : manager.currentLocalsOffset = manager.localsStart + manager.localsTotalSize
  assigned : Assigned manager.variableOffsets manager.localsStart manager.localDeclarations
  names : forall name, manager.variableOffsets.lookup name ≠ none ->
    name ∈ manager.localDeclarations.map Prod.fst
  sizes : forall declaration, declaration ∈ manager.localDeclarations ->
    declaration.2 = 8 ∨ declaration.2 = 16
  saved : manager.calleeSavedRegisters.Nodup
  noSpills : manager.spillVariableOffsets = []

theorem create_prepared (canariesEnabled useExtendedPool usesGlobalPointers : Bool) :
    (create canariesEnabled useExtendedPool usesGlobalPointers).Prepared := by
  constructor
  · rfl
  · rfl
  · rfl
  · exact (Int.add_zero _).symm
  · trivial
  · exact fun _ found => absurd rfl found
  · exact fun _ member => nomatch member
  · exact List.nodup_nil
  · rfl

theorem sizeForType_eq (type : VarType) : sizeForType type = 8 ∨ sizeForType type = 16 := by
  cases type <;> simp [sizeForType]

theorem addLocal_prepared {manager : CallFrameManager} (prepared : manager.Prepared)
    (name : String) (type : VarType) :
    (manager.addLocal name type).Prepared ∧
      Keeps manager.variableOffsets (manager.addLocal name type).variableOffsets := by
  unfold addLocal
  cases found : manager.variableOffsets.lookup name with
  | some offset => exact ⟨prepared, Keeps.refl _⟩
  | none =>
      have keeps := Keeps.cons manager.currentLocalsOffset found
      refine ⟨⟨prepared.notGenerated, ?_, ?_, ?_, ?_, ?_, ?_, prepared.saved,
        prepared.noSpills⟩, keeps⟩
      · dsimp only
        rw [List.foldl_append, List.foldl_cons, List.foldl_nil]
        exact congrArg (fun state => placeLocal state (name, sizeForType type))
          prepared.offsets
      · simp [prepared.total]
      · have next := prepared.next
        change manager.currentLocalsOffset + sizeForType type = manager.localsStart +
          (manager.localsTotalSize + sizeForType type)
        omega
      · refine (prepared.assigned.keeps keeps).concat _ ?_
        rw [<- prepared.total]
        rw [<- prepared.next]
        simp
      · intro other otherFound
        rw [List.map_append, List.mem_append]
        by_cases same : other = name
        · exact Or.inr (by simp [same])
        · rw [List.lookup_cons, beq_false_of_ne same] at otherFound
          exact Or.inl (prepared.names other otherFound)
      · intro declaration member
        rcases List.mem_append.mp member with old | new
        · exact prepared.sizes declaration old
        · rw [List.mem_singleton.mp new]
          exact sizeForType_eq type

theorem markSaved_prepared {manager : CallFrameManager} (prepared : manager.Prepared)
    (register : Fin 31) :
    (manager.markSaved register).Prepared ∧
      Keeps manager.variableOffsets (manager.markSaved register).variableOffsets := by
  unfold markSaved
  split
  · exact ⟨prepared, Keeps.refl _⟩
  · rename_i new
    refine ⟨{ prepared with saved := ?_ }, Keeps.refl _⟩
    dsimp only
    rw [List.nodup_append]
    exact ⟨prepared.saved, List.nodup_singleton register, fun first firstMember second
      secondMember equal => new (by
        rw [List.mem_singleton] at secondMember
        rw [<- secondMember, <- equal]
        exact firstMember)⟩

theorem foldl_markSaved_prepared {manager : CallFrameManager}
    (prepared : manager.Prepared) (registers : List (Fin 31)) :
    (registers.foldl markSaved manager).Prepared ∧
      Keeps manager.variableOffsets (registers.foldl markSaved manager).variableOffsets := by
  induction registers generalizing manager with
  | nil => exact ⟨prepared, Keeps.refl _⟩
  | cons register rest ih =>
      rcases markSaved_prepared prepared register with ⟨marked, keeps⟩
      rcases ih marked with ⟨rest, restKeeps⟩
      exact ⟨rest, keeps.trans restKeeps⟩

/-- No operation before the prologue fails or changes an offset. -/
theorem perform_prepared {manager : CallFrameManager} (prepared : manager.Prepared)
    (operation : Operation) :
    exists after, manager.perform operation = some after ∧ after.Prepared ∧
      Keeps manager.variableOffsets after.variableOffsets := by
  cases operation with
  | addParameter name type => exact ⟨_, rfl, addLocal_prepared prepared name type⟩
  | addLocal name type => exact ⟨_, rfl, addLocal_prepared prepared name type⟩
  | preallocateSpillSlots count =>
      have grown : manager.preallocateSpillSlots count =
          { manager with spillAreaSize := manager.spillAreaSize + count * 8 } :=
        if_neg (by simp [prepared.notGenerated])
      refine ⟨_, rfl, ?_, ?_⟩
      · rw [grown]
        exact { prepared with }
      · rw [grown]
        exact Keeps.refl _
  | reserveRegistersBasedOnPressure pressure =>
      refine ⟨_, ?_, foldl_markSaved_prepared prepared
        (manager.activeVariableRegisters.take pressure.toNat)⟩
      simp only [perform, reserveRegistersBasedOnPressure, prepared.notGenerated,
        Bool.false_eq_true, if_false]
  | forceSaveRegister register =>
      refine ⟨_, ?_, markSaved_prepared prepared register⟩
      simp only [perform, forceSaveRegister, prepared.notGenerated, Bool.false_eq_true,
        if_false]

theorem performAll_prepared {manager : CallFrameManager} (prepared : manager.Prepared)
    (operations : List Operation) :
    exists after, manager.performAll operations = some after ∧ after.Prepared ∧
      Keeps manager.variableOffsets after.variableOffsets := by
  induction operations generalizing manager with
  | nil => exact ⟨manager, rfl, prepared, Keeps.refl _⟩
  | cons operation rest ih =>
      rcases perform_prepared prepared operation with ⟨middle, performs, middlePrepared, keeps⟩
      rcases ih middlePrepared with ⟨after, performsRest, afterPrepared, restKeeps⟩
      refine ⟨after, ?_, afterPrepared, keeps.trans restKeeps⟩
      unfold performAll
      rw [List.foldlM_cons, performs]
      exact performsRest

theorem savedRegisters_nodup {manager : CallFrameManager} (prepared : manager.Prepared) :
    manager.savedRegisters.Nodup := by
  unfold savedRegisters
  rw [(List.perm_insertionSort _ _).nodup_iff]
  split
  · exact (markSaved_prepared (markSaved_prepared prepared 19).1 28).1.saved
  · exact prepared.saved

end Preparation

section Conditions

/-- The bytes of everything that the prologue lays out. -/
def contentSize (manager : CallFrameManager) : Int :=
  manager.localsStart + manager.localsTotalSize + manager.savedRegisters.length * 8

/-- The bytes of the spill slots that are asked for under some names. -/
def spillBytes (manager : CallFrameManager) (names : List String) : Int :=
  ∑ name ∈ names.toFinset, manager.spillSlotSize name

/-- The condition on the state before the prologue: no saved register has the name of
a local, the frame can be encoded, and the spill slots fit in what is left of it. -/
structure FrameFits (manager : CallFrameManager) (names : List String) : Prop where
  ownSlots : forall register, register ∈ manager.savedRegisters ->
    registerName register ∉ manager.localDeclarations.map Prod.fst
  encodes : manager.frameSize <= 512
  spills : manager.contentSize + manager.spillBytes names <= manager.frameSize

/-- After any operations the prologue is generated, everything in the frame is
disjoint and inside it after the spill slots of the given names have been asked for,
and no offset that was ever handed out has changed. -/
def FrameSound (start : CallFrameManager) (operations : List Operation)
    (names : List String) : Prop :=
  exists prepared code generated,
    start.performAll operations = some prepared ∧
    prepared.generatePrologue = some (code, generated) ∧
    (generated.spillAll names).regions.Pairwise Region.Apart ∧
    (forall region, region ∈ (generated.spillAll names).regions ->
      region.Within 0 (generated.spillAll names).finalFrameSize) ∧
    forall early before after, operations = before ++ after ->
      start.performAll before = some early ->
      Keeps early.variableOffsets (generated.spillAll names).variableOffsets

end Conditions

section Prologue

/-- The state after the prologue. -/
def withPrologue (manager : CallFrameManager) : CallFrameManager :=
  { manager with
    calleeSavedRegisters := manager.savedRegisters
    finalFrameSize := manager.frameSize
    variableOffsets := manager.assignOffsets.1
    nextSpillOffset := manager.assignOffsets.2
    isPrologueGenerated := true }

/-- The prologue fixes the layout, whatever it emits. -/
theorem generatePrologue_state {manager generated : CallFrameManager}
    {code : List PrologueInstruction}
    (generates : manager.generatePrologue = some (code, generated)) :
    generated = manager.withPrologue ∧ manager.frameSize <= 512 := by
  unfold generatePrologue at generates
  split at generates
  · cases generates
  · simp only [Option.bind_eq_bind, Option.pure_def, Option.bind_eq_some_iff,
      Option.some.injEq, Prod.mk.injEq] at generates
    rcases generates with ⟨stp, encodes, stores, _, _, equal⟩
    refine ⟨equal.symm, ?_⟩
    unfold createStpPreImm at encodes
    split at encodes
    · cases encodes
    · omega

variable {manager : CallFrameManager} (prepared : manager.Prepared)

include prepared

/-- The offsets that the prologue starts from are the ones handed out before. -/
theorem assignOffsets_eq : manager.assignOffsets =
    manager.savedRegisters.foldl placeSaved
      (manager.variableOffsets, manager.currentLocalsOffset) := by
  unfold assignOffsets
  rw [prepared.offsets]

theorem assignOffsets_keeps : Keeps manager.variableOffsets manager.assignOffsets.1 := by
  rw [assignOffsets_eq prepared]
  exact foldl_placeSaved_keeps manager.savedRegisters
    (manager.variableOffsets, manager.currentLocalsOffset)

/-- The slots of the locals after the prologue. -/
theorem local_regions : manager.localDeclarations.map manager.withPrologue.localRegion =
    place manager.localsStart (manager.localDeclarations.map Prod.snd) :=
  (prepared.assigned.keeps (assignOffsets_keeps prepared)).regions

variable (ownSlots : forall register, register ∈ manager.savedRegisters ->
  registerName register ∉ manager.localDeclarations.map Prod.fst)

include ownSlots

/-- Saved registers with names of their own are laid out behind the locals. -/
theorem saved_placed :
    manager.assignOffsets.2 = manager.contentSize ∧
      manager.savedRegisters.map manager.withPrologue.savedRegion =
        place (manager.localsStart + manager.localsTotalSize)
          (savedSizes manager.savedRegisters) ∧
      forall register, register ∈ manager.savedRegisters ->
        exists count : Nat, count < manager.savedRegisters.length ∧
          manager.assignOffsets.1.lookup (registerName register) =
            some (manager.localsStart + manager.localsTotalSize + count * 8) := by
  have new : forall register, register ∈ manager.savedRegisters ->
      manager.variableOffsets.lookup (registerName register) = none := by
    intro register member
    by_contra found
    exact ownSlots register member (prepared.names _ found)
  have placed := @foldl_placeSaved _ _ manager.currentLocalsOffset
    (savedRegisters_nodup prepared) new
  rw [<- assignOffsets_eq prepared, prepared.next] at placed
  exact placed

end Prologue

section Spills

/-- The layout of the spill slots: newest first, from `base` up to the next one. -/
structure Spilled (base : Int) (manager current : CallFrameManager) : Prop where
  types : current.variableTypes = manager.variableTypes
  next : current.nextSpillOffset = base +
    ∑ name ∈ (current.spillVariableOffsets.map Prod.fst).toFinset,
      manager.spillSlotSize name
  regions : (current.spillVariableOffsets.map manager.spillRegion).reverse =
    place base ((current.spillVariableOffsets.map
      fun slot => manager.spillSlotSize slot.1).reverse)
  sum : ((current.spillVariableOffsets.map
      fun slot => manager.spillSlotSize slot.1).reverse).sum =
    ∑ name ∈ (current.spillVariableOffsets.map Prod.fst).toFinset,
      manager.spillSlotSize name

/-- What a spill slot leaves unchanged. -/
structure SameFrame (before after : CallFrameManager) : Prop where
  canaries : after.canariesEnabled = before.canariesEnabled
  locals : after.localDeclarations = before.localDeclarations
  offsets : after.variableOffsets = before.variableOffsets
  saved : after.calleeSavedRegisters = before.calleeSavedRegisters
  size : after.finalFrameSize = before.finalFrameSize

theorem lookup_eq_none_iff {offsets : List (String × Int)} {name : String} :
    offsets.lookup name = none <-> name ∉ offsets.map Prod.fst := by
  induction offsets with
  | nil => simp
  | cons entry rest ih =>
      rw [List.lookup_cons]
      by_cases same : name = entry.1
      · simp [same]
      · rw [beq_false_of_ne same]
        simpa [same] using ih

theorem getSpillOffset_spilled {base : Int} {manager current : CallFrameManager}
    (spilled : Spilled base manager current) (name : String) :
    Spilled base manager (current.getSpillOffset name).2 ∧
      SameFrame current (current.getSpillOffset name).2 ∧
      ((current.getSpillOffset name).2.spillVariableOffsets.map Prod.fst).toFinset =
        insert name (current.spillVariableOffsets.map Prod.fst).toFinset := by
  have slotSize : current.spillSlotSize name = manager.spillSlotSize name := by
    unfold spillSlotSize
    rw [spilled.types]
  unfold getSpillOffset
  cases found : current.spillVariableOffsets.lookup name with
  | some offset =>
      refine ⟨spilled, ⟨rfl, rfl, rfl, rfl, rfl⟩, ?_⟩
      have member : name ∈ current.spillVariableOffsets.map Prod.fst := by
        by_contra absent
        rw [lookup_eq_none_iff.mpr absent] at found
        cases found
      exact (Finset.insert_eq_of_mem (List.mem_toFinset.mpr member)).symm
  | none =>
      have new : name ∉ (current.spillVariableOffsets.map Prod.fst).toFinset := by
        rw [List.mem_toFinset]
        exact lookup_eq_none_iff.mp found
      have names : (((name, current.nextSpillOffset) ::
          current.spillVariableOffsets).map Prod.fst).toFinset =
          insert name (current.spillVariableOffsets.map Prod.fst).toFinset := by
        rw [List.map_cons, List.toFinset_cons]
      have sum : (((current.spillVariableOffsets.map
          fun slot => manager.spillSlotSize slot.1).reverse) ++
            [manager.spillSlotSize name]).sum =
          ∑ other ∈ insert name (current.spillVariableOffsets.map Prod.fst).toFinset,
            manager.spillSlotSize other := by
        rw [List.sum_append, spilled.sum, Finset.sum_insert new, List.sum_singleton,
          Int.add_comm]
      refine ⟨⟨spilled.types, ?_, ?_, ?_⟩, ⟨rfl, rfl, rfl, rfl, rfl⟩, names⟩
      · dsimp only
        rw [names, Finset.sum_insert new, slotSize, spilled.next]
        omega
      · dsimp only
        rw [List.map_cons, List.map_cons, List.reverse_cons, List.reverse_cons,
          place_append, spilled.regions, spilled.sum, <- spilled.next]
        rfl
      · dsimp only
        rw [names, List.map_cons, List.reverse_cons]
        exact sum

theorem spillAll_spilled {base : Int} {manager current : CallFrameManager}
    (spilled : Spilled base manager current) (names : List String) :
    Spilled base manager (current.spillAll names) ∧
      SameFrame current (current.spillAll names) ∧
      ((current.spillAll names).spillVariableOffsets.map Prod.fst).toFinset =
        names.toFinset ∪ (current.spillVariableOffsets.map Prod.fst).toFinset := by
  induction names generalizing current with
  | nil => exact ⟨spilled, ⟨rfl, rfl, rfl, rfl, rfl⟩, by simp [spillAll]⟩
  | cons name rest ih =>
      rcases getSpillOffset_spilled spilled name with ⟨first, same, firstNames⟩
      rcases ih first with ⟨last, lastSame, lastNames⟩
      refine ⟨last, ?_, ?_⟩
      · exact ⟨lastSame.canaries.trans same.canaries, lastSame.locals.trans same.locals,
          lastSame.offsets.trans same.offsets, lastSame.saved.trans same.saved,
          lastSame.size.trans same.size⟩
      · rw [firstNames] at lastNames
        refine lastNames.trans ?_
        rw [List.toFinset_cons]
        ext other
        simp only [Finset.mem_union, Finset.mem_insert]
        tauto

end Spills

section Layout

variable {manager : CallFrameManager} (prepared : manager.Prepared)

include prepared

theorem localSizes_positive : AllPositive (manager.localDeclarations.map Prod.snd) := by
  intro size member
  rcases List.mem_map.mp member with ⟨declaration, isLocal, equal⟩
  have sizes := prepared.sizes declaration isLocal
  omega

theorem withPrologue_spilled :
    Spilled manager.assignOffsets.2 manager.withPrologue manager.withPrologue := by
  have noSpills : manager.withPrologue.spillVariableOffsets = [] := prepared.noSpills
  constructor
  · rfl
  · rw [noSpills]
    exact (Int.add_zero _).symm
  · rw [noSpills]
    rfl
  · rw [noSpills]
    rfl

/-- The parts of the frame after the spill slots. -/
theorem spilled_parts (names : List String) :
    (manager.withPrologue.spillAll names).regions =
        manager.fixedRegions ++
          place manager.localsStart (manager.localDeclarations.map Prod.snd) ++
          manager.savedRegisters.map manager.withPrologue.savedRegion ++
          (manager.withPrologue.spillAll names).spillVariableOffsets.map
            manager.withPrologue.spillRegion ∧
      (manager.withPrologue.spillAll names).finalFrameSize = manager.frameSize ∧
      (manager.withPrologue.spillAll names).variableOffsets = manager.assignOffsets.1 ∧
      Spilled manager.assignOffsets.2 manager.withPrologue
        (manager.withPrologue.spillAll names) ∧
      ((manager.withPrologue.spillAll names).spillVariableOffsets.map Prod.fst).toFinset =
        names.toFinset := by
  rcases spillAll_spilled (withPrologue_spilled prepared) names with
    ⟨spilled, same, spilledNames⟩
  have noSpills : manager.withPrologue.spillVariableOffsets = [] := prepared.noSpills
  rw [noSpills, List.map_nil, List.toFinset_nil, Finset.union_empty] at spilledNames
  refine ⟨?_, same.size, same.offsets, spilled, spilledNames⟩
  have fixed : (manager.withPrologue.spillAll names).fixedRegions = manager.fixedRegions := by
    unfold fixedRegions
    rw [same.canaries]
    rfl
  have localSlots : (manager.withPrologue.spillAll names).localRegion =
      manager.withPrologue.localRegion := by
    funext declaration
    unfold localRegion getOffset
    rw [same.offsets]
  have savedSlots : (manager.withPrologue.spillAll names).savedRegion =
      manager.withPrologue.savedRegion := by
    funext register
    unfold savedRegion getOffset
    rw [same.offsets]
  have spillSlots : (manager.withPrologue.spillAll names).spillRegion =
      manager.withPrologue.spillRegion := by
    funext slot
    unfold spillRegion spillSlotSize
    rw [spilled.types]
  unfold regions
  rw [fixed, same.locals, same.saved, localSlots, savedSlots, spillSlots,
    <- local_regions prepared]
  rfl

end Layout

theorem fixedRegions_within (manager : CallFrameManager) :
    manager.fixedRegions.Pairwise Region.Apart ∧
      (forall region, region ∈ manager.fixedRegions ->
        region.Within 0 manager.localsStart) ∧
      forall high, (forall region, region ∈ manager.fixedRegions -> region.stop <= high) ->
        manager.localsStart <= high := by
  unfold fixedRegions localsStart canarySpace
  cases manager.canariesEnabled with
  | false =>
      refine ⟨by simp, ?_, ?_⟩
      · simp [Region.Within, Region.stop]
      · intro high contains
        simpa [Region.stop] using contains _ List.mem_cons_self
  | true =>
      refine ⟨?_, ?_, ?_⟩
      · simp [Region.Apart, Region.stop, canarySize]
      · simp [Region.Within, Region.stop, canarySize]
      · intro high contains
        simpa [Region.stop, canarySize] using contains
          { start := 16 + canarySize, size := canarySize } (by simp)

theorem spilled_positive {base : Int} {manager current : CallFrameManager}
    (_ : Spilled base manager current) :
    AllPositive ((current.spillVariableOffsets.map
      fun slot => manager.spillSlotSize slot.1).reverse) := by
  intro size member
  rw [List.mem_reverse] at member
  rcases List.mem_map.mp member with ⟨slot, _, equal⟩
  have sizes := sizeForType_eq ((manager.variableTypes.lookup slot.1).getD .unknown)
  change manager.spillSlotSize slot.1 = 8 ∨ manager.spillSlotSize slot.1 = 16 at sizes
  omega

/-- The spill slots are apart, and inside whatever their total is. -/
theorem spilled_within {base : Int} {manager current : CallFrameManager}
    (spilled : Spilled base manager current) :
    (current.spillVariableOffsets.map manager.spillRegion).Pairwise Region.Apart ∧
      (forall region, region ∈ current.spillVariableOffsets.map manager.spillRegion ->
        region.Within base current.nextSpillOffset) ∧
      forall high, base <= high ->
        (forall region, region ∈ current.spillVariableOffsets.map manager.spillRegion ->
          region.stop <= high) -> current.nextSpillOffset <= high := by
  have positive := spilled_positive spilled
  have total : current.nextSpillOffset = base + ((current.spillVariableOffsets.map
      fun slot => manager.spillSlotSize slot.1).reverse).sum := by
    rw [spilled.next, spilled.sum]
  refine ⟨?_, ?_, ?_⟩
  · have placed := place_apart positive base
    rw [<- spilled.regions, List.pairwise_reverse] at placed
    exact placed.imp fun apart => Or.symm apart
  · intro region member
    rw [total]
    refine place_within positive base region ?_
    rw [<- spilled.regions]
    exact List.mem_reverse.mpr member
  · intro high starts contains
    rw [total]
    refine place_reaches starts fun region member => ?_
    rw [<- spilled.regions, List.mem_reverse] at member
    exact contains region member

section Prologues

variable {manager : CallFrameManager} (prepared : manager.Prepared)

include prepared

/-- A local and a saved register of one name share a slot. -/
theorem shared_slot {register : Fin 31} (isSaved : register ∈ manager.savedRegisters)
    (isLocal : registerName register ∈ manager.localDeclarations.map Prod.fst)
    (names : List String) :
    ¬ (manager.withPrologue.spillAll names).regions.Pairwise Region.Apart := by
  intro apart
  rw [(spilled_parts prepared names).1, <- local_regions prepared] at apart
  have parts := (List.pairwise_append.mp (List.pairwise_append.mp apart).1).2.2
  rcases List.mem_map.mp isLocal with ⟨declaration, member, name⟩
  have localMember : manager.withPrologue.localRegion declaration ∈
      manager.fixedRegions ++
        manager.localDeclarations.map manager.withPrologue.localRegion :=
    List.mem_append_right _ (List.mem_map_of_mem member)
  have savedMember : manager.withPrologue.savedRegion register ∈
      manager.savedRegisters.map manager.withPrologue.savedRegion :=
    List.mem_map_of_mem isSaved
  refine Region.not_apart_of_start ?_ ?_ ?_ (parts _ localMember _ savedMember)
  · unfold localRegion savedRegion
    rw [name]
  · have sizes := prepared.sizes declaration member
    change 0 < declaration.2
    omega
  · change (0 : Int) < 8
    decide

/-- The size of a frame that holds its contents allows its prologue. -/
theorem generatePrologue_succeeds
    (ownSlots : forall register, register ∈ manager.savedRegisters ->
      registerName register ∉ manager.localDeclarations.map Prod.fst)
    (encodes : manager.frameSize <= 512) (contains : manager.contentSize <= manager.frameSize) :
    exists code, manager.generatePrologue = some (code, manager.withPrologue) := by
  have nonneg := (localSizes_positive prepared).sum_nonneg
  rw [<- prepared.total] at nonneg
  have startRange : manager.localsStart = 16 ∨ manager.localsStart = 32 := by
    unfold localsStart canarySpace canarySize
    split <;> simp
  have aligned : manager.frameSize % 8 = 0 := by
    unfold frameSize alignTo16
    omega
  have localsAligned : manager.localsTotalSize % 8 = 0 := by
    rw [prepared.total]
    have sizes := prepared.sizes
    generalize manager.localDeclarations = declarations at sizes
    induction declarations with
    | nil => rfl
    | cons declaration rest ih =>
        have head := sizes declaration List.mem_cons_self
        have tail := ih fun other member => sizes other (List.mem_cons_of_mem _ member)
        rw [List.map_cons, List.sum_cons]
        omega
  have stp : createStpPreImm (-manager.frameSize) = some (.stpPre (-manager.frameSize)) := by
    unfold contentSize at contains
    unfold createStpPreImm
    rw [if_neg (by omega)]
  have saves : exists stores,
      saveInstructions manager.assignOffsets.1 manager.savedRegisters = some stores := by
    have found := (saved_placed prepared ownSlots).2.2
    have count : (manager.savedRegisters.length : Int) * 8 <= 512 := by
      unfold contentSize at contains
      omega
    unfold contentSize at contains
    generalize manager.savedRegisters = registers at found contains count
    have all : forall register, register ∈ registers -> exists offset : Int,
        manager.assignOffsets.1.lookup (registerName register) = some offset ∧
          storeOffsetEncodes offset = true := by
      intro register member
      rcases found register member with ⟨index, isLess, offset⟩
      refine ⟨_, offset, ?_⟩
      simp only [storeOffsetEncodes, Bool.and_eq_true, decide_eq_true_eq, beq_iff_eq]
      omega
    clear found contains count
    induction registers with
    | nil => exact ⟨[], rfl⟩
    | cons register rest ih =>
        rcases all register List.mem_cons_self with ⟨offset, lookup, encodable⟩
        rcases ih fun other member => all other (List.mem_cons_of_mem _ member) with
          ⟨stores, restStores⟩
        refine ⟨.storeRegister register offset :: stores, ?_⟩
        simp [saveInstructions, lookup, encodable, restStores]
  rcases saves with ⟨stores, saves⟩
  refine ⟨.stpPre (-manager.frameSize) :: .movFpSp ::
    (manager.canaryInstructions ++ stores), ?_⟩
  unfold generatePrologue
  rw [if_neg (by simp [prepared.notGenerated])]
  simp only [stp, saves, Option.bind_eq_bind, Option.bind_some, Option.pure_def]
  rfl

/-- The layout that the prologue of a frame and its spill slots end up with is sound
exactly when everything fits. -/
theorem layout_sound_iff (names : List String) :
    (exists code generated, manager.generatePrologue = some (code, generated) ∧
      (generated.spillAll names).regions.Pairwise Region.Apart ∧
      forall region, region ∈ (generated.spillAll names).regions ->
        region.Within 0 (generated.spillAll names).finalFrameSize) <->
      FrameFits manager names := by
  have parts := spilled_parts prepared names
  have fixed := fixedRegions_within manager
  have locals := localSizes_positive prepared
  have spilled := spilled_within parts.2.2.2.1
  have bytes : (manager.withPrologue.spillAll names).nextSpillOffset =
      manager.assignOffsets.2 + manager.spillBytes names := by
    rw [parts.2.2.2.1.next, parts.2.2.2.2]
    rfl
  constructor
  · rintro ⟨code, generated, generates, apart, within⟩
    rcases generatePrologue_state generates with ⟨equal, encodes⟩
    rw [equal] at apart within
    have ownSlots : forall register, register ∈ manager.savedRegisters ->
        registerName register ∉ manager.localDeclarations.map Prod.fst :=
      fun register isSaved isLocal => shared_slot prepared isSaved isLocal names apart
    refine ⟨ownSlots, encodes, ?_⟩
    have saved := saved_placed prepared ownSlots
    rw [parts.1, parts.2.1] at within
    -- each part that is inside reaches the start of the next one
    have first := fixed.2.2 manager.frameSize fun region member =>
      (within region (by simp [member])).2
    have second : manager.localsStart + (manager.localDeclarations.map Prod.snd).sum <=
        manager.frameSize :=
      place_reaches first fun region member =>
        (within region (List.mem_append_left _ (List.mem_append_left _
          (List.mem_append_right _ member)))).2
    rw [<- prepared.total] at second
    have third : manager.localsStart + manager.localsTotalSize +
        (savedSizes manager.savedRegisters).sum <= manager.frameSize := by
      refine place_reaches second fun region member => ?_
      rw [<- saved.2.1] at member
      exact (within region (List.mem_append_left _ (List.mem_append_right _ member))).2
    rw [savedSizes_sum] at third
    have base : manager.assignOffsets.2 <= manager.frameSize := by
      rw [saved.1]
      exact third
    have last := spilled.2.2 manager.frameSize base fun region member =>
      (within region (List.mem_append_right _ member)).2
    rw [bytes, saved.1] at last
    exact last
  · intro fits
    have saved := saved_placed prepared fits.ownSlots
    have spillsNonneg : 0 <= manager.spillBytes names := by
      refine Finset.sum_nonneg fun name _ => ?_
      have sizes := sizeForType_eq ((manager.variableTypes.lookup name).getD .unknown)
      change manager.spillSlotSize name = 8 ∨ manager.spillSlotSize name = 16 at sizes
      omega
    have contains : manager.contentSize <= manager.frameSize := by
      have := fits.spills
      omega
    rcases generatePrologue_succeeds prepared fits.ownSlots fits.encodes contains with
      ⟨code, generates⟩
    refine ⟨code, _, generates, ?_⟩
    have localsWithin := place_within locals manager.localsStart
    rw [<- prepared.total] at localsWithin
    have savedPositive : AllPositive (savedSizes manager.savedRegisters) := by
      intro size member
      rcases List.mem_map.mp member with ⟨_, _, equal⟩
      omega
    have savedWithin : forall region,
        region ∈ place (manager.localsStart + manager.localsTotalSize)
          (savedSizes manager.savedRegisters) ->
        Region.Within (manager.localsStart + manager.localsTotalSize)
          manager.contentSize region := by
      have placed := place_within savedPositive
        (manager.localsStart + manager.localsTotalSize)
      rw [savedSizes_sum] at placed
      exact placed
    have spillsWithin := spilled.2.1
    rw [bytes, saved.1] at spillsWithin
    have localsNonneg := locals.sum_nonneg
    rw [<- prepared.total] at localsNonneg
    have savedNonneg : (0 : Int) <= manager.savedRegisters.length * 8 := by omega
    have contentEqual : manager.contentSize = manager.localsStart +
      manager.localsTotalSize + manager.savedRegisters.length * 8 := rfl
    have startNonneg : 0 <= manager.localsStart := by
      unfold localsStart canarySpace canarySize
      split <;> simp
    have spillsFit := fits.spills
    rw [parts.1, parts.2.1, saved.2.1]
    constructor
    · refine List.pairwise_append.mpr ⟨List.pairwise_append.mpr
        ⟨List.pairwise_append.mpr ⟨fixed.1, place_apart locals _, ?_⟩,
          place_apart savedPositive _, ?_⟩, spilled.1, ?_⟩
      · intro first isFirst second isSecond
        exact (fixed.2.1 first isFirst).apart (localsWithin second isSecond)
      · intro first isFirst second isSecond
        refine @Region.Within.apart 0 _ _ _ _ ?_ (savedWithin second isSecond)
        rcases List.mem_append.mp isFirst with isFixed | isLocal
        · exact (fixed.2.1 first isFixed).mono (by omega) (by omega)
        · exact (localsWithin first isLocal).mono (by omega) (by omega)
      · intro first isFirst second isSecond
        refine @Region.Within.apart 0 _ _ _ _ ?_ (spillsWithin second isSecond)
        rcases List.mem_append.mp isFirst with isOld | isSaved
        · rcases List.mem_append.mp isOld with isFixed | isLocal
          · exact (fixed.2.1 first isFixed).mono (by omega) (by omega)
          · exact (localsWithin first isLocal).mono (by omega) (by omega)
        · exact (savedWithin first isSaved).mono (by omega) (by omega)
    · intro region member
      rcases List.mem_append.mp member with isOld | isSpill
      · rcases List.mem_append.mp isOld with isOlder | isSaved
        · rcases List.mem_append.mp isOlder with isFixed | isLocal
          · exact (fixed.2.1 region isFixed).mono (by omega) (by omega)
          · exact (localsWithin region isLocal).mono (by omega) (by omega)
        · exact (savedWithin region isSaved).mono (by omega) (by omega)
      · exact (spillsWithin region isSpill).mono (by omega) (by omega)

end Prologues

/-- The contents of every frame, after any operations and any spill slots, are
disjoint and inside it, and its prologue is generated, exactly when they fit. The
offsets that were handed out never change. -/
theorem frameSound_iff_frameFits (canariesEnabled useExtendedPool usesGlobalPointers : Bool)
    (operations : List Operation) (names : List String) :
    FrameSound (create canariesEnabled useExtendedPool usesGlobalPointers) operations
        names <->
      exists prepared : CallFrameManager,
        (create canariesEnabled useExtendedPool usesGlobalPointers).performAll operations =
          some prepared ∧ FrameFits prepared names := by
  have created := create_prepared canariesEnabled useExtendedPool usesGlobalPointers
  rcases performAll_prepared created operations with ⟨manager, performs, prepared, _⟩
  have sound := layout_sound_iff prepared names
  constructor
  · rintro ⟨other, code, generated, otherPerforms, generates, apart, within, _⟩
    rw [performs, Option.some.injEq] at otherPerforms
    rw [<- otherPerforms] at generates
    exact ⟨manager, performs, sound.mp ⟨code, generated, generates, apart, within⟩⟩
  · rintro ⟨other, otherPerforms, fits⟩
    rw [performs, Option.some.injEq] at otherPerforms
    rw [<- otherPerforms] at fits
    rcases sound.mpr fits with ⟨code, generated, generates, apart, within⟩
    refine ⟨manager, code, generated, performs, generates, apart, within, ?_⟩
    intro early before after split earlyPerforms
    rcases performAll_prepared created before with ⟨earlier, performsEarlier,
      earlyPrepared, _⟩
    rw [earlyPerforms, Option.some.injEq] at performsEarlier
    rw [<- performsEarlier] at earlyPrepared
    rcases performAll_prepared earlyPrepared after with ⟨last, performsLast, _, keeps⟩
    have same : some last = some manager := by
      rw [<- performs, <- performsLast, split]
      unfold performAll at earlyPerforms ⊢
      rw [List.foldlM_append, earlyPerforms]
      rfl
    cases same
    rw [(generatePrologue_state generates).1, (spilled_parts prepared names).2.2.1]
    exact keeps.trans (assignOffsets_keeps prepared)

/-- The locals of a function with a given number of integer variables. -/
def integerLocals (count : Nat) : List Operation :=
  (List.range count).map fun index => .addLocal ("v" ++ toString index) .integer

/-- A spill slot that was not preallocated lies outside the frame, 63 locals make a
frame that the first instruction cannot encode, and a variable with the name of a
saved register shares its slot. -/
theorem frame_unsound :
    ¬ FrameSound (create false false false) [] ["x"] ∧
      ¬ FrameSound (create false false false) (integerLocals 63) [] ∧
      ¬ FrameSound (create false false false)
        [.addLocal "X20" .integer, .forceSaveRegister 20] [] := by
  have created := create_prepared false false false
  have unfit {operations : List Operation} {names : List String}
      (bad : forall prepared : CallFrameManager,
        (create false false false).performAll operations = some prepared ->
        ¬ FrameFits prepared names) :
      ¬ FrameSound (create false false false) operations names := by
    rintro ⟨prepared, code, generated, performs, generates, apart, within, _⟩
    rcases performAll_prepared created operations with ⟨other, otherPerforms, isPrepared, _⟩
    rw [performs, Option.some.injEq] at otherPerforms
    rw [<- otherPerforms] at isPrepared
    exact bad prepared performs ((layout_sound_iff isPrepared names).mp
      ⟨code, generated, generates, apart, within⟩)
  refine ⟨unfit ?_, unfit ?_, unfit ?_⟩
  · intro prepared performs fits
    cases performs
    exact absurd fits.spills (by decide)
  · intro prepared performs fits
    have size : ((create false false false).performAll (integerLocals 63)).map frameSize =
        some 528 := by decide +kernel
    rw [performs, Option.map_some, Option.some.injEq] at size
    have encodes := fits.encodes
    omega
  · intro prepared performs fits
    have shared : ((create false false false).performAll
        [.addLocal "X20" .integer, .forceSaveRegister 20]).map (fun manager =>
          (manager.savedRegisters, manager.localDeclarations)) =
        some ([20], [("X20", 8)]) := by decide +kernel
    rw [performs, Option.map_some, Option.some.injEq, Prod.mk.injEq] at shared
    have own := fits.ownSlots 20
    rw [shared.1, shared.2] at own
    exact own (by decide) (by decide)

end CallFrameManager
end Codegen
end NewBcpl
