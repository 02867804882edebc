import NewBcpl.Codegen.RegisterManager

namespace NewBcpl
namespace Codegen

open ManagedRegister
open RegisterManager

/-!
# Who holds which register

A run is a sequence of acquisitions and releases. Beside the manager it records who
holds each register: whoever acquired it last and has not released it since. The
invariant says that the manager's four structures agree and that they respect the
holders. What a step may do wrong is named by a condition on the state before it.
-/

/-- The acquisitions. -/
inductive Acquire where
  | regForVariable (name : String)
  | scratchReg
  | spillableTempReg
  | calleeSavedTempReg
  | fpRegForVariable (name : String)
  | fpScratchReg
  | spillableFpTempReg
  | vecScratchReg
  | vecVariableReg (name : String)
  deriving DecidableEq, Repr

/-- The releases, and the setting of a dirty flag. -/
inductive Release where
  | regForVariable (name : String)
  | scratchReg (register : ManagedRegister)
  | anyReg (register : ManagedRegister)
  | calleeSavedTempReg (register : ManagedRegister)
  | fpRegister (register : ManagedRegister)
  | vecScratchReg (register : ManagedRegister)
  | resetCallerSavedRegisters
  | invalidateCallerSavedRegisters
  | markDirty (register : ManagedRegister) (isDirty : Bool)
  deriving DecidableEq, Repr

/-- Whoever has acquired a register: a variable, or some computation. -/
inductive Holder where
  | variable (name : String)
  | temporary
  deriving DecidableEq, Repr

namespace Acquire

/-- The holder for whom a register is acquired. -/
def holder : Acquire -> Holder
  | regForVariable name | fpRegForVariable name | vecVariableReg name => .variable name
  | _ => .temporary

/-- The function of the manager. -/
def perform : Acquire -> RegisterManager -> Except AcquireFailure Acquisition
  | regForVariable name, manager => manager.acquireRegForVariable name
  | scratchReg, manager => manager.acquireScratchReg
  | spillableTempReg, manager => manager.acquireSpillableTempReg
  | calleeSavedTempReg, manager => manager.acquireCalleeSavedTempReg
  | fpRegForVariable name, manager => manager.acquireFpRegForVariable name
  | fpScratchReg, manager => manager.acquireFpScratchReg
  | spillableFpTempReg, manager => manager.acquireSpillableFpTempReg
  | vecScratchReg, manager => manager.acquireVecScratchReg
  | vecVariableReg name, manager => manager.acquireVecVariableReg name

end Acquire

namespace Release

/-- The function of the manager. -/
def perform : Release -> RegisterManager -> RegisterManager
  | regForVariable name, manager => manager.releaseRegForVariable name
  | scratchReg register, manager => manager.releaseScratchReg register
  | anyReg register, manager => manager.releaseRegister register
  | calleeSavedTempReg register, manager => manager.releaseUnchecked register
  | fpRegister register, manager => manager.releaseUnchecked register
  | vecScratchReg register, manager => manager.releaseScratchReg register
  | resetCallerSavedRegisters, manager => manager.resetCallerSavedRegisters
  | invalidateCallerSavedRegisters, manager => manager.invalidateCallerSavedRegisters
  | markDirty register isDirty, manager => manager.markDirty register isDirty

/-- The registers whose holders release them. -/
def released : Release -> RegisterManager -> List ManagedRegister
  | regForVariable name, manager => (manager.variableToReg name).toList
  | scratchReg register, _ | anyReg register, _ | calleeSavedTempReg register, _
  | fpRegister register, _ | vecScratchReg register, _ => [register]
  | resetCallerSavedRegisters, _ => scratchRegs
  | invalidateCallerSavedRegisters, _ => callerSavedRegs
  | markDirty _ _, _ => []

end Release

/-- A manager with the holders of the registers. -/
structure Tracked where
  manager : RegisterManager
  holders : ManagedRegister -> Option Holder

namespace Tracked

/-- The start: `reset_for_new_function`, and nobody holds a register. -/
def start : Tracked :=
  { manager := resetForNewFunction, holders := fun _ => none }

/-- The state after a successful acquisition. -/
def acquired (tracked : Tracked) (acquire : Acquire) (acquisition : Acquisition) : Tracked :=
  { manager := acquisition.manager
    holders := fun register =>
      if register = acquisition.register then some acquire.holder
      else tracked.holders register }

/-- The state after a release. -/
def afterRelease (tracked : Tracked) (release : Release) : Tracked :=
  { manager := release.perform tracked.manager
    holders := fun register =>
      if register ∈ release.released tracked.manager then none
      else tracked.holders register }

/-- The register is acquired by another holder and not released. -/
def HeldByAnother (tracked : Tracked) (acquire : Acquire) (register : ManagedRegister) :
    Prop :=
  exists holder, tracked.holders register = some holder ∧
    (holder = .temporary ∨ holder ≠ acquire.holder)

/-- An acquisition reads no empty list, and does not take a register from another
holder without storing it first. -/
def AcquireSound (tracked : Tracked) (acquire : Acquire) : Prop :=
  acquire.perform tracked.manager ≠ .error .emptyList ∧
    forall acquisition, acquire.perform tracked.manager = .ok acquisition ->
      tracked.HeldByAnother acquire acquisition.register ->
      acquisition.register ∈ acquisition.spills.map Prod.fst

/-- The map of variables is injective and agrees with the information of the
registers, and the list holds exactly the variable registers in use. -/
structure StateSound (manager : RegisterManager) : Prop where
  injective : forall first second register, manager.variableToReg first = some register ->
    manager.variableToReg second = some register -> first = second
  agrees : forall name register, manager.variableToReg name = some register ->
    (manager.registers register).boundTo = name
  orderNodup : manager.variableRegLruOrder.Nodup
  orderExact : forall register, register ∈ manager.variableRegLruOrder <->
    register ∈ variableRegs ∧ manager.status register = .inUseVariable

/-- The variable register that would be evicted is dirty, or nobody holds it. -/
def CanEvict (tracked : Tracked) : Prop :=
  forall victim, tracked.manager.variableRegLruOrder.getLast? = some victim ->
    (tracked.manager.registers victim).dirty = true ∨ tracked.holders victim = none

/-- A variable register is free. -/
def HasFree (tracked : Tracked) (pool : List ManagedRegister) : Prop :=
  exists register, register ∈ pool ∧ tracked.manager.status register = .free

/-- The condition on the state before an acquisition: where no register is free, the
one that is evicted has been released or will be stored; a floating-point variable
that has a register has not released it. -/
def AcquireAllowed (tracked : Tracked) : Acquire -> Prop
  | .regForVariable name =>
      tracked.manager.variableToReg name ≠ none ∨ tracked.HasFree variableRegs ∨
        (tracked.manager.variableRegLruOrder ≠ [] ∧ tracked.CanEvict)
  | .spillableTempReg =>
      tracked.HasFree variableRegs ∨
        (tracked.manager.variableRegLruOrder ≠ [] ∧ tracked.CanEvict)
  | .scratchReg =>
      tracked.HasFree scratchRegs ∨ tracked.HasFree variableRegs ∨ tracked.CanEvict
  | .fpRegForVariable name =>
      forall register, tracked.manager.fpVariableToReg name = some register ->
        tracked.manager.status register ≠ .free ∧
          (tracked.holders register = none ∨
            tracked.holders register = some (.variable name))
  | .vecVariableReg name =>
      tracked.manager.vecVariableToReg name ≠ none ∨ tracked.HasFree vecVariableRegs ∨
        (tracked.manager.vecVariableRegLruOrder ≠ [] ∧
          forall victimVar victim,
            tracked.manager.vecVariableRegLruOrder.getLast? = some victimVar ->
            tracked.manager.vecVariableToReg victimVar = some victim ->
            tracked.holders victim = none)
  | _ => True

/-- The condition on the state before a release: the two releases that do not look at
the status are not given a register of a variable. -/
def ReleaseAllowed (tracked : Tracked) : Release -> Prop
  | .calleeSavedTempReg register | .fpRegister register =>
      register ∈ variableRegs ++ vecVariableRegs ->
        tracked.manager.status register ≠ .inUseVariable
  | _ => True

/-- One operation of a run. -/
inductive Step where
  | acquire (acquire : Acquire)
  | release (release : Release)
  deriving DecidableEq, Repr

/-- The state after an operation; there is none if an acquisition fails. -/
def after (tracked : Tracked) : Step -> Option Tracked
  | .acquire acquire =>
      match acquire.perform tracked.manager with
      | .ok acquisition => some (tracked.acquired acquire acquisition)
      | .error _ => none
  | .release release => some (tracked.afterRelease release)

/-- The condition on the state before an operation. -/
def Allowed (tracked : Tracked) : Step -> Prop
  | .acquire acquire => tracked.AcquireAllowed acquire
  | .release release => tracked.ReleaseAllowed release

/-- The states of the runs whose operations all meet a condition. -/
inductive Reachable (condition : Tracked -> Step -> Prop) : Tracked -> Prop where
  | start : Reachable condition start
  | step {tracked next : Tracked} {step : Step} :
      Reachable condition tracked -> condition tracked step ->
        tracked.after step = some next -> Reachable condition next

end Tracked

namespace RegisterManager

/-- The four structures agree. -/
structure Consistent (manager : RegisterManager) : Prop where
  mapped : forall name register, manager.variableToReg name = some register ->
    register ∈ variableRegs ∧ manager.status register = .inUseVariable ∧
      (manager.registers register).boundTo = name
  orderNodup : manager.variableRegLruOrder.Nodup
  orderExact : forall register, register ∈ manager.variableRegLruOrder <->
    register ∈ variableRegs ∧ manager.status register = .inUseVariable
  vecMapped : forall name register, manager.vecVariableToReg name = some register ->
    register ∈ vecVariableRegs ∧ manager.status register = .inUseVariable
  vecInjective : forall first second register,
    manager.vecVariableToReg first = some register ->
    manager.vecVariableToReg second = some register -> first = second
  fpMapped : forall name register, manager.fpVariableToReg name = some register ->
    register ∈ fpVariableRegs

/-- They agree but for one variable register, which is about to get a new holder. -/
structure Vacated (manager : RegisterManager) (vacant : ManagedRegister) : Prop where
  pool : vacant ∈ variableRegs
  mapped : forall name register, manager.variableToReg name = some register ->
    register ≠ vacant ∧ register ∈ variableRegs ∧
      manager.status register = .inUseVariable ∧
      (manager.registers register).boundTo = name
  orderNodup : manager.variableRegLruOrder.Nodup
  orderExact : forall register, register ∈ manager.variableRegLruOrder <->
    register ≠ vacant ∧ register ∈ variableRegs ∧
      manager.status register = .inUseVariable
  vecMapped : forall name register, manager.vecVariableToReg name = some register ->
    register ∈ vecVariableRegs ∧ manager.status register = .inUseVariable
  vecInjective : forall first second register,
    manager.vecVariableToReg first = some register ->
    manager.vecVariableToReg second = some register -> first = second
  fpMapped : forall name register, manager.fpVariableToReg name = some register ->
    register ∈ fpVariableRegs

theorem Consistent.stateSound {manager : RegisterManager} (consistent : manager.Consistent) :
    Tracked.StateSound manager := by
  refine ⟨fun first second register isFirst isSecond => ?_, fun name register isMapped =>
    (consistent.mapped name register isMapped).2.2, consistent.orderNodup,
    consistent.orderExact⟩
  rw [<- (consistent.mapped first register isFirst).2.2]
  exact (consistent.mapped second register isSecond).2.2

section Information

variable {manager : RegisterManager}

theorem status_setInfo_same (register : ManagedRegister) (info : RegisterInfo) :
    (manager.setInfo register info).status register = info.status := by
  simp [status, setInfo]

theorem status_setInfo_other {register other : ManagedRegister} (info : RegisterInfo)
    (different : other ≠ register) :
    (manager.setInfo register info).status other = manager.status other := by
  simp [status, setInfo, different]

theorem registers_setInfo_other {register other : ManagedRegister} (info : RegisterInfo)
    (different : other ≠ register) :
    (manager.setInfo register info).registers other = manager.registers other := by
  simp [setInfo, different]

theorem findFreeRegister_some {pool : List ManagedRegister} {register : ManagedRegister}
    (found : manager.findFreeRegister pool = some register) :
    register ∈ pool ∧ manager.status register = .free := by
  unfold findFreeRegister at found
  exact ⟨List.mem_of_find?_eq_some found, by simpa using List.find?_some found⟩

theorem findFreeRegister_none {pool : List ManagedRegister}
    (none_ : manager.findFreeRegister pool = none) {register : ManagedRegister}
    (member : register ∈ pool) : manager.status register ≠ .free := by
  unfold findFreeRegister at none_
  simpa using List.find?_eq_none.mp none_ register member

end Information

/-- No register is in two of the pools that the invariant is about. -/
theorem variable_not_vec {register : ManagedRegister} (member : register ∈ variableRegs) :
    register ∉ vecVariableRegs := by
  intro isVec
  revert isVec
  revert register
  decide

namespace Consistent

variable {manager : RegisterManager} (consistent : manager.Consistent)

include consistent

/-- A change to a register that no variable has. -/
theorem setInfo_unused {register : ManagedRegister} (info : RegisterInfo)
    (unused : register ∈ variableRegs ++ vecVariableRegs ->
      manager.status register ≠ .inUseVariable ∧ info.status ≠ .inUseVariable) :
    (manager.setInfo register info).Consistent := by
  have other {used : ManagedRegister} (isUsed : used ∈ variableRegs ++ vecVariableRegs)
      (inUse : manager.status used = .inUseVariable) : used ≠ register := by
    intro same
    rw [same] at isUsed inUse
    exact (unused isUsed).1 inUse
  constructor
  · intro name mappedTo isMapped
    rcases consistent.mapped name mappedTo isMapped with ⟨inPool, inUse, bound⟩
    have different := other (List.mem_append_left _ inPool) inUse
    rw [status_setInfo_other info different, registers_setInfo_other info different]
    exact ⟨inPool, inUse, bound⟩
  · exact consistent.orderNodup
  · intro listed
    refine (consistent.orderExact listed).trans ?_
    by_cases same : listed = register
    · rw [same, status_setInfo_same]
      constructor
      · rintro ⟨inPool, inUse⟩
        exact absurd inUse (unused (List.mem_append_left _ inPool)).1
      · rintro ⟨inPool, inUse⟩
        exact absurd inUse (unused (List.mem_append_left _ inPool)).2
    · rw [status_setInfo_other info same]
  · intro name mappedTo isMapped
    rcases consistent.vecMapped name mappedTo isMapped with ⟨inPool, inUse⟩
    rw [status_setInfo_other info (other (List.mem_append_right _ inPool) inUse)]
    exact ⟨inPool, inUse⟩
  · exact consistent.vecInjective
  · exact consistent.fpMapped

/-- Changes to the floating-point lists. -/
theorem of_fp {other : RegisterManager} (registers : other.registers = manager.registers)
    (maps : other.variableToReg = manager.variableToReg)
    (order : other.variableRegLruOrder = manager.variableRegLruOrder)
    (vecs : other.vecVariableToReg = manager.vecVariableToReg)
    (fps : forall name register, other.fpVariableToReg name = some register ->
      register ∈ fpVariableRegs) : other.Consistent := by
  have statuses : other.status = manager.status := by
    funext register
    unfold status
    rw [registers]
  constructor
  · rw [maps, statuses, registers]
    exact consistent.mapped
  · rw [order]
    exact consistent.orderNodup
  · rw [order, statuses]
    exact consistent.orderExact
  · rw [vecs, statuses]
    exact consistent.vecMapped
  · rw [vecs]
    exact consistent.vecInjective
  · exact fps

/-- A free variable register is vacant. -/
theorem vacated_free {register : ManagedRegister} (pool : register ∈ variableRegs)
    (free : manager.status register = .free) : manager.Vacated register := by
  have other {used : ManagedRegister} (inUse : manager.status used = .inUseVariable) :
      used ≠ register := by
    intro same
    rw [same, free] at inUse
    cases inUse
  refine ⟨pool, fun name mappedTo isMapped => ?_, consistent.orderNodup, fun listed => ?_,
    consistent.vecMapped, consistent.vecInjective, consistent.fpMapped⟩
  · have facts := consistent.mapped name mappedTo isMapped
    exact ⟨other facts.2.1, facts⟩
  · rw [consistent.orderExact]
    exact ⟨fun facts => ⟨other facts.2, facts⟩, fun facts => facts.2⟩

/-- The register that is evicted is vacant afterwards. -/
theorem vacated_evicted {victim : ManagedRegister}
    {spills : List (ManagedRegister × String)} {evicted : RegisterManager}
    (evicts : manager.evictLeastRecentlyUsed = some (victim, spills, evicted)) :
    evicted.Vacated victim ∧ evicted.registers = manager.registers ∧
      manager.variableRegLruOrder.getLast? = some victim ∧
      (spills = if (manager.registers victim).dirty then
        [(victim, (manager.registers victim).boundTo)] else []) ∧
      (forall name register, evicted.variableToReg name = some register ->
        manager.variableToReg name = some register) ∧
      evicted.vecVariableToReg = manager.vecVariableToReg := by
  rcases Option.map_eq_some_iff.mp evicts with ⟨last, isLast, equal⟩
  simp only [Prod.mk.injEq] at equal
  rcases equal with ⟨isVictim, isSpills, isEvicted⟩
  rw [isVictim] at isLast isSpills isEvicted
  have order : manager.variableRegLruOrder =
      manager.variableRegLruOrder.dropLast ++ [victim] := by
    rcases List.getLast?_eq_some_iff.mp isLast with ⟨front, isFront⟩
    rw [isFront, List.dropLast_concat]
  have nodup := consistent.orderNodup
  rw [order, List.nodup_append] at nodup
  have absent : victim ∉ manager.variableRegLruOrder.dropLast := fun member =>
    nodup.2.2 victim member victim (List.mem_singleton_self victim) rfl
  have victimFacts := (consistent.orderExact victim).mp (List.mem_of_getLast? isLast)
  have kept (name : String) (register : ManagedRegister)
      (isMapped : evicted.variableToReg name = some register) :
      manager.variableToReg name = some register ∧
        name ≠ (manager.registers victim).boundTo := by
    rw [<- isEvicted] at isMapped
    simp only [eraseVariable] at isMapped
    split at isMapped
    · cases isMapped
    · rename_i different
      exact ⟨isMapped, different⟩
  refine ⟨⟨victimFacts.1, ?_, ?_, ?_, ?_, ?_, ?_⟩, by rw [<- isEvicted]; rfl, isLast,
    isSpills.symm, fun name register isMapped => (kept name register isMapped).1,
    by rw [<- isEvicted]; rfl⟩
  · intro name register isMapped
    rcases kept name register isMapped with ⟨wasMapped, different⟩
    have facts := consistent.mapped name register wasMapped
    rw [<- isEvicted]
    refine ⟨?_, facts⟩
    intro same
    rw [same] at facts
    exact different facts.2.2.symm
  · rw [<- isEvicted]
    exact nodup.1
  · intro register
    rw [<- isEvicted]
    change register ∈ manager.variableRegLruOrder.dropLast <-> _
    have exact_ := consistent.orderExact register
    rw [order, List.mem_append, List.mem_singleton] at exact_
    constructor
    · intro member
      exact ⟨fun same => absent (same ▸ member), exact_.mp (Or.inl member)⟩
    · rintro ⟨different, facts⟩
      exact (exact_.mpr facts).resolve_right different
  · rw [<- isEvicted]
    exact consistent.vecMapped
  · rw [<- isEvicted]
    exact consistent.vecInjective
  · rw [<- isEvicted]
    exact consistent.fpMapped

end Consistent

namespace Vacated

variable {manager : RegisterManager} {vacant : ManagedRegister}
  (vacated : manager.Vacated vacant)

include vacated

theorem vec_other {name : String} {register : ManagedRegister}
    (isMapped : manager.vecVariableToReg name = some register) : register ≠ vacant := by
  intro same
  have pool := (vacated.vecMapped name register isMapped).1
  rw [same] at pool
  exact variable_not_vec vacated.pool pool

/-- The vacant register becomes a scratch register. -/
theorem scratch {info : RegisterInfo} (notVariable : info.status ≠ .inUseVariable) :
    (manager.setInfo vacant info).Consistent := by
  constructor
  · intro name register isMapped
    rcases vacated.mapped name register isMapped with ⟨different, inPool, inUse, bound⟩
    rw [status_setInfo_other info different, registers_setInfo_other info different]
    exact ⟨inPool, inUse, bound⟩
  · exact vacated.orderNodup
  · intro register
    refine (vacated.orderExact register).trans ?_
    by_cases same : register = vacant
    · rw [same, status_setInfo_same]
      exact ⟨fun facts => absurd rfl facts.1, fun facts => absurd facts.2 notVariable⟩
    · rw [status_setInfo_other info same]
      exact ⟨fun facts => facts.2, fun facts => ⟨same, facts⟩⟩
  · intro name register isMapped
    rw [status_setInfo_other info (vacated.vec_other isMapped)]
    exact vacated.vecMapped name register isMapped
  · exact vacated.vecInjective
  · exact vacated.fpMapped

/-- The vacant register is used again and comes to the front of the list. -/
theorem use {info : RegisterInfo} (isVariable : info.status = .inUseVariable) :
    ((manager.setInfo vacant info).pushFront vacant).Consistent := by
  constructor
  · intro name register isMapped
    rcases vacated.mapped name register isMapped with ⟨different, inPool, inUse, bound⟩
    refine ⟨inPool, ?_, ?_⟩
    · exact (status_setInfo_other info different).trans inUse
    · exact (congrArg RegisterInfo.boundTo (registers_setInfo_other info different)).trans
        bound
  · refine List.nodup_cons.mpr ⟨fun member => ?_, vacated.orderNodup⟩
    exact ((vacated.orderExact vacant).mp member).1 rfl
  · intro register
    change register ∈ vacant :: manager.variableRegLruOrder <->
      register ∈ variableRegs ∧ (manager.setInfo vacant info).status register = _
    rw [List.mem_cons, vacated.orderExact]
    by_cases same : register = vacant
    · rw [same, status_setInfo_same]
      exact ⟨fun _ => ⟨vacated.pool, isVariable⟩, fun _ => Or.inl rfl⟩
    · rw [status_setInfo_other info same]
      exact ⟨fun facts => (facts.resolve_left same).2, fun facts => Or.inr ⟨same, facts⟩⟩
  · intro name register isMapped
    have different := vacated.vec_other isMapped
    exact ⟨(vacated.vecMapped name register isMapped).1,
      (status_setInfo_other info different).trans
        (vacated.vecMapped name register isMapped).2⟩
  · exact vacated.vecInjective
  · exact vacated.fpMapped

/-- The vacant register is given to a variable. -/
theorem give (name : String) :
    (((manager.setInfo vacant { status := .inUseVariable, boundTo := name, dirty := false
      }).mapVariable name vacant).pushFront vacant).Consistent := by
  have used := @use _ _ vacated { status := .inUseVariable, boundTo := name, dirty := false }
    rfl
  refine ⟨fun other register isMapped => ?_, used.orderNodup, used.orderExact,
    used.vecMapped, used.vecInjective, used.fpMapped⟩
  simp only [pushFront, mapVariable] at isMapped
  split at isMapped
  · rename_i same
    cases isMapped
    refine ⟨vacated.pool, ?_, ?_⟩
    · exact status_setInfo_same vacant _
    · simp [pushFront, mapVariable, setInfo, same]
  · exact used.mapped other register isMapped

end Vacated

/-- What an acquisition does to the manager: it changes only the register it gives. -/
structure Taken (manager : RegisterManager) (holder : Holder) (acquisition : Acquisition) :
    Prop where
  consistent : acquisition.manager.Consistent
  others : forall register, register ≠ acquisition.register ->
    acquisition.manager.status register = manager.status register
  inUse : acquisition.manager.status acquisition.register ≠ .free
  mapped : forall name register, acquisition.manager.variableToReg name = some register ->
    (register = acquisition.register ∧ holder = .variable name) ∨
      (register ≠ acquisition.register ∧ manager.variableToReg name = some register)
  vecMapped : forall name register,
    acquisition.manager.vecVariableToReg name = some register ->
    (register = acquisition.register ∧ holder = .variable name) ∨
      (register ≠ acquisition.register ∧ manager.vecVariableToReg name = some register)

namespace Consistent

variable {manager : RegisterManager} (consistent : manager.Consistent)

include consistent

/-- A variable with a register is the one that the information names. -/
theorem mapped_unique {name other : String} {register : ManagedRegister}
    (isMapped : manager.variableToReg name = some register)
    (isOther : manager.variableToReg other = some register) : other = name :=
  consistent.stateSound.injective other name register isOther isMapped

/-- A register that is given from a pool without variables. -/
theorem taken_unused {register : ManagedRegister} {info : RegisterInfo} {holder : Holder}
    (outside : register ∉ variableRegs ++ vecVariableRegs)
    (spills : List (ManagedRegister × String)) (inUse : info.status ≠ .free) :
    manager.Taken holder
      { register := register, spills := spills, manager := manager.setInfo register info } := by
  have unused := consistent.setInfo_unused info fun member => absurd member outside
  refine ⟨unused, fun other different => status_setInfo_other info different, ?_, ?_, ?_⟩
  · rw [status_setInfo_same]
    exact inUse
  · intro name mappedTo isMapped
    refine Or.inr ⟨?_, isMapped⟩
    intro same
    change mappedTo = register at same
    have inPool := (consistent.mapped name mappedTo isMapped).1
    rw [same] at inPool
    exact outside (List.mem_append_left _ inPool)
  · intro name mappedTo isMapped
    refine Or.inr ⟨?_, isMapped⟩
    intro same
    change mappedTo = register at same
    have inPool := (consistent.vecMapped name mappedTo isMapped).1
    rw [same] at inPool
    exact outside (List.mem_append_right _ inPool)

end Consistent

/-- Whatever is stored beside the registers and the maps of general and vector
registers does not matter. -/
theorem Taken.of_same {manager : RegisterManager} {holder : Holder}
    {acquisition : Acquisition} (taken : manager.Taken holder acquisition)
    {other : RegisterManager} (consistent : other.Consistent)
    (registers : other.registers = acquisition.manager.registers)
    (maps : other.variableToReg = acquisition.manager.variableToReg)
    (vecs : other.vecVariableToReg = acquisition.manager.vecVariableToReg) :
    manager.Taken holder { acquisition with manager := other } := by
  have statuses : other.status = acquisition.manager.status := by
    funext register
    unfold status
    rw [registers]
  refine ⟨consistent, ?_, ?_, ?_, ?_⟩
  · intro register different
    change other.status register = _
    rw [statuses]
    exact taken.others register different
  · change other.status acquisition.register ≠ _
    rw [statuses]
    exact taken.inUse
  · change forall name register, other.variableToReg name = some register -> _
    rw [maps]
    exact taken.mapped
  · change forall name register, other.vecVariableToReg name = some register -> _
    rw [vecs]
    exact taken.vecMapped

namespace Vacated

variable {manager before : RegisterManager} {vacant : ManagedRegister}
  (vacated : manager.Vacated vacant)
  (registers : manager.registers = before.registers)
  (kept : forall name register, manager.variableToReg name = some register ->
    before.variableToReg name = some register)
  (vecs : manager.vecVariableToReg = before.vecVariableToReg)

include vacated registers kept vecs

/-- The common part of the acquisitions that take a variable register. -/
theorem taken {holder : Holder} {after : RegisterManager} {info : RegisterInfo}
    (spills : List (ManagedRegister × String)) (consistent : after.Consistent)
    (afterRegisters : after.registers = (manager.setInfo vacant info).registers)
    (inUse : info.status ≠ .free)
    (maps : forall name register, after.variableToReg name = some register ->
      (register = vacant ∧ holder = .variable name) ∨
        manager.variableToReg name = some register)
    (afterVecs : after.vecVariableToReg = manager.vecVariableToReg) :
    before.Taken holder { register := vacant, spills := spills, manager := after } := by
  have statuses : after.status = (manager.setInfo vacant info).status := by
    funext register
    unfold status
    rw [afterRegisters]
  refine ⟨consistent, ?_, ?_, ?_, ?_⟩
  · intro register different
    change after.status register = _
    rw [statuses, status_setInfo_other info different]
    unfold status
    rw [registers]
  · change after.status vacant ≠ _
    rw [statuses, status_setInfo_same]
    exact inUse
  · intro name register isMapped
    rcases maps name register isMapped with new | old
    · exact Or.inl new
    · exact Or.inr ⟨(vacated.mapped name register old).1, kept name register old⟩
  · intro name register isMapped
    change after.vecVariableToReg name = some register at isMapped
    rw [afterVecs] at isMapped
    refine Or.inr ⟨vacated.vec_other isMapped, ?_⟩
    rw [<- vecs]
    exact isMapped

theorem taken_give (name : String) (spills : List (ManagedRegister × String)) :
    before.Taken (.variable name)
      { register := vacant, spills := spills,
        manager := ((manager.setInfo vacant
          { status := .inUseVariable, boundTo := name, dirty := false }).mapVariable name
            vacant).pushFront vacant } := by
  refine vacated.taken registers kept vecs spills (vacated.give name) rfl
    (fun equal => nomatch equal) ?_ rfl
  intro other register isMapped
  simp only [pushFront, mapVariable] at isMapped
  split at isMapped
  · rename_i same
    cases isMapped
    exact Or.inl ⟨rfl, by rw [same]⟩
  · exact Or.inr isMapped

theorem taken_use {holder : Holder} {info : RegisterInfo}
    (isVariable : info.status = .inUseVariable)
    (spills : List (ManagedRegister × String)) :
    before.Taken holder
      { register := vacant, spills := spills
        manager := (manager.setInfo vacant info).pushFront vacant } :=
  vacated.taken registers kept vecs spills (vacated.use isVariable) rfl
    (by rw [isVariable]; decide) (fun _ _ isMapped => Or.inr isMapped) rfl

theorem taken_scratch {holder : Holder} {info : RegisterInfo}
    (isScratch : info.status = .inUseScratch)
    (spills : List (ManagedRegister × String)) :
    before.Taken holder
      { register := vacant, spills := spills, manager := manager.setInfo vacant info } :=
  vacated.taken registers kept vecs spills (vacated.scratch (by rw [isScratch]; decide)) rfl
    (by rw [isScratch]; decide) (fun _ _ isMapped => Or.inr isMapped) rfl

end Vacated

end RegisterManager

end Codegen
end NewBcpl
