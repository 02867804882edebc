import NewBcpl.Codegen.RegisterHolders

namespace NewBcpl
namespace Codegen

open ManagedRegister
open RegisterManager

/-!
# Runs of the register manager

What one acquisition and one release preserve, and from it what every run preserves.
-/

/-- No floating-point register is a general or vector register. -/
theorem fp_outside {register : ManagedRegister}
    (member : register ∈ fpVariableRegs ++ fpScratchRegs) :
    register ∉ variableRegs ++ vecVariableRegs := by
  intro isVariable
  revert isVariable
  revert register
  decide

/-- No scratch register has a variable. -/
theorem scratch_outside {register : ManagedRegister}
    (member : register ∈ callerSavedRegs ++ scratchRegs ++ vecScratchRegs) :
    register ∉ variableRegs ++ vecVariableRegs := by
  intro isVariable
  revert isVariable
  revert register
  decide

namespace RegisterManager

/-- The floating-point map after a variable gets a register of the pool. -/
theorem fpMapped_map {manager : RegisterManager} {name : String} {register : ManagedRegister}
    (pool : register ∈ fpVariableRegs)
    (before : forall name mappedTo, manager.fpVariableToReg name = some mappedTo ->
      mappedTo ∈ fpVariableRegs) (variable_ : String) (mappedTo : ManagedRegister)
    (isMapped : (manager.mapFpVariable name register).fpVariableToReg variable_ =
      some mappedTo) : mappedTo ∈ fpVariableRegs := by
  simp only [mapFpVariable] at isMapped
  split at isMapped
  · cases isMapped
    exact pool
  · exact before variable_ mappedTo isMapped

namespace Consistent

variable {manager : RegisterManager} (consistent : manager.Consistent)

include consistent

/-! ## Acquisitions -/

/-- A variable that has a register gets it again, at the front of the list. -/
theorem taken_hit {name : String} {register : ManagedRegister}
    (isMapped : manager.variableToReg name = some register) :
    manager.Taken (.variable name)
      { register := register, spills := []
        manager := (manager.removeFromOrder register).pushFront register } := by
  have facts := consistent.mapped name register isMapped
  refine ⟨?_, fun _ _ => rfl, ?_, ?_, ?_⟩
  · refine ⟨consistent.mapped, ?_, ?_, consistent.vecMapped, consistent.vecInjective,
      consistent.fpMapped⟩
    · refine List.nodup_cons.mpr ⟨fun member => ?_, consistent.orderNodup.filter _⟩
      exact absurd rfl (of_decide_eq_true (List.mem_filter.mp member).2)
    · intro other
      change other ∈ register :: manager.variableRegLruOrder.filter (· ≠ register) <-> _
      rw [List.mem_cons, List.mem_filter, consistent.orderExact]
      constructor
      · rintro (same | ⟨member, _⟩)
        · rw [same]
          exact ⟨facts.1, facts.2.1⟩
        · exact member
      · intro member
        by_cases same : other = register
        · exact Or.inl same
        · exact Or.inr ⟨member, decide_eq_true same⟩
  · change manager.status register ≠ _
    rw [facts.2.1]
    decide
  · intro other mappedTo isOther
    by_cases same : mappedTo = register
    · change manager.variableToReg other = some mappedTo at isOther
      rw [same] at isOther
      exact Or.inl ⟨same, by rw [consistent.mapped_unique isMapped isOther]⟩
    · exact Or.inr ⟨same, isOther⟩
  · intro other mappedTo isOther
    refine Or.inr ⟨?_, isOther⟩
    intro same
    change mappedTo = register at same
    have inPool := (consistent.vecMapped other mappedTo isOther).1
    rw [same] at inPool
    exact variable_not_vec facts.1 inPool

theorem acquireRegForVariable_taken {name : String} {acquisition : Acquisition}
    (success : manager.acquireRegForVariable name = .ok acquisition) :
    manager.Taken (.variable name) acquisition := by
  unfold acquireRegForVariable at success
  split at success
  · rename_i register isMapped
    cases success
    exact consistent.taken_hit isMapped
  · split at success
    · rename_i register found
      cases success
      have facts := findFreeRegister_some found
      exact (consistent.vacated_free facts.1 facts.2).taken_give rfl (fun _ _ same => same)
        rfl name []
    · split at success
      · cases success
      · rename_i victim spills evicted evicts
        cases success
        have facts := consistent.vacated_evicted evicts
        exact facts.1.taken_give facts.2.1 facts.2.2.2.2.1 facts.2.2.2.2.2 name spills

theorem acquireSpillableTempReg_taken {acquisition : Acquisition}
    (success : manager.acquireSpillableTempReg = .ok acquisition) :
    manager.Taken .temporary acquisition := by
  unfold acquireSpillableTempReg at success
  split at success
  · rename_i register found
    cases success
    have facts := findFreeRegister_some found
    exact (consistent.vacated_free facts.1 facts.2).taken_use rfl (fun _ _ same => same)
      rfl rfl []
  · split at success
    · cases success
    · rename_i victim spills evicted evicts
      cases success
      have facts := consistent.vacated_evicted evicts
      exact facts.1.taken_use facts.2.1 facts.2.2.2.2.1 facts.2.2.2.2.2 rfl spills

theorem acquireScratchReg_taken {acquisition : Acquisition}
    (success : manager.acquireScratchReg = .ok acquisition) :
    manager.Taken .temporary acquisition := by
  unfold acquireScratchReg at success
  split at success
  · rename_i register found
    cases success
    have facts := findFreeRegister_some found
    refine consistent.taken_unused (scratch_outside ?_) [] (fun equal => nomatch equal)
    exact List.mem_append_left _ (List.mem_append_right _ facts.1)
  · split at success
    · rename_i register found
      cases success
      have facts := findFreeRegister_some found
      exact (consistent.vacated_free facts.1 facts.2).taken_scratch rfl
        (fun _ _ same => same) rfl rfl []
    · split at success
      · cases success
      · rename_i victim spills evicted evicts
        cases success
        have facts := consistent.vacated_evicted evicts
        exact facts.1.taken_scratch facts.2.1 facts.2.2.2.2.1 facts.2.2.2.2.2 rfl spills

theorem acquireCalleeSavedTempReg_taken {acquisition : Acquisition}
    (success : manager.acquireCalleeSavedTempReg = .ok acquisition) :
    manager.Taken .temporary acquisition := by
  unfold acquireCalleeSavedTempReg at success
  split at success
  · rename_i register found
    cases success
    have facts := findFreeRegister_some found
    exact (consistent.vacated_free facts.1 facts.2).taken_scratch rfl (fun _ _ same => same)
      rfl rfl []
  · cases success

/-- A floating-point register is given; only the floating-point lists change beside
its information. -/
theorem taken_fp {register : ManagedRegister} (info : RegisterInfo) {holder : Holder}
    {after : RegisterManager} (member : register ∈ fpVariableRegs ++ fpScratchRegs)
    (spills : List (ManagedRegister × String)) (inUse : info.status ≠ .free)
    (registers : after.registers = (manager.setInfo register info).registers)
    (maps : after.variableToReg = manager.variableToReg)
    (order : after.variableRegLruOrder = manager.variableRegLruOrder)
    (vecs : after.vecVariableToReg = manager.vecVariableToReg)
    (fps : forall name mappedTo, after.fpVariableToReg name = some mappedTo ->
      mappedTo ∈ fpVariableRegs) :
    manager.Taken holder { register := register, spills := spills, manager := after } := by
  have taken := @taken_unused manager consistent register info holder (fp_outside member)
    spills inUse
  exact taken.of_same (taken.consistent.of_fp registers maps order vecs fps) registers maps
    vecs

/-- The floating-point register that is evicted has a variable, and is stored. -/
theorem evictFp_ok {victim : ManagedRegister} {spills : List (ManagedRegister × String)}
    {evicted : RegisterManager} (evicts : manager.evictFp = .ok (victim, spills, evicted)) :
    victim ∈ fpVariableRegs ∧ victim ∈ spills.map Prod.fst ∧
      evicted.registers = manager.registers ∧
      evicted.variableToReg = manager.variableToReg ∧
      evicted.variableRegLruOrder = manager.variableRegLruOrder ∧
      evicted.vecVariableToReg = manager.vecVariableToReg ∧
      forall name mappedTo, evicted.fpVariableToReg name = some mappedTo ->
        mappedTo ∈ fpVariableRegs := by
  unfold evictFp at evicts
  split at evicts
  · cases evicts
  · split at evicts
    · cases evicts
    · rename_i victimVar _ register isMapped
      cases evicts
      refine ⟨consistent.fpMapped _ _ isMapped, by simp, rfl, rfl, rfl, rfl, ?_⟩
      intro name mappedTo isKept
      simp only [eraseFpVariable] at isKept
      split at isKept
      · cases isKept
      · exact consistent.fpMapped name mappedTo isKept

theorem acquireFpRegForVariable_taken {name : String} {acquisition : Acquisition}
    (current : forall register, manager.fpVariableToReg name = some register ->
      manager.status register ≠ .free)
    (success : manager.acquireFpRegForVariable name = .ok acquisition) :
    manager.Taken (.variable name) acquisition := by
  unfold acquireFpRegForVariable at success
  split at success
  · rename_i register isMapped
    cases success
    have pool := consistent.fpMapped name register isMapped
    have outside := fp_outside (List.mem_append_left fpScratchRegs pool)
    refine ⟨consistent, fun _ _ => rfl, current register isMapped, ?_, ?_⟩
    · intro other mappedTo isOther
      refine Or.inr ⟨?_, isOther⟩
      intro same
      change mappedTo = register at same
      have inPool := (consistent.mapped other mappedTo isOther).1
      rw [same] at inPool
      exact outside (List.mem_append_left _ inPool)
    · intro other mappedTo isOther
      refine Or.inr ⟨?_, isOther⟩
      intro same
      change mappedTo = register at same
      have inPool := (consistent.vecMapped other mappedTo isOther).1
      rw [same] at inPool
      exact outside (List.mem_append_right _ inPool)
  · split at success
    · rename_i register found
      cases success
      have facts := findFreeRegister_some found
      exact consistent.taken_fp (manager.fpInfo register name)
        (List.mem_append_left _ facts.1) [] (fun equal => nomatch equal) rfl rfl rfl rfl
        (fpMapped_map facts.1 consistent.fpMapped)
    · cases evicts : manager.evictFp with
      | error failure =>
          rw [evicts] at success
          cases success
      | ok evicted =>
          rcases evicted with ⟨victim, spills, evicted⟩
          rw [evicts] at success
          cases success
          rcases consistent.evictFp_ok evicts with
            ⟨pool, _, registers, maps, order, vecs, fps⟩
          refine consistent.taken_fp (manager.fpInfo victim name)
            (List.mem_append_left _ pool) spills (fun equal => nomatch equal) ?_ maps order
            vecs (fpMapped_map pool fps)
          simp only [mapFpVariable, setInfo, fpInfo, registers]

theorem acquireFpScratchReg_taken {acquisition : Acquisition}
    (success : manager.acquireFpScratchReg = .ok acquisition) :
    manager.Taken .temporary acquisition := by
  unfold acquireFpScratchReg at success
  split at success
  · rename_i register found
    cases success
    have facts := findFreeRegister_some found
    exact consistent.taken_unused (fp_outside (List.mem_append_right _ facts.1)) []
      (fun equal => nomatch equal)
  · cases success

theorem acquireSpillableFpTempReg_taken {acquisition : Acquisition}
    (success : manager.acquireSpillableFpTempReg = .ok acquisition) :
    manager.Taken .temporary acquisition := by
  unfold acquireSpillableFpTempReg at success
  split at success
  · rename_i register found
    cases success
    have facts := findFreeRegister_some found
    exact consistent.taken_unused (fp_outside (List.mem_append_left _ facts.1)) []
      (fun equal => nomatch equal)
  · cases evicts : manager.evictFp with
    | error failure =>
        rw [evicts] at success
        cases success
    | ok evicted =>
        rcases evicted with ⟨victim, spills, evicted⟩
        rw [evicts] at success
        cases success
        rcases consistent.evictFp_ok evicts with ⟨pool, _, registers, maps, order, vecs, fps⟩
        refine consistent.taken_fp (manager.fpInfo victim "")
          (List.mem_append_left _ pool) spills (fun equal => nomatch equal) ?_ maps order
          vecs fps
        simp only [setInfo, fpInfo, registers]

theorem acquireVecScratchReg_taken {acquisition : Acquisition}
    (success : manager.acquireVecScratchReg = .ok acquisition) :
    manager.Taken .temporary acquisition := by
  unfold acquireVecScratchReg at success
  split at success
  · rename_i register found
    cases success
    have facts := findFreeRegister_some found
    exact consistent.taken_unused (scratch_outside (List.mem_append_right _ facts.1)) []
      (fun equal => nomatch equal)
  · cases success

/-- A vector register becomes the register of a variable: the maps and the lists of
the other registers stay as they are. -/
theorem taken_vec {other : RegisterManager} {register : ManagedRegister} {name : String}
    (pool : register ∈ vecVariableRegs)
    (registers : other.registers = manager.registers)
    (maps : other.variableToReg = manager.variableToReg)
    (order : other.variableRegLruOrder = manager.variableRegLruOrder)
    (fps : other.fpVariableToReg = manager.fpVariableToReg)
    (vecs : forall variable_ mappedTo, other.vecVariableToReg variable_ = some mappedTo ->
      mappedTo ≠ register ∧ manager.vecVariableToReg variable_ = some mappedTo)
    (vecOrder : List String) :
    manager.Taken (.variable name)
      { register := register, spills := [],
        manager := { (other.setInfo register
            { status := .inUseVariable, boundTo := name, dirty := false }).mapVecVariable
              name register with vecVariableRegLruOrder := vecOrder } } := by
  have statuses (used : ManagedRegister) (different : used ≠ register)
      (info : RegisterInfo) :
      (other.setInfo register info).status used = manager.status used := by
    rw [status_setInfo_other info different]
    unfold status
    rw [registers]
  have outside (used : ManagedRegister) (isVariable : used ∈ variableRegs) :
      used ≠ register := by
    intro same
    rw [same] at isVariable
    exact variable_not_vec isVariable pool
  have newVecs (variable_ : String) (mappedTo : ManagedRegister)
      (isMapped : (other.mapVecVariable name register).vecVariableToReg variable_ =
        some mappedTo) :
      (mappedTo = register ∧ variable_ = name) ∨
        (mappedTo ≠ register ∧ manager.vecVariableToReg variable_ = some mappedTo) := by
    simp only [mapVecVariable] at isMapped
    split at isMapped
    · rename_i same
      cases isMapped
      exact Or.inl ⟨rfl, same⟩
    · exact Or.inr (vecs variable_ mappedTo isMapped)
  refine ⟨⟨?_, ?_, ?_, ?_, ?_, ?_⟩, fun used different => statuses used different _, ?_, ?_,
    ?_⟩
  · intro variable_ mappedTo isMapped
    change other.variableToReg variable_ = some mappedTo at isMapped
    rw [maps] at isMapped
    have facts := consistent.mapped variable_ mappedTo isMapped
    refine ⟨facts.1, (statuses mappedTo (outside mappedTo facts.1) _).trans facts.2.1, ?_⟩
    refine (congrArg RegisterInfo.boundTo
      (registers_setInfo_other _ (outside mappedTo facts.1))).trans ?_
    rw [registers]
    exact facts.2.2
  · change other.variableRegLruOrder.Nodup
    rw [order]
    exact consistent.orderNodup
  · intro used
    change used ∈ other.variableRegLruOrder <-> _
    rw [order, consistent.orderExact]
    constructor
    · rintro ⟨isVariable, inUse⟩
      exact ⟨isVariable, (statuses used (outside used isVariable) _).trans inUse⟩
    · rintro ⟨isVariable, inUse⟩
      exact ⟨isVariable, (statuses used (outside used isVariable) _).symm.trans inUse⟩
  · intro variable_ mappedTo isMapped
    rcases newVecs variable_ mappedTo isMapped with ⟨same, _⟩ | ⟨different, old⟩
    · rw [same]
      exact ⟨pool, status_setInfo_same register _⟩
    · have facts := consistent.vecMapped variable_ mappedTo old
      exact ⟨facts.1, (statuses mappedTo different _).trans facts.2⟩
  · intro first second mappedTo isFirst isSecond
    rcases newVecs first mappedTo isFirst with ⟨same, isName⟩ | ⟨different, old⟩
    · rcases newVecs second mappedTo isSecond with ⟨_, isName'⟩ | ⟨different, _⟩
      · rw [isName, isName']
      · exact absurd same different
    · rcases newVecs second mappedTo isSecond with ⟨same, _⟩ | ⟨_, old'⟩
      · exact absurd same different
      · exact consistent.vecInjective first second mappedTo old old'
  · change forall variable_ mappedTo, other.fpVariableToReg variable_ = some mappedTo -> _
    rw [fps]
    exact consistent.fpMapped
  · intro equal
    have same := (@status_setInfo_same other register
      { status := .inUseVariable, boundTo := name, dirty := false }).symm.trans equal
    cases same
  · intro variable_ mappedTo isMapped
    change other.variableToReg variable_ = some mappedTo at isMapped
    rw [maps] at isMapped
    exact Or.inr ⟨outside mappedTo (consistent.mapped variable_ mappedTo isMapped).1,
      isMapped⟩
  · intro variable_ mappedTo isMapped
    rcases newVecs variable_ mappedTo isMapped with ⟨same, isName⟩ | old
    · exact Or.inl ⟨same, by rw [isName]⟩
    · exact Or.inr old

theorem acquireVecVariableReg_taken {name : String} {acquisition : Acquisition}
    (success : manager.acquireVecVariableReg name = .ok acquisition) :
    manager.Taken (.variable name) acquisition := by
  unfold acquireVecVariableReg at success
  split at success
  · rename_i register isMapped
    cases success
    have facts := consistent.vecMapped name register isMapped
    refine ⟨?_, fun _ _ => rfl, ?_, ?_, ?_⟩
    · exact consistent.of_fp rfl rfl rfl rfl consistent.fpMapped
    · change manager.status register ≠ _
      rw [facts.2]
      decide
    · intro other mappedTo isOther
      refine Or.inr ⟨?_, isOther⟩
      intro same
      change mappedTo = register at same
      have inPool := (consistent.mapped other mappedTo isOther).1
      rw [same] at inPool
      exact variable_not_vec inPool facts.1
    · intro other mappedTo isOther
      by_cases same : mappedTo = register
      · change manager.vecVariableToReg other = some mappedTo at isOther
        rw [same] at isOther
        exact Or.inl ⟨same, by rw [consistent.vecInjective _ _ _ isMapped isOther]⟩
      · exact Or.inr ⟨same, isOther⟩
  · split at success
    · rename_i register found
      cases success
      have facts := findFreeRegister_some found
      refine consistent.taken_vec facts.1 rfl rfl rfl rfl ?_ _
      intro variable_ mappedTo isMapped
      refine ⟨?_, isMapped⟩
      intro same
      have inUse := (consistent.vecMapped variable_ mappedTo isMapped).2
      rw [same, facts.2] at inUse
      cases inUse
    · split at success
      · cases success
      · split at success
        · cases success
        · rename_i victimVar _ _ victim isVictim
          cases success
          refine @taken_vec manager consistent (manager.eraseVecVariable victimVar) victim
            name (consistent.vecMapped _ _ isVictim).1 rfl rfl rfl rfl ?_ _
          intro variable_ mappedTo isMapped
          simp only [eraseVecVariable] at isMapped
          split at isMapped
          · cases isMapped
          · rename_i different
            refine ⟨?_, isMapped⟩
            intro same
            rw [same] at isMapped
            exact different (consistent.vecInjective _ _ _ isMapped isVictim)

end Consistent
end RegisterManager

/-! ## Releases -/

namespace RegisterManager

/-- What a release does to the manager: it frees only registers of the list, and the
maps lose entries at most. -/
structure Freed (manager : RegisterManager) (released : List ManagedRegister)
    (after : RegisterManager) : Prop where
  consistent : after.Consistent
  frees : forall register, register ∉ released -> after.status register = .free ->
    manager.status register = .free
  mapped : forall name register, after.variableToReg name = some register ->
    manager.variableToReg name = some register
  vecMapped : forall name register, after.vecVariableToReg name = some register ->
    manager.vecVariableToReg name = some register

namespace Freed

theorem trans {first second third : RegisterManager} {released : List ManagedRegister}
    (one : first.Freed released second) (two : second.Freed released third) :
    first.Freed released third := by
  refine ⟨two.consistent, ?_, ?_, ?_⟩
  · intro register outside free
    exact one.frees register outside (two.frees register outside free)
  · intro name register isMapped
    exact one.mapped name register (two.mapped name register isMapped)
  · intro name register isMapped
    exact one.vecMapped name register (two.vecMapped name register isMapped)

theorem mono {manager after : RegisterManager} {released more : List ManagedRegister}
    (freed : manager.Freed released after) (subset : released ⊆ more) :
    manager.Freed more after :=
  ⟨freed.consistent, fun register outside free =>
    freed.frees register (fun member => outside (subset member)) free, freed.mapped,
    freed.vecMapped⟩

/-- A loop over registers whose body releases at most the register it looks at. -/
theorem fold {body : RegisterManager -> ManagedRegister -> RegisterManager}
    {pool : List ManagedRegister}
    (step : forall (manager : RegisterManager) register, register ∈ pool ->
      manager.Consistent -> manager.Freed [register] (body manager register))
    (manager : RegisterManager) (consistent : manager.Consistent) :
    manager.Freed pool (pool.foldl body manager) := by
  -- The registers that are still to come are a part of the pool.
  have run (rest : List ManagedRegister) (subset : rest ⊆ pool) :
      forall current : RegisterManager, current.Consistent ->
        current.Freed pool (rest.foldl body current) := by
    induction rest with
    | nil =>
        intro current isConsistent
        exact ⟨isConsistent, fun _ _ free => free, fun _ _ same => same,
          fun _ _ same => same⟩
    | cons register rest ih =>
        intro current isConsistent
        have inPool := subset List.mem_cons_self
        have first := step current register inPool isConsistent
        have covered : [register] ⊆ pool := by
          intro member isMember
          rw [List.mem_singleton.mp isMember]
          exact inPool
        have later := ih (fun member isMember => subset (List.mem_cons_of_mem _ isMember))
          (body current register) first.consistent
        exact (first.mono covered).trans later
  exact run pool (List.Subset.refl pool) manager consistent

end Freed

namespace Consistent

variable {manager : RegisterManager} (consistent : manager.Consistent)

include consistent

/-- Nothing happens. -/
theorem freed_refl (released : List ManagedRegister) : manager.Freed released manager :=
  ⟨consistent, fun _ _ free => free, fun _ _ same => same, fun _ _ same => same⟩

/-- A register without a variable is freed. -/
theorem freed_setInfo {register : ManagedRegister} {info : RegisterInfo}
    (unused : register ∈ variableRegs ++ vecVariableRegs ->
      manager.status register ≠ .inUseVariable) (free : info.status = .free) :
    manager.Freed [register] (manager.setInfo register info) := by
  refine ⟨consistent.setInfo_unused info fun member => ⟨unused member, ?_⟩, ?_,
    fun _ _ same => same, fun _ _ same => same⟩
  · rw [free]
    decide
  · intro other outside isFree
    rw [status_setInfo_other info fun same => outside (List.mem_singleton.mpr same)] at isFree
    exact isFree

theorem releaseScratchReg_freed (register : ManagedRegister) :
    manager.Freed [register] (manager.releaseScratchReg register) := by
  unfold releaseScratchReg
  split
  · rename_i isScratch
    refine consistent.freed_setInfo (fun _ inUse => ?_) rfl
    rw [isScratch] at inUse
    cases inUse
  · exact consistent.freed_refl _

theorem releaseUnchecked_freed {register : ManagedRegister}
    (unused : register ∈ variableRegs ++ vecVariableRegs ->
      manager.status register ≠ .inUseVariable) :
    manager.Freed [register] (manager.releaseUnchecked register) := by
  unfold releaseUnchecked
  split
  · exact consistent.freed_refl _
  · exact consistent.freed_setInfo unused rfl

theorem releaseRegister_freed (register : ManagedRegister) :
    manager.Freed [register] (manager.releaseRegister register) := by
  unfold releaseRegister
  split
  · rename_i isFp
    have member : register ∈ fpVariableRegs ++ fpScratchRegs := of_decide_eq_true isFp
    exact consistent.releaseUnchecked_freed fun isVariable =>
      absurd isVariable (fp_outside member)
  · exact consistent.releaseScratchReg_freed register

/-- A register leaves the list, and a variable the map that no other variable of the
register is in. -/
theorem freed_erase {register : ManagedRegister} {name : String} {info : RegisterInfo}
    (alone : forall other, manager.variableToReg other = some register -> other = name)
    (notVec : register ∉ vecVariableRegs) (free : info.status = .free) :
    manager.Freed [register]
      (((manager.setInfo register info).eraseVariable name).removeFromOrder register) := by
  have kept (other : String) (mappedTo : ManagedRegister)
      (isMapped : (manager.eraseVariable name).variableToReg other = some mappedTo) :
      other ≠ name ∧ manager.variableToReg other = some mappedTo := by
    simp only [eraseVariable] at isMapped
    split at isMapped
    · cases isMapped
    · rename_i different
      exact ⟨different, isMapped⟩
  refine ⟨⟨?_, consistent.orderNodup.filter _, ?_, ?_, consistent.vecInjective,
    consistent.fpMapped⟩, ?_, ?_, fun _ _ same => same⟩
  · intro other mappedTo isMapped
    rcases kept other mappedTo isMapped with ⟨different, old⟩
    have notSame : mappedTo ≠ register := by
      intro same
      rw [same] at old
      exact different (alone other old)
    have facts := consistent.mapped other mappedTo old
    refine ⟨facts.1, (status_setInfo_other info notSame).trans facts.2.1, ?_⟩
    exact (congrArg RegisterInfo.boundTo (registers_setInfo_other info notSame)).trans
      facts.2.2
  · intro other
    change other ∈ manager.variableRegLruOrder.filter (· ≠ register) <->
      other ∈ variableRegs ∧ (manager.setInfo register info).status other = _
    rw [List.mem_filter, consistent.orderExact]
    by_cases same : other = register
    · rw [same, status_setInfo_same, free]
      constructor
      · rintro ⟨_, different⟩
        exact absurd rfl (of_decide_eq_true different)
      · rintro ⟨_, equal⟩
        cases equal
    · rw [status_setInfo_other info same]
      exact ⟨fun facts => facts.1, fun facts => ⟨facts, decide_eq_true same⟩⟩
  · intro other mappedTo isMapped
    have facts := consistent.vecMapped other mappedTo isMapped
    refine ⟨facts.1, (status_setInfo_other info ?_).trans facts.2⟩
    intro same
    rw [same] at facts
    exact notVec facts.1
  · intro other outside isFree
    exact (status_setInfo_other info
      fun same => outside (List.mem_singleton.mpr same)).symm.trans isFree
  · intro other mappedTo isMapped
    exact (kept other mappedTo isMapped).2

theorem releaseRegForVariable_freed (name : String) :
    manager.Freed (manager.variableToReg name).toList
      (manager.releaseRegForVariable name) := by
  unfold releaseRegForVariable
  cases isMapped : manager.variableToReg name with
  | none => exact consistent.freed_refl _
  | some register =>
      simp only [Option.toList_some]
      split
      · exact consistent.freed_refl _
      · refine consistent.freed_erase (fun other isOther => ?_) ?_ rfl
        · exact consistent.mapped_unique isMapped isOther
        · exact variable_not_vec (consistent.mapped name register isMapped).1

theorem invalidate_freed {register : ManagedRegister}
    (outside : register ∉ variableRegs ++ vecVariableRegs) :
    manager.Freed [register] (manager.invalidate register) := by
  unfold invalidate
  split
  · refine consistent.freed_erase (fun other isOther => ?_)
      (fun isVec => outside (List.mem_append_right _ isVec)) rfl
    exact absurd (List.mem_append_left _ (consistent.mapped other register isOther).1) outside
  · exact consistent.freed_refl _

theorem markDirty_freed (register : ManagedRegister) (isDirty : Bool) :
    manager.Freed [] (manager.markDirty register isDirty) := by
  unfold markDirty
  split
  · exact consistent.freed_refl _
  · have statuses : (manager.setInfo register
        { manager.registers register with dirty := isDirty }).status = manager.status := by
      funext other
      by_cases same : other = register
      · rw [same, status_setInfo_same]
        rfl
      · exact status_setInfo_other _ same
    refine ⟨⟨?_, consistent.orderNodup, ?_, ?_, consistent.vecInjective,
      consistent.fpMapped⟩, ?_, fun _ _ same => same, fun _ _ same => same⟩
    · intro name mappedTo isMapped
      have facts := consistent.mapped name mappedTo isMapped
      rw [statuses]
      refine ⟨facts.1, facts.2.1, ?_⟩
      by_cases same : mappedTo = register
      · rw [<- facts.2.2, same]
        simp [setInfo]
      · rw [registers_setInfo_other _ same]
        exact facts.2.2
    · rw [statuses]
      exact consistent.orderExact
    · rw [statuses]
      exact consistent.vecMapped
    · intro other _ isFree
      rw [statuses] at isFree
      exact isFree

theorem resetCallerSavedRegisters_freed :
    manager.Freed scratchRegs manager.resetCallerSavedRegisters := by
  refine Freed.fold (fun current register member isConsistent => ?_) manager consistent
  split
  · exact isConsistent.freed_refl _
  · refine isConsistent.freed_setInfo (fun isVariable => absurd isVariable ?_) rfl
    exact scratch_outside (List.mem_append_left _ (List.mem_append_right _ member))

theorem invalidateCallerSavedRegisters_freed :
    manager.Freed callerSavedRegs manager.invalidateCallerSavedRegisters := by
  refine Freed.fold (fun current register member isConsistent => ?_) manager consistent
  refine isConsistent.invalidate_freed ?_
  exact scratch_outside (List.mem_append_left _ (List.mem_append_left _ member))

end Consistent
end RegisterManager

/-! ## The invariant of a run -/

namespace Tracked

/-- The structures agree, a held register is not free, and a register that a variable
has in a map is held by that variable or by nobody. -/
structure Respected (tracked : Tracked) : Prop where
  consistent : tracked.manager.Consistent
  held : forall register, tracked.holders register ≠ none ->
    tracked.manager.status register ≠ .free
  mapped : forall name register, tracked.manager.variableToReg name = some register ->
    tracked.holders register = none ∨ tracked.holders register = some (.variable name)
  vecMapped : forall name register, tracked.manager.vecVariableToReg name = some register ->
    tracked.holders register = none ∨ tracked.holders register = some (.variable name)

theorem start_respected : start.Respected := by
  refine ⟨⟨?_, List.nodup_nil, ?_, ?_, ?_, ?_⟩, ?_, ?_, ?_⟩
  · intro name register isMapped
    cases isMapped
  · intro register
    refine ⟨fun member => absurd member List.not_mem_nil, ?_⟩
    rintro ⟨_, inUse⟩
    exfalso
    change (resetForNewFunction.registers register).status = _ at inUse
    unfold resetForNewFunction at inUse
    simp only at inUse
    split_ifs at inUse
  · intro name register isMapped
    cases isMapped
  · intro first second register isFirst
    cases isFirst
  · intro name register isMapped
    cases isMapped
  · intro register isHeld
    exact absurd rfl isHeld
  · intro name register isMapped
    cases isMapped
  · intro name register isMapped
    cases isMapped

namespace Respected

variable {tracked : Tracked} (respected : tracked.Respected)

include respected

/-- A free register is held by nobody. -/
theorem free_unheld {register : ManagedRegister}
    (free : tracked.manager.status register = .free) :
    tracked.holders register = none := by
  by_contra isHeld
  exact respected.held register isHeld free

/-- Every acquisition that is allowed changes only the register it gives. -/
theorem acquire_taken {acquire : Acquire} (allowed : tracked.AcquireAllowed acquire)
    {acquisition : Acquisition}
    (success : acquire.perform tracked.manager = .ok acquisition) :
    tracked.manager.Taken acquire.holder acquisition := by
  have consistent := respected.consistent
  cases acquire with
  | regForVariable name => exact consistent.acquireRegForVariable_taken success
  | scratchReg => exact consistent.acquireScratchReg_taken success
  | spillableTempReg => exact consistent.acquireSpillableTempReg_taken success
  | calleeSavedTempReg => exact consistent.acquireCalleeSavedTempReg_taken success
  | fpRegForVariable name =>
      exact consistent.acquireFpRegForVariable_taken
        (fun register isMapped => (allowed register isMapped).1) success
  | fpScratchReg => exact consistent.acquireFpScratchReg_taken success
  | spillableFpTempReg => exact consistent.acquireSpillableFpTempReg_taken success
  | vecScratchReg => exact consistent.acquireVecScratchReg_taken success
  | vecVariableReg name => exact consistent.acquireVecVariableReg_taken success

/-- The invariant after an acquisition. -/
theorem acquired {acquire : Acquire} {acquisition : Acquisition}
    (taken : tracked.manager.Taken acquire.holder acquisition) :
    (tracked.acquired acquire acquisition).Respected := by
  refine ⟨taken.consistent, ?_, ?_, ?_⟩
  · intro register isHeld
    by_cases same : register = acquisition.register
    · rw [same]
      exact taken.inUse
    · change (if register = acquisition.register then some acquire.holder
        else tracked.holders register) ≠ none at isHeld
      rw [if_neg same] at isHeld
      change acquisition.manager.status register ≠ _
      rw [taken.others register same]
      exact respected.held register isHeld
  · intro name register isMapped
    change (if register = acquisition.register then some acquire.holder
      else tracked.holders register) = none ∨ (if register = acquisition.register then
        some acquire.holder else tracked.holders register) = _
    rcases taken.mapped name register isMapped with ⟨same, isHolder⟩ | ⟨different, old⟩
    · rw [if_pos same, isHolder]
      exact Or.inr rfl
    · rw [if_neg different]
      exact respected.mapped name register old
  · intro name register isMapped
    change (if register = acquisition.register then some acquire.holder
      else tracked.holders register) = none ∨ (if register = acquisition.register then
        some acquire.holder else tracked.holders register) = _
    rcases taken.vecMapped name register isMapped with ⟨same, isHolder⟩ | ⟨different, old⟩
    · rw [if_pos same, isHolder]
      exact Or.inr rfl
    · rw [if_neg different]
      exact respected.vecMapped name register old

/-- Every release that is allowed frees only what its holders release. -/
theorem release_freed {release : Release} (allowed : tracked.ReleaseAllowed release) :
    tracked.manager.Freed (release.released tracked.manager)
      (release.perform tracked.manager) := by
  have consistent := respected.consistent
  cases release with
  | regForVariable name => exact consistent.releaseRegForVariable_freed name
  | scratchReg register => exact consistent.releaseScratchReg_freed register
  | anyReg register => exact consistent.releaseRegister_freed register
  | calleeSavedTempReg register => exact consistent.releaseUnchecked_freed allowed
  | fpRegister register => exact consistent.releaseUnchecked_freed allowed
  | vecScratchReg register => exact consistent.releaseScratchReg_freed register
  | resetCallerSavedRegisters => exact consistent.resetCallerSavedRegisters_freed
  | invalidateCallerSavedRegisters => exact consistent.invalidateCallerSavedRegisters_freed
  | markDirty register isDirty => exact consistent.markDirty_freed register isDirty

/-- The invariant after a release. -/
theorem released {release : Release} (allowed : tracked.ReleaseAllowed release) :
    (tracked.afterRelease release).Respected := by
  have freed := respected.release_freed allowed
  have holdersAfter (register : ManagedRegister) :
      (tracked.afterRelease release).holders register = none ∨
        (register ∉ release.released tracked.manager ∧
          (tracked.afterRelease release).holders register = tracked.holders register) := by
    by_cases member : register ∈ release.released tracked.manager
    · exact Or.inl (if_pos member)
    · exact Or.inr ⟨member, if_neg member⟩
  refine ⟨freed.consistent, ?_, ?_, ?_⟩
  · intro register isHeld free
    rcases holdersAfter register with isNone | ⟨outside, same⟩
    · exact isHeld isNone
    · rw [same] at isHeld
      exact respected.held register isHeld (freed.frees register outside free)
  · intro name register isMapped
    rcases holdersAfter register with isNone | ⟨_, same⟩
    · exact Or.inl isNone
    · rw [same]
      exact respected.mapped name register (freed.mapped name register isMapped)
  · intro name register isMapped
    rcases holdersAfter register with isNone | ⟨_, same⟩
    · exact Or.inl isNone
    · rw [same]
      exact respected.vecMapped name register (freed.vecMapped name register isMapped)

/-! ## What an acquisition hands out -/

/-- What `AcquireSound` says of the result of the acquisition. -/
def ResultSound (tracked : Tracked) (acquire : Acquire)
    (result : Except AcquireFailure Acquisition) : Prop :=
  result ≠ .error .emptyList ∧
    forall acquisition, result = .ok acquisition ->
      tracked.HeldByAnother acquire acquisition.register ->
      acquisition.register ∈ acquisition.spills.map Prod.fst

omit respected in
theorem exception_sound (acquire : Acquire) :
    ResultSound tracked acquire (.error .exception) := by
  constructor
  · intro equal
    cases equal
  · intro acquisition success
    cases success

omit respected in
theorem ok_sound {acquire : Acquire} {acquisition : Acquisition}
    (stored : tracked.HeldByAnother acquire acquisition.register ->
      acquisition.register ∈ acquisition.spills.map Prod.fst) :
    ResultSound tracked acquire (.ok acquisition) := by
  constructor
  · intro equal
    cases equal
  · intro other success
    cases success
    exact stored

omit respected in
/-- A register that nobody holds, or that the variable itself holds, is not held by
another. -/
theorem not_heldByAnother {acquire : Acquire} {register : ManagedRegister}
    (unheld : tracked.holders register = none ∨
      (tracked.holders register = some acquire.holder ∧ acquire.holder ≠ .temporary)) :
    ¬ tracked.HeldByAnother acquire register := by
  rintro ⟨holder, isHeld, isAnother⟩
  rcases unheld with isNone | ⟨isSame, notTemporary⟩
  · rw [isNone] at isHeld
    cases isHeld
  · rw [isSame] at isHeld
    cases isHeld
    rcases isAnother with isTemporary | different
    · exact notTemporary isTemporary
    · exact different rfl

theorem free_not_heldByAnother {acquire : Acquire} {register : ManagedRegister}
    (free : tracked.manager.status register = .free) :
    ¬ tracked.HeldByAnother acquire register :=
  not_heldByAnother (Or.inl (respected.free_unheld free))

/-- The variable register that is evicted is stored if another holds it. -/
theorem evicted_stored {acquire : Acquire} {victim : ManagedRegister}
    {spills : List (ManagedRegister × String)} {evicted : RegisterManager}
    (canEvict : tracked.CanEvict)
    (evicts : tracked.manager.evictLeastRecentlyUsed = some (victim, spills, evicted))
    (isHeld : tracked.HeldByAnother acquire victim) : victim ∈ spills.map Prod.fst := by
  rcases respected.consistent.vacated_evicted evicts with ⟨_, _, isLast, isSpills, _⟩
  rcases canEvict victim isLast with dirty | isNone
  · rw [isSpills, if_pos dirty]
    exact List.mem_singleton_self victim
  · exact absurd isHeld (not_heldByAnother (Or.inl isNone))

omit respected in
/-- Where there is a register to evict, the list is not empty. -/
theorem evicts_of_order (notEmpty : tracked.manager.variableRegLruOrder ≠ []) :
    tracked.manager.evictLeastRecentlyUsed ≠ none := by
  intro isNone
  exact notEmpty (List.getLast?_eq_none_iff.mp (Option.map_eq_none_iff.mp isNone))

omit respected in
theorem not_hasFree {pool : List ManagedRegister}
    (none_ : tracked.manager.findFreeRegister pool = none) : ¬ tracked.HasFree pool := by
  rintro ⟨register, member, free⟩
  exact findFreeRegister_none none_ member free

/-- A register that is free is given soundly. -/
theorem free_sound {acquire : Acquire} {pool : List ManagedRegister}
    {acquisition : Acquisition}
    (found : tracked.manager.findFreeRegister pool = some acquisition.register) :
    ResultSound tracked acquire (.ok acquisition) :=
  ok_sound fun isHeld =>
    absurd isHeld (respected.free_not_heldByAnother (findFreeRegister_some found).2)

theorem regForVariable_sound {name : String}
    (allowed : tracked.AcquireAllowed (.regForVariable name)) :
    tracked.AcquireSound (.regForVariable name) := by
  change ResultSound tracked _ (tracked.manager.acquireRegForVariable name)
  unfold acquireRegForVariable
  cases isMapped : tracked.manager.variableToReg name with
  | some register =>
      refine ok_sound fun isHeld => absurd isHeld (not_heldByAnother ?_)
      rcases respected.mapped name register isMapped with isNone | isHolder
      · exact Or.inl isNone
      · exact Or.inr ⟨isHolder, fun equal => nomatch equal⟩
  | none =>
      simp only
      cases found : tracked.manager.findFreeRegister variableRegs with
      | some register => exact respected.free_sound found
      | none =>
          have canEvict := (allowed.resolve_left fun differs => differs isMapped).resolve_left
            (not_hasFree found)
          cases evicts : tracked.manager.evictLeastRecentlyUsed with
          | none => exact absurd evicts (evicts_of_order canEvict.1)
          | some eviction => exact ok_sound (respected.evicted_stored canEvict.2 evicts)

theorem spillableTempReg_sound (allowed : tracked.AcquireAllowed .spillableTempReg) :
    tracked.AcquireSound .spillableTempReg := by
  change ResultSound tracked _ tracked.manager.acquireSpillableTempReg
  unfold acquireSpillableTempReg
  cases found : tracked.manager.findFreeRegister variableRegs with
  | some register => exact respected.free_sound found
  | none =>
      have canEvict := allowed.resolve_left (not_hasFree found)
      cases evicts : tracked.manager.evictLeastRecentlyUsed with
      | none => exact absurd evicts (evicts_of_order canEvict.1)
      | some eviction => exact ok_sound (respected.evicted_stored canEvict.2 evicts)

theorem scratchReg_sound (allowed : tracked.AcquireAllowed .scratchReg) :
    tracked.AcquireSound .scratchReg := by
  change ResultSound tracked _ tracked.manager.acquireScratchReg
  unfold acquireScratchReg
  cases found : tracked.manager.findFreeRegister scratchRegs with
  | some register => exact respected.free_sound found
  | none =>
      simp only
      cases foundVariable : tracked.manager.findFreeRegister variableRegs with
      | some register => exact respected.free_sound foundVariable
      | none =>
          have canEvict := (allowed.resolve_left (not_hasFree found)).resolve_left
            (not_hasFree foundVariable)
          cases evicts : tracked.manager.evictLeastRecentlyUsed with
          | none => exact exception_sound _
          | some eviction => exact ok_sound (respected.evicted_stored canEvict evicts)

theorem calleeSavedTempReg_sound : tracked.AcquireSound .calleeSavedTempReg := by
  change ResultSound tracked _ tracked.manager.acquireCalleeSavedTempReg
  unfold acquireCalleeSavedTempReg
  cases found : tracked.manager.findFreeRegister variableRegs with
  | some register => exact respected.free_sound found
  | none => exact exception_sound _

/-- An eviction of a floating-point register stores it. -/
theorem fpEviction_sound {acquire : Acquire}
    (give : ManagedRegister × List (ManagedRegister × String) × RegisterManager ->
      RegisterManager) :
    ResultSound tracked acquire (tracked.manager.evictFp.map fun eviction =>
      { register := eviction.1, spills := eviction.2.1, manager := give eviction }) := by
  cases evicts : tracked.manager.evictFp with
  | error failure =>
      have isException : failure = .exception := by
        unfold evictFp at evicts
        split at evicts
        · cases evicts
          rfl
        · split at evicts
          · cases evicts
            rfl
          · cases evicts
      rw [isException]
      exact exception_sound acquire
  | ok eviction =>
      exact ok_sound fun _ => (respected.consistent.evictFp_ok evicts).2.1

theorem fpRegForVariable_sound {name : String}
    (allowed : tracked.AcquireAllowed (.fpRegForVariable name)) :
    tracked.AcquireSound (.fpRegForVariable name) := by
  change ResultSound tracked _ (tracked.manager.acquireFpRegForVariable name)
  unfold acquireFpRegForVariable
  cases isMapped : tracked.manager.fpVariableToReg name with
  | some register =>
      refine ok_sound fun isHeld => absurd isHeld (not_heldByAnother ?_)
      rcases (allowed register isMapped).2 with isNone | isHolder
      · exact Or.inl isNone
      · exact Or.inr ⟨isHolder, fun equal => nomatch equal⟩
  | none =>
      simp only
      cases found : tracked.manager.findFreeRegister fpVariableRegs with
      | some register => exact respected.free_sound found
      | none => exact respected.fpEviction_sound _

theorem fpScratchReg_sound : tracked.AcquireSound .fpScratchReg := by
  change ResultSound tracked _ tracked.manager.acquireFpScratchReg
  unfold acquireFpScratchReg
  cases found : tracked.manager.findFreeRegister fpScratchRegs with
  | some register => exact respected.free_sound found
  | none => exact exception_sound _

theorem spillableFpTempReg_sound : tracked.AcquireSound .spillableFpTempReg := by
  change ResultSound tracked _ tracked.manager.acquireSpillableFpTempReg
  unfold acquireSpillableFpTempReg
  cases found : tracked.manager.findFreeRegister fpVariableRegs with
  | some register => exact respected.free_sound found
  | none => exact respected.fpEviction_sound _

theorem vecScratchReg_sound : tracked.AcquireSound .vecScratchReg := by
  change ResultSound tracked _ tracked.manager.acquireVecScratchReg
  unfold acquireVecScratchReg
  cases found : tracked.manager.findFreeRegister vecScratchRegs with
  | some register => exact respected.free_sound found
  | none => exact exception_sound _

theorem vecVariableReg_sound {name : String}
    (allowed : tracked.AcquireAllowed (.vecVariableReg name)) :
    tracked.AcquireSound (.vecVariableReg name) := by
  change ResultSound tracked _ (tracked.manager.acquireVecVariableReg name)
  unfold acquireVecVariableReg
  cases isMapped : tracked.manager.vecVariableToReg name with
  | some register =>
      refine ok_sound fun isHeld => absurd isHeld (not_heldByAnother ?_)
      rcases respected.vecMapped name register isMapped with isNone | isHolder
      · exact Or.inl isNone
      · exact Or.inr ⟨isHolder, fun equal => nomatch equal⟩
  | none =>
      simp only
      cases found : tracked.manager.findFreeRegister vecVariableRegs with
      | some register => exact respected.free_sound found
      | none =>
          have canEvict := (allowed.resolve_left fun differs => differs isMapped).resolve_left
            (not_hasFree found)
          cases isLast : tracked.manager.vecVariableRegLruOrder.getLast? with
          | none => exact absurd (List.getLast?_eq_none_iff.mp isLast) canEvict.1
          | some victimVar =>
              simp only
              cases isVictim : tracked.manager.vecVariableToReg victimVar with
              | none => exact exception_sound _
              | some victim =>
                  have isNone := canEvict.2 victimVar victim isLast isVictim
                  exact ok_sound fun isHeld =>
                    absurd isHeld (not_heldByAnother (Or.inl isNone))

/-- Every acquisition that is allowed is sound. -/
theorem acquire_sound {acquire : Acquire} (allowed : tracked.AcquireAllowed acquire) :
    tracked.AcquireSound acquire := by
  cases acquire with
  | regForVariable name => exact respected.regForVariable_sound allowed
  | scratchReg => exact respected.scratchReg_sound allowed
  | spillableTempReg => exact respected.spillableTempReg_sound allowed
  | calleeSavedTempReg => exact respected.calleeSavedTempReg_sound
  | fpRegForVariable name => exact respected.fpRegForVariable_sound allowed
  | fpScratchReg => exact respected.fpScratchReg_sound
  | spillableFpTempReg => exact respected.spillableFpTempReg_sound
  | vecScratchReg => exact respected.vecScratchReg_sound
  | vecVariableReg name => exact respected.vecVariableReg_sound allowed

end Respected

/-- The invariant after an operation. -/
theorem Respected.after {tracked next : Tracked} (respected : tracked.Respected)
    {step : Step} (allowed : tracked.Allowed step)
    (isNext : tracked.after step = some next) : next.Respected := by
  cases step with
  | acquire acquire =>
      simp only [Tracked.after] at isNext
      cases performs : acquire.perform tracked.manager with
      | error failure =>
          rw [performs] at isNext
          cases isNext
      | ok acquisition =>
          rw [performs] at isNext
          cases isNext
          exact respected.acquired (respected.acquire_taken allowed performs)
  | release release =>
      cases isNext
      exact respected.released allowed

/-- The invariant holds in every state of a run. -/
theorem Reachable.respected {tracked : Tracked} (reachable : Reachable Allowed tracked) :
    tracked.Respected := by
  induction reachable with
  | start => exact start_respected
  | step _ allowed isNext ih => exact ih.after allowed isNext

/-- In every run whose operations all meet the condition the structures are sound, and
so is every acquisition that meets it. -/
theorem reachable_sound (tracked : Tracked) (reachable : Reachable Allowed tracked) :
    StateSound tracked.manager ∧
      forall acquire, tracked.AcquireAllowed acquire -> tracked.AcquireSound acquire :=
  ⟨reachable.respected.consistent.stateSound,
    fun _ allowed => reachable.respected.acquire_sound allowed⟩

/-- The state after one variable got a register. -/
def oneVariable : Tracked :=
  start.acquired (.regForVariable "a")
    { register := x 20, spills := []
      manager := ((resetForNewFunction.setInfo (x 20)
        { status := .inUseVariable, boundTo := "a", dirty := false }).mapVariable "a"
          (x 20)).pushFront (x 20) }

theorem oneVariable_reachable : Reachable Allowed oneVariable := by
  refine @Reachable.step Allowed start oneVariable (.acquire (.regForVariable "a"))
    Reachable.start ?_ rfl
  exact Or.inr (Or.inl ⟨x 20, by decide, rfl⟩)

theorem reachable_sound_oneVariable :
    StateSound oneVariable.manager ∧ oneVariable.AcquireSound .scratchReg := by
  have sound := reachable_sound oneVariable oneVariable_reachable
  refine ⟨sound.1, sound.2 .scratchReg ?_⟩
  exact Or.inl ⟨x 10, by decide, rfl⟩

/-- The state after a sequence of operations. -/
def run (tracked : Tracked) : List Step -> Option Tracked
  | [] => some tracked
  | step :: steps => (tracked.after step).bind fun next => run next steps

theorem Reachable.run {tracked final : Tracked} {steps : List Step}
    (reachable : Reachable (fun _ _ => True) tracked)
    (isFinal : tracked.run steps = some final) : Reachable (fun _ _ => True) final := by
  induction steps generalizing tracked with
  | nil =>
      cases isFinal
      exact reachable
  | cons step steps ih =>
      rcases Option.bind_eq_some_iff.mp isFinal with ⟨next, isNext, isRest⟩
      exact ih (reachable.step trivial isNext) isRest

/-- Nine anonymous temporaries: the ninth gets the register of the first, whose value
is not stored. -/
theorem acquire_unsound :
    ¬ forall tracked, Reachable (fun _ _ => True) tracked ->
      StateSound tracked.manager ∧ forall acquire, tracked.AcquireSound acquire := by
  intro sound
  have isSome : (start.run (List.replicate 8 (.acquire .spillableTempReg))).isSome := rfl
  have reachable := Reachable.start.run (Option.some_get isSome).symm
  have isStored := ((sound _ reachable).2 .spillableTempReg).2 _ rfl
    ⟨.temporary, rfl, Or.inl rfl⟩
  exact absurd isStored List.not_mem_nil

end Tracked

end Codegen
end NewBcpl
