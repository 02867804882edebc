import Mathlib.Data.List.Basic
import NewBcpl.Arm64.RegisterNumbers

namespace NewBcpl
namespace Codegen

/-!
# The register manager

`RegisterManager` with the operations that acquire and release registers. The map
of registers is a function, and a register that is no key of it is `absent`. An
acquisition gives the register and the registers that were stored before; it can
also throw, and it can read the back of an empty list, which is undefined. Stores
are made by the frame manager, whose own exceptions are not modelled.
-/

/-- The names that the manager hands out: general, floating-point and vector
registers. -/
inductive ManagedRegister where
  | x (number : Fin 31)
  | d (number : Fin 32)
  | v (number : Fin 32)
  deriving DecidableEq, Repr

open ManagedRegister

/-- `RegisterStatus`; `absent` stands for a register without information. -/
inductive RegisterStatus where
  | free | inUseVariable | inUseScratch | inUseDataBase | absent
  deriving DecidableEq, Repr

/-- `RegisterInfo`. -/
structure RegisterInfo where
  status : RegisterStatus
  boundTo : String
  dirty : Bool
  deriving DecidableEq, Repr

/-- The pools. -/
def variableRegs : List ManagedRegister :=
  [x 20, x 21, x 22, x 23, x 24, x 25, x 26, x 27]

def extendedVariableRegs : List ManagedRegister :=
  [x 19, x 20, x 21, x 22, x 23, x 24, x 25, x 26, x 27, x 28]

def scratchRegs : List ManagedRegister := [x 10, x 11, x 12, x 13, x 14, x 15]

def fpVariableRegs : List ManagedRegister :=
  [d 8, d 9, d 10, d 11, d 12, d 13, d 14, d 15]

def fpScratchRegs : List ManagedRegister :=
  [d 0, d 1, d 2, d 3, d 4, d 5, d 6, d 7, d 16, d 17, d 18, d 19, d 20, d 21, d 22, d 23,
    d 24, d 25, d 26, d 27, d 28, d 29, d 30, d 31]

def vecVariableRegs : List ManagedRegister :=
  [v 8, v 9, v 10, v 11, v 12, v 13, v 14, v 15]

def vecScratchRegs : List ManagedRegister :=
  [v 0, v 1, v 2, v 3, v 4, v 5, v 6, v 7, v 16, v 17, v 18, v 19, v 20, v 21, v 22, v 23,
    v 24, v 25, v 26, v 27, v 28, v 29, v 30, v 31]

/-- The registers of `invalidate_caller_saved_registers`. -/
def callerSavedRegs : List ManagedRegister :=
  [x 0, x 1, x 2, x 3, x 4, x 5, x 6, x 7, x 8, x 9, x 10, x 11, x 12, x 13, x 14, x 15,
    x 16, x 17]

/-- The members of `RegisterManager`. The lists have the most recent entry first;
those of the floating-point and vector registers hold variables. -/
structure RegisterManager where
  registers : ManagedRegister -> RegisterInfo
  variableToReg : String -> Option ManagedRegister
  variableRegLruOrder : List ManagedRegister
  fpVariableToReg : String -> Option ManagedRegister
  fpVariableRegLruOrder : List String
  vecVariableToReg : String -> Option ManagedRegister
  vecVariableRegLruOrder : List String

/-- How an acquisition can fail. -/
inductive AcquireFailure where
  | exception
  | emptyList
  deriving DecidableEq, Repr

/-- What an acquisition gives: the register, the stored registers with the variables
to whose slots they went, and the manager afterwards. -/
structure Acquisition where
  register : ManagedRegister
  spills : List (ManagedRegister × String)
  manager : RegisterManager

namespace RegisterManager

/-- `initialize_registers`, which `reset_for_new_function` calls. The active pool
that it also selects is read by no acquisition. -/
def resetForNewFunction : RegisterManager :=
  { registers := fun register =>
      if register = x 28 then
        { status := .inUseDataBase, boundTo := "data_base", dirty := false }
      else if register ∈ extendedVariableRegs ++ scratchRegs ++ fpVariableRegs ++
          fpScratchRegs ++ vecVariableRegs ++ vecScratchRegs then
        { status := .free, boundTo := "", dirty := false }
      else { status := .absent, boundTo := "", dirty := false }
    variableToReg := fun _ => none
    variableRegLruOrder := []
    fpVariableToReg := fun _ => none
    fpVariableRegLruOrder := []
    vecVariableToReg := fun _ => none
    vecVariableRegLruOrder := [] }

section Members

variable (manager : RegisterManager)

/-- The status of a register. -/
def status (register : ManagedRegister) : RegisterStatus :=
  (manager.registers register).status

/-- `registers[register] = info`. -/
def setInfo (register : ManagedRegister) (info : RegisterInfo) : RegisterManager :=
  { manager with
    registers := fun other => if other = register then info else manager.registers other }

/-- `variable_to_reg_map[name] = register`. -/
def mapVariable (name : String) (register : ManagedRegister) : RegisterManager :=
  { manager with
    variableToReg := fun other =>
      if other = name then some register else manager.variableToReg other }

/-- `variable_to_reg_map.erase(name)`. -/
def eraseVariable (name : String) : RegisterManager :=
  { manager with
    variableToReg := fun other => if other = name then none else manager.variableToReg other }

/-- `variable_reg_lru_order_.push_front(register)`. -/
def pushFront (register : ManagedRegister) : RegisterManager :=
  { manager with variableRegLruOrder := register :: manager.variableRegLruOrder }

/-- `variable_reg_lru_order_.remove(register)`. -/
def removeFromOrder (register : ManagedRegister) : RegisterManager :=
  { manager with
    variableRegLruOrder := manager.variableRegLruOrder.filter (· ≠ register) }

/-- `fp_variable_to_reg_map_[name] = register`. -/
def mapFpVariable (name : String) (register : ManagedRegister) : RegisterManager :=
  { manager with
    fpVariableToReg := fun other =>
      if other = name then some register else manager.fpVariableToReg other }

/-- `fp_variable_to_reg_map_.erase(name)`. -/
def eraseFpVariable (name : String) : RegisterManager :=
  { manager with
    fpVariableToReg := fun other =>
      if other = name then none else manager.fpVariableToReg other }

/-- `vec_variable_to_reg_map_[name] = register`. -/
def mapVecVariable (name : String) (register : ManagedRegister) : RegisterManager :=
  { manager with
    vecVariableToReg := fun other =>
      if other = name then some register else manager.vecVariableToReg other }

/-- `vec_variable_to_reg_map_.erase(name)`. -/
def eraseVecVariable (name : String) : RegisterManager :=
  { manager with
    vecVariableToReg := fun other =>
      if other = name then none else manager.vecVariableToReg other }

/-- `find_free_register`. -/
def findFreeRegister (pool : List ManagedRegister) : Option ManagedRegister :=
  pool.find? fun register => manager.status register = .free

/-- The least recently used variable register leaves the list and its variable the
map; it is stored only if it is dirty. There is none if the list is empty. -/
def evictLeastRecentlyUsed :
    Option (ManagedRegister × List (ManagedRegister × String) × RegisterManager) :=
  manager.variableRegLruOrder.getLast?.map fun victim =>
    let info := manager.registers victim
    (victim, if info.dirty then [(victim, info.boundTo)] else [],
      { manager with
        variableRegLruOrder := manager.variableRegLruOrder.dropLast }.eraseVariable
          info.boundTo)

/-- `acquire_reg_for_variable`. -/
def acquireRegForVariable (name : String) : Except AcquireFailure Acquisition :=
  match manager.variableToReg name with
  | some register =>
      .ok { register := register, spills := [],
            manager := (manager.removeFromOrder register).pushFront register }
  | none =>
      let info : RegisterInfo :=
        { status := .inUseVariable, boundTo := name, dirty := false }
      match manager.findFreeRegister variableRegs with
      | some register =>
          .ok { register := register, spills := [],
                manager := ((manager.setInfo register info).mapVariable name
                  register).pushFront register }
      | none =>
          match manager.evictLeastRecentlyUsed with
          | none => .error .emptyList
          | some (victim, spills, evicted) =>
              .ok { register := victim, spills := spills,
                    manager := ((evicted.setInfo victim info).mapVariable name
                      victim).pushFront victim }

/-- `acquire_scratch_reg`. -/
def acquireScratchReg : Except AcquireFailure Acquisition :=
  match manager.findFreeRegister scratchRegs with
  | some register =>
      .ok { register := register, spills := [],
            manager := manager.setInfo register
              { status := .inUseScratch, boundTo := "scratch", dirty := false } }
  | none =>
      match manager.findFreeRegister variableRegs with
      | some register =>
          .ok { register := register, spills := [],
                manager := manager.setInfo register
                  { status := .inUseScratch, boundTo := "scratch_from_vars"
                    dirty := false } }
      | none =>
          match manager.evictLeastRecentlyUsed with
          | none => .error .exception
          | some (victim, spills, evicted) =>
              .ok { register := victim, spills := spills,
                    manager := evicted.setInfo victim
                      { status := .inUseScratch, boundTo := "scratch_from_spill"
                        dirty := false } }

/-- `acquire_spillable_temp_reg`. -/
def acquireSpillableTempReg : Except AcquireFailure Acquisition :=
  let info : RegisterInfo :=
    { status := .inUseVariable, boundTo := "_temp_", dirty := false }
  match manager.findFreeRegister variableRegs with
  | some register =>
      .ok { register := register, spills := [],
            manager := (manager.setInfo register info).pushFront register }
  | none =>
      match manager.evictLeastRecentlyUsed with
      | none => .error .emptyList
      | some (victim, spills, evicted) =>
          .ok { register := victim, spills := spills,
                manager := (evicted.setInfo victim info).pushFront victim }

/-- `acquire_callee_saved_temp_reg`. -/
def acquireCalleeSavedTempReg : Except AcquireFailure Acquisition :=
  match manager.findFreeRegister variableRegs with
  | some register =>
      .ok { register := register, spills := [],
            manager := manager.setInfo register
              { manager.registers register with
                status := .inUseScratch, boundTo := "_persistent_temp_" } }
  | none => .error .exception

/-- The information that a floating-point register gets for a variable. -/
def fpInfo (register : ManagedRegister) (name : String) : RegisterInfo :=
  { manager.registers register with status := .inUseVariable, boundTo := name }

/-- The least recently used floating-point variable leaves both list and map, and
its register is stored. A variable without a register has the empty register name,
which the encoder of the store rejects. -/
def evictFp :
    Except AcquireFailure
      (ManagedRegister × List (ManagedRegister × String) × RegisterManager) :=
  match manager.fpVariableRegLruOrder.getLast? with
  | none => .error .exception
  | some victimVar =>
      match manager.fpVariableToReg victimVar with
      | none => .error .exception
      | some victim =>
          .ok (victim, [(victim, victimVar)],
            { manager with
              fpVariableRegLruOrder :=
                manager.fpVariableRegLruOrder.dropLast }.eraseFpVariable victimVar)

/-- `acquire_fp_reg_for_variable`. -/
def acquireFpRegForVariable (name : String) : Except AcquireFailure Acquisition :=
  match manager.fpVariableToReg name with
  | some register => .ok { register := register, spills := [], manager := manager }
  | none =>
      match manager.findFreeRegister fpVariableRegs with
      | some register =>
          .ok { register := register, spills := [],
                manager := { (manager.setInfo register
                    (manager.fpInfo register name)).mapFpVariable name register with
                  fpVariableRegLruOrder := name :: manager.fpVariableRegLruOrder } }
      | none => do
          let (victim, spills, evicted) <- manager.evictFp
          return { register := victim, spills := spills,
                   manager := { (evicted.setInfo victim
                       (evicted.fpInfo victim name)).mapFpVariable name victim with
                     fpVariableRegLruOrder := name :: evicted.fpVariableRegLruOrder } }

/-- `acquire_fp_scratch_reg`. -/
def acquireFpScratchReg : Except AcquireFailure Acquisition :=
  match manager.findFreeRegister fpScratchRegs with
  | some register =>
      .ok { register := register, spills := [],
            manager := manager.setInfo register
              { manager.registers register with status := .inUseScratch, boundTo := "" } }
  | none => .error .exception

/-- `acquire_spillable_fp_temp_reg`. -/
def acquireSpillableFpTempReg : Except AcquireFailure Acquisition :=
  match manager.findFreeRegister fpVariableRegs with
  | some register =>
      .ok { register := register, spills := [],
            manager := manager.setInfo register (manager.fpInfo register "") }
  | none => do
      let (victim, spills, evicted) <- manager.evictFp
      return { register := victim, spills := spills,
               manager := evicted.setInfo victim (evicted.fpInfo victim "") }

/-- `acquire_vec_scratch_reg`. -/
def acquireVecScratchReg : Except AcquireFailure Acquisition :=
  match manager.findFreeRegister vecScratchRegs with
  | some register =>
      .ok { register := register, spills := [],
            manager := manager.setInfo register
              { status := .inUseScratch, boundTo := "vec_scratch", dirty := false } }
  | none => .error .exception

/-- `acquire_vec_variable_reg`. The store of the victim is commented out in the
source. -/
def acquireVecVariableReg (name : String) : Except AcquireFailure Acquisition :=
  let info : RegisterInfo := { status := .inUseVariable, boundTo := name, dirty := false }
  match manager.vecVariableToReg name with
  | some register =>
      .ok { register := register, spills := [],
            manager := { manager with
              vecVariableRegLruOrder :=
                name :: manager.vecVariableRegLruOrder.filter (· ≠ name) } }
  | none =>
      match manager.findFreeRegister vecVariableRegs with
      | some register =>
          .ok { register := register, spills := [],
                manager := { (manager.setInfo register info).mapVecVariable name
                    register with
                  vecVariableRegLruOrder := name :: manager.vecVariableRegLruOrder } }
      | none =>
          match manager.vecVariableRegLruOrder.getLast? with
          | none => .error .emptyList
          | some victimVar =>
              match manager.vecVariableToReg victimVar with
              | none => .error .exception
              | some victim =>
                  .ok { register := victim, spills := [],
                        manager := { ((manager.eraseVecVariable victimVar).setInfo victim
                            info).mapVecVariable name victim with
                          vecVariableRegLruOrder :=
                            name :: manager.vecVariableRegLruOrder.dropLast } }

/-- `release_reg_for_variable`. -/
def releaseRegForVariable (name : String) : RegisterManager :=
  match manager.variableToReg name with
  | none => manager
  | some register =>
      if manager.status register = .absent then manager
      else
        ((manager.setInfo register { status := .free, boundTo := "", dirty := false }).eraseVariable
          name).removeFromOrder register

/-- `release_scratch_reg` and `release_vec_scratch_reg`. -/
def releaseScratchReg (register : ManagedRegister) : RegisterManager :=
  if manager.status register = .inUseScratch then
    manager.setInfo register { status := .free, boundTo := "", dirty := false }
  else manager

/-- `release_callee_saved_temp_reg` and `release_fp_register`. -/
def releaseUnchecked (register : ManagedRegister) : RegisterManager :=
  if manager.status register = .absent then manager
  else
    manager.setInfo register
      { manager.registers register with status := .free, boundTo := "" }

/-- `is_fp_register`. -/
def isFpRegister (register : ManagedRegister) : Bool :=
  register ∈ fpVariableRegs ++ fpScratchRegs

/-- `release_register`. -/
def releaseRegister (register : ManagedRegister) : RegisterManager :=
  if isFpRegister register then manager.releaseUnchecked register
  else manager.releaseScratchReg register

/-- `reset_caller_saved_registers`. Its inner loop is for variables in scratch
registers, of which there are none. -/
def resetCallerSavedRegisters : RegisterManager :=
  scratchRegs.foldl (fun current register =>
    if current.status register = .absent then current
    else current.setInfo register { status := .free, boundTo := "", dirty := false }) manager

/-- One register of `invalidate_caller_saved_registers`. -/
def invalidate (register : ManagedRegister) : RegisterManager :=
  if manager.status register = .inUseVariable then
    ((manager.eraseVariable (manager.registers register).boundTo).removeFromOrder
      register).setInfo register { status := .free, boundTo := "", dirty := false }
  else manager

/-- `invalidate_caller_saved_registers`. -/
def invalidateCallerSavedRegisters : RegisterManager :=
  callerSavedRegs.foldl invalidate manager

/-- `mark_dirty`. -/
def markDirty (register : ManagedRegister) (isDirty : Bool) : RegisterManager :=
  if manager.status register = .absent then manager
  else manager.setInfo register { manager.registers register with dirty := isDirty }

end Members

end RegisterManager

end Codegen
end NewBcpl
