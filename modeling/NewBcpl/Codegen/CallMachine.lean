import NewBcpl.Ast
import NewBcpl.Codegen.RegisterManager
import Mathlib.Logic.Function.Basic

namespace NewBcpl
namespace Codegen

open ManagedRegister

/-!
# The machine and the generator around a call

What `visit(RoutineCallStatement)` and `visit(FunctionCall)` emit: moves, conversions, loads and
the code of other expressions. That code is whatever their visitors emit: it takes a machine to
another, if it ends, and leaves the value of the expression in a register.
-/

/-! ## The machine -/

/-- The registers, the memory by addresses of words, and the rest of the machine. -/
structure CallMachine (World : Type) where
  registers : ManagedRegister -> Word
  memory : Word -> Word
  world : World

variable {World Rest : Type}

namespace CallMachine

/-- Setting a register. -/
def set (machine : CallMachine World) (register : ManagedRegister) (value : Word) :
    CallMachine World :=
  { machine with registers := Function.update machine.registers register value }

/-- The word of the runtime table at an offset; X19 is its base. -/
def tableEntry (machine : CallMachine World) (offset : Nat) : Word :=
  machine.memory (machine.registers (x 19) + BitVec.ofNat 64 offset)

end CallMachine

/-- The conversions of the processor, the addresses of labels and the offsets of the slots to
which variables are spilled. -/
structure Platform where
  scvtf : Word -> Word
  fcvtzs : Word -> Word
  labelAddress : String -> Word
  spillOffset : String -> Word

/-- What `expression_result_reg_` names. No visitor leaves its result in a vector register. -/
inductive ResultRegister where
  | x (number : Fin 31)
  | w (number : Fin 31)
  | d (number : Fin 32)
  deriving DecidableEq, Repr

/-- The register of which a name names all or the lower half. -/
def ResultRegister.home : ResultRegister -> ManagedRegister
  | x number => .x number
  | w number => .x number
  | d number => .d number

/-- The code of an expression and where it leaves the value. -/
structure Generated (World : Type) where
  code : CallMachine World -> Option (CallMachine World)
  result : ResultRegister

/-- The value of the expression when its code runs on a machine. -/
def Generated.value (generated : Generated World) (machine : CallMachine World) :
    Option Word :=
  (generated.code machine).map fun after => after.registers generated.result.home

/-- What the visitors of calls emit before the call: the code of an expression, or an
instruction of their own. -/
inductive CallInstruction (World : Type) where
  | expression (code : CallMachine World -> Option (CallMachine World))
  | movReg (dest source : Fin 31)
  | fmovReg (dest source : Fin 32)
  | scvtf (dest : Fin 32) (source : Fin 31)
  | fcvtzs (dest : Fin 31) (source : Fin 32)
  | strSpill (source : ManagedRegister) (variableName : String)
  | ldrImm (dest base : Fin 31) (offset : Nat)
  | movzMovkAbs64 (dest : Fin 31) (value : Word)
  | adrpAddLiteral (dest : Fin 31) (label : String)

namespace CallInstruction

/-- One instruction. Spilled variables are stored relative to X29. -/
def step (platform : Platform) (machine : CallMachine World) :
    CallInstruction World -> Option (CallMachine World)
  | expression code => code machine
  | movReg dest source => some (machine.set (x dest) (machine.registers (x source)))
  | fmovReg dest source => some (machine.set (d dest) (machine.registers (d source)))
  | scvtf dest source =>
      some (machine.set (d dest) (platform.scvtf (machine.registers (x source))))
  | fcvtzs dest source =>
      some (machine.set (x dest) (platform.fcvtzs (machine.registers (d source))))
  | strSpill source variableName =>
      some { machine with
        memory := Function.update machine.memory
          (machine.registers (x 29) + platform.spillOffset variableName)
          (machine.registers source) }
  | ldrImm dest base offset =>
      some (machine.set (x dest)
        (machine.memory (machine.registers (x base) + BitVec.ofNat 64 offset)))
  | movzMovkAbs64 dest value => some (machine.set (x dest) value)
  | adrpAddLiteral dest label => some (machine.set (x dest) (platform.labelAddress label))

end CallInstruction

/-- The instructions one after another; there is no machine afterwards if the code of an
expression does not end. -/
def executeCall (platform : Platform) :
    List (CallInstruction World) -> CallMachine World -> Option (CallMachine World)
  | [], machine => some machine
  | instruction :: rest, machine =>
      (instruction.step platform machine).bind (executeCall platform rest)

/-! ## The state of the generator -/

/-- The lists and maps from which registers are taken hold registers of their pools. -/
structure RegisterManager.Pooled (manager : RegisterManager) : Prop where
  order : forall register, register ∈ manager.variableRegLruOrder -> register ∈ variableRegs
  fpMapped : forall name register, manager.fpVariableToReg name = some register ->
    register ∈ fpVariableRegs

namespace RegisterManager

variable {manager : RegisterManager}

theorem evicted_pooled (pooled : manager.Pooled) {victim : ManagedRegister}
    {spills : List (ManagedRegister × String)} {evicted : RegisterManager}
    (evicts : manager.evictLeastRecentlyUsed = some (victim, spills, evicted)) :
    victim ∈ variableRegs ∧ evicted.Pooled := by
  unfold evictLeastRecentlyUsed at evicts
  rcases Option.map_eq_some_iff.mp evicts with ⟨last, isLast, equal⟩
  cases equal
  refine ⟨pooled.order _ (List.mem_of_getLast? isLast), ⟨fun register member => ?_, pooled.fpMapped⟩⟩
  exact pooled.order register (List.dropLast_subset _ member)

/-- A variable register is put in front of the list. -/
theorem pooled_pushFront (pooled : manager.Pooled) {register : ManagedRegister}
    (pool : register ∈ variableRegs) (info : RegisterInfo) :
    ((manager.setInfo register info).pushFront register).Pooled := by
  refine ⟨fun other member => ?_, pooled.fpMapped⟩
  rcases List.mem_cons.mp member with same | earlier
  · rw [same]
    exact pool
  · exact pooled.order other earlier

theorem acquireScratchReg_pooled (pooled : manager.Pooled) {acquisition : Acquisition}
    (success : manager.acquireScratchReg = .ok acquisition) :
    acquisition.register ∈ scratchRegs ++ variableRegs ∧ acquisition.manager.Pooled := by
  unfold acquireScratchReg at success
  split at success
  · rename_i register found
    cases success
    exact ⟨List.mem_append_left _ (List.mem_of_find?_eq_some found),
      pooled.order, pooled.fpMapped⟩
  · split at success
    · rename_i register found
      cases success
      exact ⟨List.mem_append_right _ (List.mem_of_find?_eq_some found),
        pooled.order, pooled.fpMapped⟩
    · split at success
      · cases success
      · rename_i victim spills evicted evicts
        cases success
        have facts := evicted_pooled pooled evicts
        exact ⟨List.mem_append_right _ facts.1, facts.2.order, facts.2.fpMapped⟩

theorem acquireSpillableTempReg_pooled (pooled : manager.Pooled) {acquisition : Acquisition}
    (success : manager.acquireSpillableTempReg = .ok acquisition) :
    acquisition.register ∈ variableRegs ∧ acquisition.manager.Pooled := by
  unfold acquireSpillableTempReg at success
  split at success
  · rename_i register found
    cases success
    have pool := List.mem_of_find?_eq_some found
    exact ⟨pool, pooled_pushFront pooled pool _⟩
  · split at success
    · cases success
    · rename_i victim spills evicted evicts
      cases success
      have facts := evicted_pooled pooled evicts
      exact ⟨facts.1, pooled_pushFront facts.2 facts.1 _⟩

theorem acquireSpillableFpTempReg_pooled (pooled : manager.Pooled) {acquisition : Acquisition}
    (success : manager.acquireSpillableFpTempReg = .ok acquisition) :
    acquisition.register ∈ fpVariableRegs ∧ acquisition.manager.Pooled := by
  unfold acquireSpillableFpTempReg at success
  split at success
  · rename_i register found
    cases success
    exact ⟨List.mem_of_find?_eq_some found, pooled.order, pooled.fpMapped⟩
  · unfold evictFp at success
    split at success
    · cases success
    · split at success
      · cases success
      · rename_i victim isMapped
        cases success
        refine ⟨pooled.fpMapped _ _ isMapped, pooled.order, fun name register mapped => ?_⟩
        refine pooled.fpMapped name register ?_
        have still := mapped
        simp only [setInfo, eraseFpVariable] at still
        split at still
        · cases still
        · exact still

theorem releaseRegister_pooled (pooled : manager.Pooled) (register : ManagedRegister) :
    (manager.releaseRegister register).Pooled := by
  unfold releaseRegister releaseUnchecked releaseScratchReg
  split_ifs
  · exact pooled
  · exact ⟨pooled.order, pooled.fpMapped⟩
  · exact ⟨pooled.order, pooled.fpMapped⟩
  · exact pooled

theorem resetCallerSavedRegisters_pooled (pooled : manager.Pooled) :
    manager.resetCallerSavedRegisters.Pooled := by
  unfold resetCallerSavedRegisters
  generalize scratchRegs = registers
  induction registers generalizing manager with
  | nil => exact pooled
  | cons register rest inductionHypothesis =>
      rw [List.foldl_cons]
      apply inductionHypothesis
      split_ifs
      · exact pooled
      · exact ⟨pooled.order, pooled.fpMapped⟩

/-- `get_in_use_caller_saved_registers`. -/
def inUseCallerSavedRegisters (manager : RegisterManager) : List ManagedRegister :=
  scratchRegs.filter fun register =>
    manager.status register ≠ .absent ∧ manager.status register ≠ .free

end RegisterManager

/-- What expressions are generated in: the register manager and the rest of the generator. -/
structure GeneratorState (Rest : Type) where
  manager : RegisterManager
  pooled : manager.Pooled
  rest : Rest

namespace GeneratorState

variable (state : GeneratorState Rest)

/-- An acquisition that gives registers of a pool: the register and what is spilled for it. -/
def acquire (operation : RegisterManager -> Except AcquireFailure Acquisition)
    (pool : List ManagedRegister)
    (keeps : forall {manager : RegisterManager}, manager.Pooled ->
      forall {acquisition : Acquisition}, operation manager = .ok acquisition ->
        acquisition.register ∈ pool ∧ acquisition.manager.Pooled) :
    Option (ManagedRegister × List (ManagedRegister × String) × GeneratorState Rest) :=
  match taken : operation state.manager with
  | .error _ => none
  | .ok acquisition =>
      some (acquisition.register, acquisition.spills,
        { state with
          manager := acquisition.manager
          pooled := (keeps state.pooled taken).2 })

/-- `acquire_scratch_reg`. -/
def acquireScratchReg :
    Option (ManagedRegister × List (ManagedRegister × String) × GeneratorState Rest) :=
  state.acquire RegisterManager.acquireScratchReg (scratchRegs ++ variableRegs)
    RegisterManager.acquireScratchReg_pooled

/-- `acquire_spillable_temp_reg`. -/
def acquireSpillableTempReg :
    Option (ManagedRegister × List (ManagedRegister × String) × GeneratorState Rest) :=
  state.acquire RegisterManager.acquireSpillableTempReg variableRegs
    RegisterManager.acquireSpillableTempReg_pooled

/-- `acquire_spillable_fp_temp_reg`. -/
def acquireSpillableFpTempReg :
    Option (ManagedRegister × List (ManagedRegister × String) × GeneratorState Rest) :=
  state.acquire RegisterManager.acquireSpillableFpTempReg fpVariableRegs
    RegisterManager.acquireSpillableFpTempReg_pooled

/-- `release_register`; the manager has no registers with 32-bit names. -/
def releaseRegister : ResultRegister -> GeneratorState Rest
  | .w _ => state
  | register =>
      { state with
        manager := state.manager.releaseRegister register.home
        pooled := RegisterManager.releaseRegister_pooled state.pooled register.home }

/-- `release_register` for the registers of all arguments. -/
def releaseRegisters (registers : List ResultRegister) : GeneratorState Rest :=
  registers.foldl releaseRegister state

/-- `reset_caller_saved_registers`. -/
def resetCallerSavedRegisters : GeneratorState Rest :=
  { state with
    manager := state.manager.resetCallerSavedRegisters
    pooled := RegisterManager.resetCallerSavedRegisters_pooled state.pooled }

end GeneratorState

end Codegen
end NewBcpl
