import Mathlib.Data.List.Sort
import NewBcpl.Arm64.RegisterNumbers
import NewBcpl.Ast
import NewBcpl.Foundations.Layout

namespace NewBcpl
namespace Codegen

open Foundations.Layout

/-!
# Call frames

`CallFrameManager`: the operations that register the contents of a frame, the
prologue that fixes its size, and the spill slots that are handed out afterwards.
Sizes and offsets are the `int`s of the source without their overflow. The maps
are association lists with the last assignment first. A register to save is one of
X0 to X30, whose names the encoder accepts.
-/

/-- The name of a general register. -/
def registerName (register : Fin 31) : String := "X" ++ toString register.val

/-- `RegisterManager::VARIABLE_REGS` and `EXTENDED_VARIABLE_REGS`. -/
def variableRegisters : List (Fin 31) := [20, 21, 22, 23, 24, 25, 26, 27]

def extendedVariableRegisters : List (Fin 31) :=
  [19, 20, 21, 22, 23, 24, 25, 26, 27, 28]

/-- `CANARY_SIZE`, `UPPER_CANARY_VALUE` and `LOWER_CANARY_VALUE`. -/
def canarySize : Int := 8

def upperCanaryValue : Word := 0x1122334455667788#64

def lowerCanaryValue : Word := 0xAABBCCDDEEFF0011#64

/-- The instructions of a prologue. -/
inductive PrologueInstruction where
  | stpPre (immediate : Int)
  | movFpSp
  | loadCanary (value : Word)
  | storeCanary (offset : Int)
  | storeRegister (register : Fin 31) (offset : Int)
  deriving DecidableEq, Repr

/-- The members of `CallFrameManager`. -/
structure CallFrameManager where
  canariesEnabled : Bool
  activeVariableRegisters : List (Fin 31)
  usesGlobalPointers : Bool
  localsTotalSize : Int
  currentLocalsOffset : Int
  localDeclarations : List (String × Int)
  variableOffsets : List (String × Int)
  variableTypes : List (String × VarType)
  spillVariableOffsets : List (String × Int)
  spillAreaSize : Int
  nextSpillOffset : Int
  finalFrameSize : Int
  calleeSavedRegisters : List (Fin 31)
  isPrologueGenerated : Bool

/-- `get_size_for_type`. -/
def sizeForType : VarType -> Int
  | .pointerToFloatVec | .pointerToIntVec => 16
  | _ => 8

/-- `align_to_16`. -/
def alignTo16 (size : Int) : Int := (size + 15) / 16 * 16

/-- The range check of `create_stp_pre_imm` on 64-bit registers. -/
def createStpPreImm (immediate : Int) : Option PrologueInstruction :=
  if immediate < -512 ∨ immediate > 504 ∨ immediate % 8 ≠ 0 then none
  else some (.stpPre immediate)

/-- The range check of `create_str_imm` on 64-bit registers. -/
def storeOffsetEncodes (offset : Int) : Bool :=
  0 <= offset && offset <= 32760 && offset % 8 == 0

namespace CallFrameManager

/-- The space of the two canaries. -/
def canarySpace (manager : CallFrameManager) : Int :=
  if manager.canariesEnabled then 2 * canarySize else 0

/-- The offset at which the locals start. -/
def localsStart (manager : CallFrameManager) : Int := 16 + manager.canarySpace

/-- The constructor, `set_active_register_pool` and `setUsesGlobalPointers`. -/
def create (canariesEnabled useExtendedPool usesGlobalPointers : Bool) :
    CallFrameManager :=
  { canariesEnabled := canariesEnabled
    activeVariableRegisters :=
      if useExtendedPool then extendedVariableRegisters else variableRegisters
    usesGlobalPointers := usesGlobalPointers
    localsTotalSize := 0
    currentLocalsOffset := 16 + if canariesEnabled then 2 * canarySize else 0
    localDeclarations := []
    variableOffsets := []
    variableTypes := []
    spillVariableOffsets := []
    spillAreaSize := 0
    nextSpillOffset := 0
    finalFrameSize := 0
    calleeSavedRegisters := []
    isPrologueGenerated := false }

/-- `add_local`. -/
def addLocal (manager : CallFrameManager) (name : String) (type : VarType) :
    CallFrameManager :=
  match manager.variableOffsets.lookup name with
  | some _ => manager
  | none =>
      { manager with
        variableOffsets := (name, manager.currentLocalsOffset) :: manager.variableOffsets
        variableTypes := (name, type) :: manager.variableTypes
        currentLocalsOffset := manager.currentLocalsOffset + sizeForType type
        localsTotalSize := manager.localsTotalSize + sizeForType type
        localDeclarations := manager.localDeclarations ++ [(name, sizeForType type)] }

/-- `add_parameter`. -/
def addParameter (manager : CallFrameManager) (name : String) (type : VarType) :
    CallFrameManager :=
  manager.addLocal name type

/-- `preallocate_spill_slots`. -/
def preallocateSpillSlots (manager : CallFrameManager) (count : Int) : CallFrameManager :=
  if manager.isPrologueGenerated then manager
  else { manager with spillAreaSize := manager.spillAreaSize + count * 8 }

/-- Adding a register to the list unless it is there. -/
def markSaved (manager : CallFrameManager) (register : Fin 31) : CallFrameManager :=
  if register ∈ manager.calleeSavedRegisters then manager
  else
    { manager with
      calleeSavedRegisters := manager.calleeSavedRegisters ++ [register] }

/-- `force_save_register`. -/
def forceSaveRegister (manager : CallFrameManager) (register : Fin 31) :
    Option CallFrameManager :=
  if manager.isPrologueGenerated then none else some (manager.markSaved register)

/-- `reserve_registers_based_on_pressure`: the first registers of the pool. -/
def reserveRegistersBasedOnPressure (manager : CallFrameManager) (pressure : Int) :
    Option CallFrameManager :=
  if manager.isPrologueGenerated then none
  else some ((manager.activeVariableRegisters.take pressure.toNat).foldl markSaved manager)

/-- The list of the registers to save, as the prologue completes and sorts it. -/
def savedRegisters (manager : CallFrameManager) : List (Fin 31) :=
  let completed :=
    if manager.usesGlobalPointers then (manager.markSaved 19).markSaved 28 else manager
  completed.calleeSavedRegisters.insertionSort fun first second =>
    registerName first <= registerName second

/-- `final_frame_size` as the prologue computes it. -/
def frameSize (manager : CallFrameManager) : Int :=
  alignTo16 (manager.localsTotalSize + manager.savedRegisters.length * 8 + 16 +
    manager.canarySpace + manager.spillAreaSize)

/-- One step of the loop over the locals: the offsets so far and the next one. -/
def placeLocal (state : List (String × Int) × Int) (declaration : String × Int) :
    List (String × Int) × Int :=
  ((declaration.1, state.2) :: state.1, state.2 + declaration.2)

/-- One step of the loop over the saved registers. -/
def placeSaved (state : List (String × Int) × Int) (register : Fin 31) :
    List (String × Int) × Int :=
  match state.1.lookup (registerName register) with
  | some _ => state
  | none => ((registerName register, state.2) :: state.1, state.2 + 8)

/-- The offsets that the prologue assigns, and the first one it leaves free. -/
def assignOffsets (manager : CallFrameManager) : List (String × Int) × Int :=
  manager.savedRegisters.foldl placeSaved
    (manager.localDeclarations.foldl placeLocal ([], manager.localsStart))

/-- The instructions of the canaries. -/
def canaryInstructions (manager : CallFrameManager) : List PrologueInstruction :=
  if manager.canariesEnabled then
    [.loadCanary upperCanaryValue, .storeCanary 16, .loadCanary lowerCanaryValue,
      .storeCanary (16 + canarySize)]
  else []

/-- The stores of the saved registers. -/
def saveInstructions (offsets : List (String × Int)) :
    List (Fin 31) -> Option (List PrologueInstruction)
  | [] => some []
  | register :: rest => do
      let offset <- offsets.lookup (registerName register)
      if storeOffsetEncodes offset then
        let stores <- saveInstructions offsets rest
        return .storeRegister register offset :: stores
      else none

/-- `generate_prologue`; there is no result where it, or the encoder, throws. -/
def generatePrologue (manager : CallFrameManager) :
    Option (List PrologueInstruction × CallFrameManager) :=
  if manager.isPrologueGenerated then none
  else do
    let assigned := manager.assignOffsets
    let stp <- createStpPreImm (-manager.frameSize)
    let stores <- saveInstructions assigned.1 manager.savedRegisters
    return (stp :: .movFpSp :: (manager.canaryInstructions ++ stores),
      { manager with
        calleeSavedRegisters := manager.savedRegisters
        finalFrameSize := manager.frameSize
        variableOffsets := assigned.1
        nextSpillOffset := assigned.2
        isPrologueGenerated := true })

/-- The size of the slot that `get_spill_offset` makes for a name. -/
def spillSlotSize (manager : CallFrameManager) (name : String) : Int :=
  sizeForType ((manager.variableTypes.lookup name).getD .unknown)

/-- `get_spill_offset`. -/
def getSpillOffset (manager : CallFrameManager) (name : String) : Int × CallFrameManager :=
  match manager.spillVariableOffsets.lookup name with
  | some offset => (offset, manager)
  | none =>
      (manager.nextSpillOffset,
        { manager with
          spillVariableOffsets := (name, manager.nextSpillOffset) ::
            manager.spillVariableOffsets
          nextSpillOffset := manager.nextSpillOffset + manager.spillSlotSize name
          spillAreaSize := manager.spillAreaSize + manager.spillSlotSize name })

/-- `get_offset`; it throws for a name that has none. -/
def getOffset (manager : CallFrameManager) (name : String) : Option Int :=
  manager.variableOffsets.lookup name

/-- The operations before the prologue. -/
inductive Operation where
  | addParameter (name : String) (type : VarType)
  | addLocal (name : String) (type : VarType)
  | preallocateSpillSlots (count : Int)
  | reserveRegistersBasedOnPressure (pressure : Int)
  | forceSaveRegister (register : Fin 31)

/-- One operation. -/
def perform (manager : CallFrameManager) : Operation -> Option CallFrameManager
  | .addParameter name type => some (manager.addParameter name type)
  | .addLocal name type => some (manager.addLocal name type)
  | .preallocateSpillSlots count => some (manager.preallocateSpillSlots count)
  | .reserveRegistersBasedOnPressure pressure =>
      manager.reserveRegistersBasedOnPressure pressure
  | .forceSaveRegister register => manager.forceSaveRegister register

/-- Operations one after the other. -/
def performAll (manager : CallFrameManager) (operations : List Operation) :
    Option CallFrameManager :=
  operations.foldlM perform manager

/-- The state after spill slots have been asked for. -/
def spillAll (manager : CallFrameManager) (names : List String) : CallFrameManager :=
  names.foldl (fun current name => (current.getSpillOffset name).2) manager

/-- The slot of a local or a parameter. -/
def localRegion (manager : CallFrameManager) (declaration : String × Int) : Region :=
  { start := (manager.getOffset declaration.1).getD 0, size := declaration.2 }

/-- The slot of a saved register. -/
def savedRegion (manager : CallFrameManager) (register : Fin 31) : Region :=
  { start := (manager.getOffset (registerName register)).getD 0, size := 8 }

/-- The slot of a spilled value. -/
def spillRegion (manager : CallFrameManager) (slot : String × Int) : Region :=
  { start := slot.2, size := manager.spillSlotSize slot.1 }

/-- The saved pair of frame pointer and link register, and the canaries. -/
def fixedRegions (manager : CallFrameManager) : List Region :=
  { start := 0, size := 16 } ::
    if manager.canariesEnabled then
      [{ start := 16, size := canarySize }, { start := 16 + canarySize, size := canarySize }]
    else []

/-- Everything that a frame holds. -/
def regions (manager : CallFrameManager) : List Region :=
  manager.fixedRegions ++ manager.localDeclarations.map manager.localRegion ++
    manager.calleeSavedRegisters.map manager.savedRegion ++
    manager.spillVariableOffsets.map manager.spillRegion

end CallFrameManager

end Codegen
end NewBcpl
