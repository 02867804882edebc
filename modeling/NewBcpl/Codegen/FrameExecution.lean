import NewBcpl.Arm64.Machine
import NewBcpl.Codegen.FrameLayout
import NewBcpl.Codegen.RegisterManager
import NewBcpl.Foundations.LabelledRuns

namespace NewBcpl
namespace Codegen

open Foundations Arm64

/-!
# The run of a prologue and of an epilogue

`generate_function_like_code` registers the contents of a frame, emits the
prologue, the body and the epilogue, and the epilogue is generated from what the
prologue left in the frame manager. Both are run on a machine with the
floating-point registers. The store of a pair with pre-indexing is written as the
subtraction and the two stores that it performs.
-/

/-- `create_movz_movk_abs64`: the nonzero chunks, the first one with MOVZ. -/
def createMovzMovkAbs64 (dest : Register) (address : Word) : List Instruction :=
  if address = 0#64 then [.movz dest 0#16 0]
  else
    let chunks := [(address.extractLsb' 0 16, 0), (address.extractLsb' 16 16, 16),
      (address.extractLsb' 32 16, 32), (address.extractLsb' 48 16, 48)]
    match chunks.filter fun chunk => chunk.1 != 0#16 with
    | [] => []
    | (chunk, shift) :: rest =>
        .movz dest chunk shift :: rest.map fun next => .movk dest next.1 next.2

/-- The words of a prologue instruction. -/
def PrologueInstruction.words : PrologueInstruction -> List Instruction
  | .stpPre immediate =>
      [.subImm .sp .sp (-immediate).toNat, .str (.x 29) .sp 0, .str (.x 30) .sp 8]
  | .movFpSp => [.addImm (.x 29) .sp 0]
  | .loadCanary value => createMovzMovkAbs64 (.x 9) value
  | .storeCanary offset => [.str (.x 9) (.x 29) offset]
  | .storeRegister register offset => [.str (.x register) (.x 29) offset]

/-- The instructions of an epilogue. -/
inductive EpilogueInstruction where
  | operation (instruction : Instruction)
  | branchIf (condition : Condition) (label : String)
  | label (label : String)
  | ret
  | brk (immediate : Nat)
  deriving DecidableEq, Repr

namespace CallFrameManager

/-- The loads of the saved registers; `variable_offsets.at` and the encoder throw. -/
def restoreInstructions (offsets : List (String × Int)) :
    List (Fin 31) -> Option (List EpilogueInstruction)
  | [] => some []
  | register :: rest => do
      let offset <- offsets.lookup (registerName register)
      if storeOffsetEncodes offset then
        let loads <- restoreInstructions offsets rest
        return .operation (.ldr (.x register) (.x 29) offset) :: loads
      else none

/-- The check of one canary. -/
def canaryCheck (offset : Int) (value : Word) (label : String) : List EpilogueInstruction :=
  .operation (.ldr (.x 10) (.x 29) offset) ::
    ((createMovzMovkAbs64 (.x 11) value).map .operation ++
      [.operation (.cmp (.x 10) (.x 11)), .branchIf .ne label])

/-- The labels of the two failure handlers. -/
def upperHandler (functionName : String) : String := functionName ++ "_stackprot_upper"

def lowerHandler (functionName : String) : String := functionName ++ "_stackprot_lower"

/-- The checks of both canaries. -/
def canaryChecks (manager : CallFrameManager) (functionName : String) :
    List EpilogueInstruction :=
  if manager.canariesEnabled then
    canaryCheck 16 upperCanaryValue (upperHandler functionName) ++
      canaryCheck (16 + canarySize) lowerCanaryValue (lowerHandler functionName)
  else []

/-- The normal return path. -/
def returnPath : List EpilogueInstruction :=
  [.operation (.addImm .sp (.x 29) 0), .operation (.ldr (.x 29) .sp 0),
    .operation (.ldr (.x 30) .sp 8), .operation (.addImm .sp .sp 16), .ret]

/-- The failure handlers behind it. -/
def failureHandlers (manager : CallFrameManager) (functionName : String) :
    List EpilogueInstruction :=
  if manager.canariesEnabled then
    [.label (upperHandler functionName), .brk 0, .label (lowerHandler functionName), .brk 0]
  else []

/-- `generate_epilogue`. -/
def generateEpilogue (manager : CallFrameManager) (functionName : String) :
    Option (List EpilogueInstruction) :=
  if manager.isPrologueGenerated then do
    let restores <-
      restoreInstructions manager.variableOffsets manager.calleeSavedRegisters
    return restores ++ manager.canaryChecks functionName ++ returnPath ++
      manager.failureHandlers functionName
  else none

end CallFrameManager

/-- `get_in_use_callee_saved_registers`. -/
def RegisterManager.getInUseCalleeSavedRegisters (manager : RegisterManager) :
    List (Fin 31) :=
  extendedVariableRegisters.filter fun register =>
    manager.status (.x register) != .absent && manager.status (.x register) != .free

/-- What `generate_function_like_code` takes from the declaration and the metrics of a
function or routine: its name, the parameters and the variables with their types, the
number of live variables, the access to globals, and whether canaries are on. -/
structure FunctionLike where
  name : String
  parameters : List (String × VarType)
  variableTypes : List (String × VarType)
  maxLiveVariables : Nat
  accessesGlobals : Bool
  canariesEnabled : Bool

namespace FunctionLike

open CallFrameManager

/-- The calls to the frame manager before the prologue. -/
def frameOperations (function : FunctionLike) : List CallFrameManager.Operation :=
  function.parameters.map (fun parameter => .addParameter parameter.1 parameter.2) ++
    (function.variableTypes.filter fun entry =>
      !(function.parameters.map Prod.fst).contains entry.1).map
      (fun entry => .addLocal entry.1 entry.2) ++
    (if function.maxLiveVariables > variableRegisters.length then
      [.preallocateSpillSlots (function.maxLiveVariables - variableRegisters.length : Nat)]
    else []) ++
    [.reserveRegistersBasedOnPressure function.maxLiveVariables] ++
    if function.accessesGlobals then []
    else RegisterManager.resetForNewFunction.getInUseCalleeSavedRegisters.map .forceSaveRegister

/-- The frame manager when the prologue is generated. -/
def frame (function : FunctionLike) : Option CallFrameManager :=
  (create function.canariesEnabled (!function.accessesGlobals)
    function.accessesGlobals).performAll function.frameOperations

end FunctionLike

/-- The registers and the memory that a function works on. -/
structure ThreadState where
  core : Machine
  d : Fin 32 -> Word

namespace ThreadState

/-- One word of the prologue or the epilogue; none of them is a call. -/
def perform (state : ThreadState) (instruction : Instruction) : ThreadState :=
  { state with core := Arm64.perform (fun _ machine => machine) instruction state.core }

/-- Words one after another. -/
def performAll (state : ThreadState) (instructions : List Instruction) : ThreadState :=
  instructions.foldl perform state

/-- The run of a prologue. -/
def runPrologue (state : ThreadState) (prologue : List PrologueInstruction) : ThreadState :=
  state.performAll (prologue.flatMap PrologueInstruction.words)

end ThreadState

/-- Where control goes: a label of the function, the address of a return, or the
handler of a breakpoint exception. -/
inductive Destination where
  | name (label : String)
  | address (address : Word)
  | breakpoint
  deriving DecidableEq, Repr

/-- The meaning of an epilogue instruction. -/
def EpilogueInstruction.item :
    EpilogueInstruction -> LabelledRuns.Item Destination ThreadState
  | .operation instruction => .action fun state => .next (state.perform instruction)
  | .branchIf condition target => .action fun state =>
      if condition.holds state.core.flags then .jump (.name target) state else .next state
  | .label name => .label (.name name)
  | .ret => .action fun state => .jump (.address (state.core.read (.x 30))) state
  | .brk _ => .action fun state => .jump .breakpoint state

/-- The epilogue as a program. -/
def epilogueProgram (epilogue : List EpilogueInstruction) :
    LabelledRuns.Program Destination ThreadState :=
  epilogue.map EpilogueInstruction.item

/-- A run of the epilogue leaves it through a return to an address. -/
def Returns (epilogue : List EpilogueInstruction) (state : ThreadState) (address : Word)
    (after : ThreadState) : Prop :=
  exists fuel, (LabelledRuns.runFrom (epilogueProgram epilogue) fuel none state).stop =
    .lost (.address address) after

/-- A function from its entry to its return. The body is any code, with its stores of
the arguments, its calls and its spills, that leaves the frame pointer alone. -/
structure FunctionRun (function : FunctionLike) where
  prepared : CallFrameManager
  prologue : List PrologueInstruction
  generated : CallFrameManager
  spills : List String
  epilogue : List EpilogueInstruction
  entry : ThreadState
  bodyEnd : ThreadState
  address : Word
  after : ThreadState
  frame : function.frame = some prepared
  generatesPrologue : prepared.generatePrologue = some (prologue, generated)
  generatesEpilogue :
    (generated.spillAll spills).generateEpilogue function.name = some epilogue
  keepsFramePointer :
    bodyEnd.core.read (.x 29) = (entry.runPrologue prologue).core.read (.x 29)
  returns : Returns epilogue bodyEnd address after

/-- What a caller relies on. -/
structure CalleeStateRestored {function : FunctionLike} (run : FunctionRun function) :
    Prop where
  stackPointer : run.after.core.read .sp = run.entry.core.read .sp
  framePointer : run.after.core.read (.x 29) = run.entry.core.read (.x 29)
  general : forall register : Fin 31, 19 <= register.val -> register.val <= 28 ->
    run.after.core.read (.x register) = run.entry.core.read (.x register)
  floating : forall register : Fin 32, 8 <= register.val -> register.val <= 15 ->
    run.after.d register = run.entry.d register
  returnAddress : run.address = run.entry.core.read (.x 30)

section FrameSizes

open CallFrameManager

/-- What holds of the frame manager of a function before its prologue. -/
structure Moderate (manager : CallFrameManager) : Prop where
  spills : 0 <= manager.spillAreaSize
  pool : forall register, register ∈ manager.activeVariableRegisters ->
    19 <= register.val ∧ register.val <= 28
  saved : forall register, register ∈ manager.calleeSavedRegisters ->
    19 <= register.val ∧ register.val <= 28

/-- The operations that a function performs on its frame. -/
def Ordinary : CallFrameManager.Operation -> Prop
  | .preallocateSpillSlots count => 0 <= count
  | .forceSaveRegister register => 19 <= register.val ∧ register.val <= 28
  | _ => True

/-- A step that forgets no saved register and not what the function uses. -/
structure Advances (before after : CallFrameManager) : Prop where
  globals : after.usesGlobalPointers = before.usesGlobalPointers
  keeps : forall register, register ∈ before.calleeSavedRegisters ->
    register ∈ after.calleeSavedRegisters

theorem Advances.refl (manager : CallFrameManager) : Advances manager manager :=
  ⟨rfl, fun _ member => member⟩

theorem Advances.trans {before middle after : CallFrameManager}
    (first : Advances before middle) (second : Advances middle after) :
    Advances before after :=
  ⟨second.globals.trans first.globals,
    fun register member => second.keeps register (first.keeps register member)⟩

theorem markSaved_mem {manager : CallFrameManager} {register other : Fin 31} :
    other ∈ (manager.markSaved register).calleeSavedRegisters <->
      other ∈ manager.calleeSavedRegisters ∨ other = register := by
  unfold markSaved
  split
  · rename_i member
    constructor
    · exact Or.inl
    · rintro (old | rfl)
      · exact old
      · exact member
  · rw [List.mem_append, List.mem_singleton]

theorem markSaved_moderate {manager : CallFrameManager} (moderate : Moderate manager)
    {register : Fin 31} (range : 19 <= register.val ∧ register.val <= 28) :
    Moderate (manager.markSaved register) ∧ Advances manager (manager.markSaved register) := by
  have parts : (manager.markSaved register).spillAreaSize = manager.spillAreaSize ∧
      (manager.markSaved register).activeVariableRegisters =
        manager.activeVariableRegisters ∧
      (manager.markSaved register).usesGlobalPointers = manager.usesGlobalPointers := by
    unfold markSaved
    split <;> exact ⟨rfl, rfl, rfl⟩
  refine ⟨⟨parts.1 ▸ moderate.spills, parts.2.1 ▸ moderate.pool, ?_⟩, parts.2.2,
    fun other member => markSaved_mem.mpr (Or.inl member)⟩
  intro other member
  rcases markSaved_mem.mp member with old | rfl
  · exact moderate.saved other old
  · exact range

theorem foldl_markSaved_moderate {registers : List (Fin 31)}
    (range : forall register, register ∈ registers ->
      19 <= register.val ∧ register.val <= 28)
    {manager : CallFrameManager} (moderate : Moderate manager) :
    Moderate (registers.foldl markSaved manager) ∧
      Advances manager (registers.foldl markSaved manager) := by
  induction registers generalizing manager with
  | nil => exact ⟨moderate, Advances.refl manager⟩
  | cons register rest ih =>
      rcases markSaved_moderate moderate (range register List.mem_cons_self) with
        ⟨marked, advances⟩
      rcases ih (fun other member => range other (List.mem_cons_of_mem _ member)) marked with
        ⟨afterModerate, restAdvances⟩
      exact ⟨afterModerate, advances.trans restAdvances⟩

theorem addLocal_moderate {manager : CallFrameManager} (moderate : Moderate manager)
    (name : String) (type : VarType) :
    Moderate (manager.addLocal name type) ∧
      Advances manager (manager.addLocal name type) := by
  unfold addLocal
  split
  · exact ⟨moderate, Advances.refl manager⟩
  · exact ⟨⟨moderate.spills, moderate.pool, moderate.saved⟩, rfl, fun _ member => member⟩

/-- One operation keeps the frame manager moderate. -/
theorem perform_moderate {manager after : CallFrameManager} (moderate : Moderate manager)
    {operation : CallFrameManager.Operation} (ordinary : Ordinary operation)
    (performs : manager.perform operation = some after) :
    Moderate after ∧ Advances manager after := by
  cases operation with
  | addParameter name type =>
      cases performs
      exact addLocal_moderate moderate name type
  | addLocal name type =>
      cases performs
      exact addLocal_moderate moderate name type
  | preallocateSpillSlots count =>
      cases performs
      unfold preallocateSpillSlots
      split
      · exact ⟨moderate, Advances.refl manager⟩
      · have nonneg : 0 <= count := ordinary
        have spills := moderate.spills
        have grown : 0 <= manager.spillAreaSize + count * 8 := by omega
        exact ⟨⟨grown, moderate.pool, moderate.saved⟩, rfl, fun _ member => member⟩
  | reserveRegistersBasedOnPressure pressure =>
      change manager.reserveRegistersBasedOnPressure pressure = some after at performs
      unfold reserveRegistersBasedOnPressure at performs
      split at performs
      · cases performs
      · cases performs
        exact foldl_markSaved_moderate (fun register member =>
          moderate.pool register (List.mem_of_mem_take member)) moderate
  | forceSaveRegister register =>
      change manager.forceSaveRegister register = some after at performs
      unfold forceSaveRegister at performs
      split at performs
      · cases performs
      · cases performs
        exact markSaved_moderate moderate ordinary

theorem performAll_moderate {operations : List CallFrameManager.Operation}
    (ordinary : forall operation, operation ∈ operations -> Ordinary operation)
    {manager after : CallFrameManager} (moderate : Moderate manager)
    (performs : manager.performAll operations = some after) :
    Moderate after ∧ Advances manager after := by
  induction operations generalizing manager with
  | nil =>
      cases performs
      exact ⟨moderate, Advances.refl _⟩
  | cons operation rest ih =>
      unfold CallFrameManager.performAll at performs
      rw [List.foldlM_cons, Option.bind_eq_bind, Option.bind_eq_some_iff] at performs
      rcases performs with ⟨middle, first, performsRest⟩
      rcases perform_moderate moderate (ordinary operation List.mem_cons_self) first with
        ⟨middleModerate, advances⟩
      rcases ih (fun other member => ordinary other (List.mem_cons_of_mem _ member))
        middleModerate performsRest with ⟨afterModerate, restAdvances⟩
      exact ⟨afterModerate, advances.trans restAdvances⟩

/-- Right after the reset the register of the data segment counts as in use. -/
theorem inUse_reset :
    RegisterManager.resetForNewFunction.getInUseCalleeSavedRegisters = [28] := by
  decide

theorem frameOperations_ordinary (function : FunctionLike)
    {operation : CallFrameManager.Operation}
    (member : operation ∈ function.frameOperations) : Ordinary operation := by
  unfold FunctionLike.frameOperations at member
  simp only [List.mem_append] at member
  rcases member with (((isParameter | isVariable) | isSpill) | isReserve) | isForce
  · rcases List.mem_map.mp isParameter with ⟨_, _, rfl⟩
    trivial
  · rcases List.mem_map.mp isVariable with ⟨_, _, rfl⟩
    trivial
  · split at isSpill
    · rw [List.mem_singleton.mp isSpill]
      exact Int.natCast_nonneg _
    · cases isSpill
  · rw [List.mem_singleton.mp isReserve]
    trivial
  · split at isForce
    · cases isForce
    · rw [inUse_reset] at isForce
      rw [List.mem_singleton.mp isForce]
      exact ⟨by decide, by decide⟩

theorem create_moderate (function : FunctionLike) :
    Moderate (create function.canariesEnabled (!function.accessesGlobals)
      function.accessesGlobals) := by
  refine ⟨Int.le_refl 0, ?_, fun _ member => nomatch member⟩
  have small : forall register, register ∈ variableRegisters ->
      19 <= register.val ∧ register.val <= 28 := by decide
  have extended : forall register, register ∈ extendedVariableRegisters ->
      19 <= register.val ∧ register.val <= 28 := by decide
  intro register member
  unfold create at member
  dsimp only at member
  split at member
  · exact extended register member
  · exact small register member

/-- The register of the data segment is saved by every function. -/
theorem saves_dataBase {function : FunctionLike} {prepared : CallFrameManager}
    (frame : function.frame = some prepared) : 28 ∈ prepared.savedRegisters := by
  have advances := (performAll_moderate
    (fun _ member => frameOperations_ordinary function member) (create_moderate function)
    frame).2
  unfold savedRegisters
  rw [List.mem_insertionSort]
  split
  · exact markSaved_mem.mpr (Or.inr rfl)
  · rename_i noGlobals
    rw [advances.globals] at noGlobals
    have accesses : function.accessesGlobals = false := by
      simpa [create] using noGlobals
    have notAccesses : ¬ function.accessesGlobals = true := by
      rw [accesses]
      exact Bool.false_ne_true
    unfold FunctionLike.frame FunctionLike.frameOperations CallFrameManager.performAll
      at frame
    rw [if_neg notAccesses, inUse_reset, List.foldlM_append, Option.bind_eq_bind,
      Option.bind_eq_some_iff] at frame
    rcases frame with ⟨before, _, last⟩
    change (before.forceSaveRegister 28).bind some = some prepared at last
    unfold forceSaveRegister at last
    split at last
    · cases last
    · cases last
      exact markSaved_mem.mpr (Or.inr rfl)

/-- No frame is as small as the saved pair. -/
theorem frameSize_ge {function : FunctionLike} {prepared : CallFrameManager}
    (frame : function.frame = some prepared) : 32 <= prepared.frameSize := by
  have moderate := (performAll_moderate
    (fun _ member => frameOperations_ordinary function member) (create_moderate function)
    frame).1
  rcases performAll_prepared (create_prepared function.canariesEnabled
    (!function.accessesGlobals) function.accessesGlobals) function.frameOperations with
    ⟨other, performs, isPrepared, _⟩
  have same : some other = some prepared := performs.symm.trans frame
  rw [Option.some.injEq] at same
  rw [same] at isPrepared
  have locals := (localSizes_positive isPrepared).sum_nonneg
  rw [<- isPrepared.total] at locals
  have spills := moderate.spills
  have saved := List.length_pos_of_mem (saves_dataBase frame)
  have canaries : 0 <= prepared.canarySpace := by
    unfold canarySpace canarySize
    split <;> simp
  unfold frameSize alignTo16
  omega

end FrameSizes

end Codegen
end NewBcpl
