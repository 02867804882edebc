import NewBcpl.Arm64.Machine
import NewBcpl.Codegen.CallMachine

namespace NewBcpl
namespace Codegen

open ManagedRegister

/-!
# The visitors of calls

`visit(RoutineCallStatement)` and `visit(FunctionCall)`. Every exception is `none`. AS_INT and its
three siblings are function calls only by their syntax and make no call.
-/

variable {World Rest : Type}

/-! ## What a call is made of -/

/-- Where the value of an argument comes from: the code of an expression, or the address of the
function whose name the argument is. -/
inductive ArgumentSource (World : Type) where
  | generated (generated : Generated World)
  | label (name : String)

/-- An argument: its value, the register in which it waits for its move, and the one that it is
to be passed in. -/
structure Argument (World : Type) where
  source : ArgumentSource World
  held : ManagedRegister
  dest : ManagedRegister

/-- What is called: a name, the entry of the runtime table at an offset, or the value of an
expression. -/
inductive Callee (World : Type) where
  | name (name : String)
  | table (offset : Nat) (register : Fin 31)
  | computed (generated : Generated World)

/-- A call: its arguments, the code that evaluates them, the moves to the registers of the call,
and the callee with the code that loads or computes its address. -/
structure GeneratedCall (World : Type) where
  arguments : List (Argument World)
  evaluation : List (CallInstruction World)
  moves : List (CallInstruction World)
  callee : Callee World
  calleeCode : List (CallInstruction World)

/-- Everything before the call. -/
def GeneratedCall.setup (call : GeneratedCall World) : List (CallInstruction World) :=
  call.evaluation ++ (call.moves ++ call.calleeCode)

/-! ## What the visitors consult -/

/-- `SymbolKind`. -/
inductive SymbolKind where
  | localVar | staticVar | globalVar | parameter | function | floatFunction | routine | label
  | manifest | runtimeFunction | runtimeFloatFunction | runtimeRoutine | runtimeFloatRoutine
  deriving DecidableEq, Repr

namespace SymbolKind

/-- `is_float_function`. -/
def isFloatFunction (kind : SymbolKind) : Bool :=
  kind = .floatFunction || kind = .runtimeFloatFunction || kind = .runtimeFloatRoutine

/-- `is_runtime_function`. -/
def isRuntimeFunction (kind : SymbolKind) : Bool :=
  kind = .runtimeFunction || kind = .runtimeFloatFunction

/-- `is_runtime_routine`. -/
def isRuntimeRoutine (kind : SymbolKind) : Bool :=
  kind = .runtimeRoutine || kind = .runtimeFloatRoutine

end SymbolKind

/-- A function of the `RuntimeManager`, with its offset in the table. -/
structure RuntimeFunction where
  isFloat : Bool
  address : Word
  offset : Nat
  deriving DecidableEq, Repr

/-- The other visitors and the tables: the symbol table, the analyzer's return types, metrics and
types of expressions, the runtime functions, and the address in the instruction stream. -/
structure Visitors (World Rest : Type) where
  generateExpressionCode : Expression -> GeneratorState Rest ->
    Option (Generated World × GeneratorState Rest)
  symbols : String -> Option SymbolKind
  returnTypes : String -> Option VarType
  functionMetrics : String -> Bool
  inferExpressionType : Expression -> VarType
  runtime : String -> Option RuntimeFunction
  currentAddress : GeneratorState Rest -> Word

/-- `codegen_utils::is_within_branch_range`. -/
def isWithinBranchRange (currentAddress targetAddress : Word) : Bool :=
  let offset := (targetAddress - currentAddress).toInt
  decide (-(2 ^ 25) <= offset) && decide (offset <= 2 ^ 25 - 1)

namespace Visitors

variable (visitors : Visitors World Rest)

/-! ## Moving the arguments -/

/-- The move of one argument to a register of the call, D or X with its index. `MOV` needs two
64-bit registers. -/
def moveArgument (isFloatCall : Bool) (index : Nat) (src : ResultRegister) :
    Option (ManagedRegister × List (CallInstruction World)) :=
  if isFloatCall then
    if small : index < 32 then
      let dest : Fin 32 := ⟨index, small⟩
      match src with
      | .d number => some (d dest, if number = dest then [] else [.fmovReg dest number])
      | .x number | .w number => some (d dest, [.scvtf dest number])
    else none
  else if small : index < 31 then
    let dest : Fin 31 := ⟨index, small⟩
    match src with
    | .d number => some (x dest, [.fcvtzs dest number])
    | .x number => some (x dest, if number = dest then [] else [.movReg dest number])
    | .w _ => none
  else none

/-- The loop of `moveArgumentsToCallRegisters`, and of step 2 of a function call: each argument
is moved from the register it is held in. -/
def moveArgumentsToCallRegisters (isFloatCall : Bool) (index : Nat) :
    List (Generated World × ResultRegister) ->
      Option (List (Argument World) × List (CallInstruction World))
  | [] => some ([], [])
  | (generated, src) :: rest => do
      let (dest, move) <- moveArgument isFloatCall index src
      let (arguments, moves) <- moveArgumentsToCallRegisters isFloatCall (index + 1) rest
      return ({ source := .generated generated, held := src.home, dest := dest } :: arguments,
        move ++ moves)

/-- The arguments of FPND that are not moved: each is passed in what its register holds. -/
def unmovedArguments (isFloatCall : Bool) (index : Nat) :
    List (Generated World × ResultRegister) -> Option (List (Argument World))
  | [] => some []
  | (generated, _) :: rest => do
      let (dest, _) <- @moveArgument World isFloatCall index (.x 0)
      let others <- unmovedArguments isFloatCall (index + 1) rest
      return { source := .generated generated, held := dest, dest := dest } :: others

/-- The number of FPND goes to D1. -/
def moveFpndNumber : ResultRegister -> List (CallInstruction World)
  | .d number => [.fmovReg 1 number]
  | .x number | .w number => [.scvtf 1 number]

/-- The moves for FPND: the list goes to X0, the number to D1, and no other argument is moved. -/
def moveFpndArguments (isFloatCall : Bool) :
    List (Generated World × ResultRegister) ->
      Option (List (Argument World) × List (CallInstruction World))
  | [] => some ([], [])
  | (list, src) :: rest => do
      let move <- match src with
        | .x number => some [.movReg 0 number]
        | _ => none
      let first : Argument World :=
        { source := .generated list, held := src.home, dest := x 0 }
      match rest with
      | [] => return ([first], move)
      | (number, numberSrc) :: others => do
          let second : Argument World :=
            { source := .generated number, held := numberSrc.home, dest := d 1 }
          let unmoved <- unmovedArguments isFloatCall 2 others
          return (first :: second :: unmoved, move ++ moveFpndNumber numberSrc)

/-! ## The callee -/

/-- A call through the runtime table, whose base is X19. The address goes to a scratch register,
for which others may be spilled. -/
def handleRuntimeCall (function : RuntimeFunction) (state : GeneratorState Rest) :
    Option (List (CallInstruction World) × Callee World × List (CallInstruction World)) := do
  let (register, spills, _) <- state.acquireScratchReg
  match register with
  | x addrReg =>
      if function.offset % 8 = 0 ∧ function.offset <= 32760 then
        return (spills.map fun spill => .strSpill spill.1 spill.2,
          .table function.offset addrReg, [.ldrImm addrReg 19 function.offset])
      else none
  | _ => none

/-- `handleGeneralRoutineCall`: the callee is evaluated after the moves. `BLR` needs a 64-bit
register. -/
def handleGeneralRoutineCall (routineExpr : Expression) (state : GeneratorState Rest) :
    Option (List (CallInstruction World) × Callee World × List (CallInstruction World)) := do
  let (generated, _) <- visitors.generateExpressionCode routineExpr state
  match generated.result with
  | .x _ => return ([], .computed generated, [.expression generated.code])
  | _ => none

/-! ## Routine calls -/

/-- `evaluateArguments`: the results stay in the registers where they are. -/
def evaluateArguments :
    List Expression -> GeneratorState Rest ->
      Option (List (Generated World) × GeneratorState Rest)
  | [], state => some ([], state)
  | argument :: rest, state => do
      let (generated, state) <- visitors.generateExpressionCode argument state
      let (others, state) <- evaluateArguments rest state
      return (generated :: others, state)

/-- `isFloatCallTarget`. -/
def isFloatCallTarget (routineExpr : Expression) : Bool :=
  match routineExpr with
  | .variableAccess name =>
      match visitors.symbols name with
      | some kind => kind.isFloatFunction
      | none =>
          match visitors.returnTypes name with
          | some type => type = .float
          | none =>
              match visitors.runtime name with
              | some function => function.isFloat
              | none => false
  | _ => false

/-- Step 5 of a routine call: runtime routines first, then the routines of the program. -/
def routineCallee (routineExpr : Expression) (state : GeneratorState Rest) :
    Option (List (CallInstruction World) × Callee World × List (CallInstruction World)) :=
  match routineExpr with
  | .variableAccess name =>
      match visitors.runtime name with
      | some function => handleRuntimeCall function state
      | none =>
          if visitors.functionMetrics name then some ([], .name name, [])
          else visitors.handleGeneralRoutineCall routineExpr state
  | _ => visitors.handleGeneralRoutineCall routineExpr state

/-- `visit(RoutineCallStatement)` up to the call. No caller-saved register is in use after the
reset, so none is saved. -/
def visitRoutineCallStatement (routineExpr : Expression) (arguments : List Expression)
    (state : GeneratorState Rest) : Option (GeneratedCall World) := do
  let (generated, state) <- visitors.evaluateArguments arguments state.resetCallerSavedRegisters
  let argResultRegs := generated.map Generated.result
  let isFloatCall := visitors.isFloatCallTarget routineExpr
  let (arguments, moves) <- moveArgumentsToCallRegisters isFloatCall 0
    (generated.zip argResultRegs)
  let (spills, callee, calleeCode) <- visitors.routineCallee routineExpr
    (state.releaseRegisters argResultRegs)
  return { arguments := arguments
           evaluation := generated.map fun argument => .expression argument.code
           moves := moves ++ spills
           callee := callee
           calleeCode := calleeCode }

/-! ## Function calls -/

/-- The copy of a result to a temporary register of its kind, with what is spilled for it. -/
def copyToTemporary (result : ResultRegister) (state : GeneratorState Rest) :
    Option (ResultRegister × List (CallInstruction World) × GeneratorState Rest) :=
  match result with
  | .d number => do
      let (register, spills, state) <- state.acquireSpillableFpTempReg
      match register with
      | d tempReg =>
          return (.d tempReg, (spills.map fun spill => .strSpill spill.1 spill.2) ++
            [.fmovReg tempReg number], state)
      | _ => none
  | .x number => do
      let (register, spills, state) <- state.acquireSpillableTempReg
      match register with
      | x tempReg =>
          return (.x tempReg, (spills.map fun spill => .strSpill spill.1 spill.2) ++
            [.movReg tempReg number], state)
      | _ => none
  | .w _ => none

/-- Step 1 of a function call: each result is copied to a temporary register before the next
argument is evaluated. -/
def evaluateIntoTemporaries :
    List Expression -> GeneratorState Rest ->
      Option (List (Generated World × ResultRegister) × List (CallInstruction World) ×
        GeneratorState Rest)
  | [], state => some ([], [], state)
  | argument :: rest, state => do
      let (generated, state) <- visitors.generateExpressionCode argument state
      let (tempReg, copy, state) <- copyToTemporary generated.result state
      let (others, code, state) <- evaluateIntoTemporaries rest state
      return ((generated, tempReg) :: others, .expression generated.code :: copy ++ code, state)

/-- Whether a function call is a float call. -/
def isFloatCall (functionExpr : Expression) : Bool :=
  match functionExpr with
  | .variableAccess name =>
      match visitors.symbols name with
      | some kind =>
          if kind.isFloatFunction then true
          else if kind.isRuntimeFunction || kind.isRuntimeRoutine then kind.isFloatFunction
          else false
      | none =>
          match visitors.returnTypes name with
          | some type => type = .float
          | none =>
              match visitors.runtime name with
              | some function => function.isFloat
              | none => false
  | _ => false

/-- The call of a function: the functions of the program first, then runtime functions, which
are called by name where the branch reaches them. -/
def functionCallee (functionExpr : Expression) (state : GeneratorState Rest) :
    Option (List (CallInstruction World) × Callee World × List (CallInstruction World)) :=
  match functionExpr with
  | .variableAccess name =>
      if visitors.functionMetrics name then some ([], .name name, [])
      else
        match visitors.runtime name with
        | some function =>
            let currentAddress := visitors.currentAddress state
            if function.address ≠ 0 ∧ currentAddress ≠ 0 ∧
                isWithinBranchRange currentAddress function.address then
              some ([], .name name, [])
            else handleRuntimeCall function state
        | none => visitors.handleGeneralRoutineCall functionExpr state
  | _ => visitors.handleGeneralRoutineCall functionExpr state

/-- The type tag of FIND. -/
def findTypeTag (type : VarType) : Word := if type = .float then 2 else 1

/-- FIND(list, value): the list is in X0 while the value is evaluated. `FMOV` to a general
register is rejected, so the value cannot be a floating-point number. -/
def visitFind (list value : Expression) (state : GeneratorState Rest) :
    Option (GeneratedCall World) := do
  let (generatedList, state) <- visitors.generateExpressionCode list state
  let .x listReg := generatedList.result | none
  let (generatedValue, _) <- visitors.generateExpressionCode value
    (state.releaseRegister generatedList.result)
  let .x valueReg := generatedValue.result | none
  return { arguments :=
             [{ source := .generated generatedList, held := x 0, dest := x 0 },
               { source := .generated generatedValue, held := x valueReg, dest := x 1 }]
           evaluation :=
             [.expression generatedList.code, .movReg 0 listReg,
               .expression generatedValue.code]
           moves := [.movReg 1 valueReg]
           callee := .name "FIND"
           calleeCode :=
             [.movzMovkAbs64 2 (findTypeTag (visitors.inferExpressionType value))] }

/-- MAP(list, function) and FILTER(list, predicate): the second argument must be a name. -/
def visitListFunction (name : String) (list function : Expression)
    (state : GeneratorState Rest) : Option (GeneratedCall World) := do
  let (generatedList, _) <- visitors.generateExpressionCode list state
  let .x listReg := generatedList.result | none
  let .variableAccess functionName := function | none
  return { arguments :=
             [{ source := .generated generatedList, held := x 0, dest := x 0 },
               { source := .label functionName, held := x 1, dest := x 1 }]
           evaluation := [.expression generatedList.code, .movReg 0 listReg]
           moves := [.adrpAddLiteral 1 functionName]
           callee := .name name
           calleeCode := [] }

/-- The function that gets its list in X0 and its number in D1. -/
def isFpnd : Expression -> Bool
  | .variableAccess name => name = "FPND"
  | _ => false

/-- Step 2 of a function call. -/
def moveFunctionArguments (functionExpr : Expression)
    (temporaries : List (Generated World × ResultRegister)) :
    Option (List (Argument World) × List (CallInstruction World)) :=
  let isFloatCall := visitors.isFloatCall functionExpr
  if isFpnd functionExpr then moveFpndArguments isFloatCall temporaries
  else moveArgumentsToCallRegisters isFloatCall 0 temporaries

/-- `visit(FunctionCall)` for all other names. -/
def visitGeneralCall (functionExpr : Expression) (arguments : List Expression)
    (state : GeneratorState Rest) : Option (GeneratedCall World) := do
  let (temporaries, evaluation, state) <- visitors.evaluateIntoTemporaries arguments state
  let (arguments, moves) <- visitors.moveFunctionArguments functionExpr temporaries
  let (spills, callee, calleeCode) <- visitors.functionCallee functionExpr
    (state.releaseRegisters (temporaries.map Prod.snd))
  return { arguments := arguments
           evaluation := evaluation
           moves := moves ++ spills
           callee := callee
           calleeCode := calleeCode }

/-- `visit(FunctionCall)` up to the call. -/
def visitFunctionCall (functionExpr : Expression) (arguments : List Expression)
    (state : GeneratorState Rest) : Option (GeneratedCall World) :=
  match functionExpr, arguments with
  | .variableAccess "AS_INT", _ => none
  | .variableAccess "AS_FLOAT", _ => none
  | .variableAccess "AS_STRING", _ => none
  | .variableAccess "AS_LIST", _ => none
  | .variableAccess "FIND", [list, value] => visitors.visitFind list value state
  | .variableAccess "MAP", [list, function] =>
      visitors.visitListFunction "MAP" list function state
  | .variableAccess "FILTER", [list, predicate] =>
      visitors.visitListFunction "FILTER" list predicate state
  | _, _ => visitors.visitGeneralCall functionExpr arguments state

end Visitors

end Codegen
end NewBcpl
