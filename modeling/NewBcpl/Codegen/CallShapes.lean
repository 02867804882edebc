import NewBcpl.Codegen.CallDelivery

namespace NewBcpl
namespace Codegen

open ManagedRegister
open Foundations.SequentialMoves

/-!
# The calls of the visitors

Every call that the two visitors make is assembled: argument i goes to the register with the
number i, the code between the evaluation and the call consists of the moves, and the address is
loaded into a register that passes no argument. From this the condition of `CallDelivery` holds
for routine and function calls.
-/

variable {World Rest : Type} {platform : Platform}

/-! ## The moves -/

/-- A list of arguments from an index on, and the code that moves them. -/
structure Moved (platform : Platform) (index : Nat) (arguments : List (Argument World))
    (moves : List (CallInstruction World)) : Prop where
  numbered : arguments.map (fun argument => argument.dest.number) =
    List.range' index arguments.length
  runs : forall before, exists after, executeCall platform moves before = some after ∧
    after.registers = run (arguments.map (Argument.move platform)) before.registers

/-- Code that does what the move of one argument does. -/
def MovesOne (platform : Platform) (argument : Argument World)
    (move : List (CallInstruction World)) : Prop :=
  forall before, exists after, executeCall platform move before = some after ∧
    after.registers = apply (argument.move platform) before.registers

theorem Moved.nil (index : Nat) : Moved platform index ([] : List (Argument World)) [] :=
  ⟨rfl, fun before => ⟨before, rfl, rfl⟩⟩

theorem Moved.cons {index : Nat} {argument : Argument World} {arguments : List (Argument World)}
    {move moves : List (CallInstruction World)} (number : argument.dest.number = index)
    (one : MovesOne platform argument move) (rest : Moved platform (index + 1) arguments moves) :
    Moved platform index (argument :: arguments) (move ++ moves) := by
  constructor
  · rw [List.map_cons, rest.numbered, number, List.length_cons, List.range'_succ]
  · intro before
    rcases one before with ⟨middle, first, registers⟩
    rcases rest.runs middle with ⟨after, second, final⟩
    refine ⟨after, ?_, ?_⟩
    · rw [executeCall_append, first]
      exact second
    · rw [final, registers, List.map_cons, run_cons]

/-- An argument that waits in its own register needs no move. -/
theorem movesOne_inPlace {generated : Generated World} {register : ManagedRegister} :
    MovesOne platform
      { source := .generated generated, held := register, dest := register } [] := by
  intro before
  refine ⟨before, rfl, ?_⟩
  have same : conversion platform register register = id := by
    cases register <;> rfl
  change before.registers = Function.update before.registers register
    (conversion platform register register (before.registers register))
  rw [same, id_eq, Function.update_eq_self]

theorem moveArgument_moved {isFloatCall : Bool} {index : Nat} {src : ResultRegister}
    {dest : ManagedRegister} {move : List (CallInstruction World)}
    (made : Visitors.moveArgument isFloatCall index src = some (dest, move))
    (generated : Generated World) :
    dest.number = index ∧ MovesOne platform
      { source := .generated generated, held := src.home, dest := dest } move := by
  unfold Visitors.moveArgument at made
  split at made
  · split at made
    · cases src with
      | d number =>
          simp only [Option.some.injEq, Prod.mk.injEq] at made
          rcases made with ⟨rfl, rfl⟩
          refine ⟨rfl, ?_⟩
          split
          · rename_i same
            subst same
            exact movesOne_inPlace
          · exact fun before => ⟨_, rfl, rfl⟩
      | x number =>
          cases made
          exact ⟨rfl, fun before => ⟨_, rfl, rfl⟩⟩
      | w number =>
          cases made
          exact ⟨rfl, fun before => ⟨_, rfl, rfl⟩⟩
    · cases made
  · split at made
    · cases src with
      | d number =>
          cases made
          exact ⟨rfl, fun before => ⟨_, rfl, rfl⟩⟩
      | x number =>
          simp only [Option.some.injEq, Prod.mk.injEq] at made
          rcases made with ⟨rfl, rfl⟩
          refine ⟨rfl, ?_⟩
          split
          · rename_i same
            subst same
            exact movesOne_inPlace
          · exact fun before => ⟨_, rfl, rfl⟩
      | w number => cases made
    · cases made

theorem moveArgumentsToCallRegisters_moved {isFloatCall : Bool} {index : Nat}
    {held : List (Generated World × ResultRegister)} {arguments : List (Argument World)}
    {moves : List (CallInstruction World)}
    (made : Visitors.moveArgumentsToCallRegisters isFloatCall index held =
      some (arguments, moves)) :
    Moved platform index arguments moves ∧ arguments.length = held.length := by
  induction held generalizing index arguments moves with
  | nil =>
      cases made
      exact ⟨Moved.nil index, rfl⟩
  | cons first rest inductionHypothesis =>
      rcases first with ⟨generated, src⟩
      simp only [Visitors.moveArgumentsToCallRegisters, Option.bind_eq_bind, Option.pure_def,
        Option.bind_eq_some_iff, Prod.exists, Option.some.injEq, Prod.mk.injEq] at made
      rcases made with ⟨dest, move, one, others, otherMoves, later, rfl, rfl⟩
      rcases moveArgument_moved one generated with ⟨number, moves⟩
      rcases inductionHypothesis later with ⟨moved, sameLength⟩
      exact ⟨Moved.cons number moves moved, congrArg Nat.succ sameLength⟩

theorem unmovedArguments_moved {isFloatCall : Bool} {index : Nat}
    {held : List (Generated World × ResultRegister)} {arguments : List (Argument World)}
    (made : Visitors.unmovedArguments isFloatCall index held = some arguments) :
    Moved platform index arguments [] ∧ arguments.length = held.length := by
  induction held generalizing index arguments with
  | nil =>
      cases made
      exact ⟨Moved.nil index, rfl⟩
  | cons first rest inductionHypothesis =>
      rcases first with ⟨generated, src⟩
      simp only [Visitors.unmovedArguments, Option.bind_eq_bind, Option.pure_def,
        Option.bind_eq_some_iff, Prod.exists, Option.some.injEq] at made
      rcases made with ⟨dest, move, one, others, later, rfl⟩
      have number := (@moveArgument_moved World platform _ _ _ _ _ one generated).1
      rcases inductionHypothesis later with ⟨moved, sameLength⟩
      exact ⟨Moved.cons number movesOne_inPlace moved, congrArg Nat.succ sameLength⟩

theorem moveFpndArguments_moved {isFloatCall : Bool}
    {held : List (Generated World × ResultRegister)} {arguments : List (Argument World)}
    {moves : List (CallInstruction World)}
    (made : Visitors.moveFpndArguments isFloatCall held = some (arguments, moves)) :
    Moved platform 0 arguments moves ∧ arguments.length = held.length := by
  cases held with
  | nil =>
      cases made
      exact ⟨Moved.nil 0, rfl⟩
  | cons first rest =>
      rcases first with ⟨list, src⟩
      cases src with
      | w number => cases made
      | d number => cases made
      | x listReg =>
          have movesList : MovesOne platform
              { source := .generated list, held := x listReg, dest := x 0 }
              [.movReg 0 listReg] :=
            fun before => ⟨_, rfl, rfl⟩
          cases rest with
          | nil =>
              cases made
              exact ⟨Moved.cons rfl movesList (Moved.nil 1), rfl⟩
          | cons second others =>
              rcases second with ⟨number, numberSrc⟩
              simp only [Visitors.moveFpndArguments, ResultRegister.home, Option.bind_eq_bind,
                Option.pure_def, Option.bind_some, Option.bind_eq_some_iff, Option.some.injEq,
                Prod.mk.injEq] at made
              rcases made with ⟨unmoved, later, rfl, rfl⟩
              rcases unmovedArguments_moved later with ⟨moved, sameLength⟩
              have movesNumber : MovesOne platform
                  { source := .generated number, held := numberSrc.home, dest := d 1 }
                  (Visitors.moveFpndNumber numberSrc) := by
                cases numberSrc with
                | d number => exact fun before => ⟨_, rfl, rfl⟩
                | x number => exact fun before => ⟨_, rfl, rfl⟩
                | w number => exact fun before => ⟨_, rfl, rfl⟩
              have rest := @Moved.cons World platform 1 _ _ _ _ rfl movesNumber moved
              rw [List.append_nil] at rest
              exact ⟨Moved.cons rfl movesList rest, congrArg (· + 2) sameLength⟩

/-! ## The callee -/

/-- What comes after the moves: stores of spilled registers, and the code that loads the address
of the callee. -/
structure LoadsCallee (platform : Platform) (spills : List (CallInstruction World))
    (callee : Callee World) (code : List (CallInstruction World)) : Prop where
  spills : forall before, exists after, executeCall platform spills before = some after ∧
    after.registers = before.registers
  callee : match callee with
    | .name _ => code = []
    | .table offset register => code = [.ldrImm register 19 offset] ∧ 8 <= register.val
    | .computed generated => code = [.expression generated.code]

theorem LoadsCallee.name (name : String) :
    LoadsCallee platform [] (.name name : Callee World) [] :=
  ⟨fun before => ⟨before, rfl, rfl⟩, rfl⟩

/-- An acquired register is of the pool. -/
theorem GeneratorState.acquire_pool
    {operation : RegisterManager -> Except AcquireFailure Acquisition}
    {pool : List ManagedRegister}
    {keeps : forall {manager : RegisterManager}, manager.Pooled ->
      forall {acquisition : Acquisition}, operation manager = .ok acquisition ->
        acquisition.register ∈ pool ∧ acquisition.manager.Pooled}
    {state after : GeneratorState Rest} {register : ManagedRegister}
    {spills : List (ManagedRegister × String)}
    (acquired : state.acquire operation pool keeps = some (register, spills, after)) :
    register ∈ pool := by
  unfold GeneratorState.acquire at acquired
  split at acquired
  · cases acquired
  · rename_i acquisition taken
    simp only [Option.some.injEq, Prod.mk.injEq] at acquired
    rw [<- acquired.1]
    exact (keeps state.pooled taken).1

/-- No register that addresses and temporaries are put into passes one of eight arguments. -/
theorem pool_number {register : ManagedRegister}
    (pool : register ∈ scratchRegs ++ variableRegs) : 8 <= register.number := by
  have all : forall other, other ∈ scratchRegs ++ variableRegs -> 8 <= other.number := by
    decide
  exact all register pool

theorem handleRuntimeCall_loads {function : RuntimeFunction} {state : GeneratorState Rest}
    {spills code : List (CallInstruction World)} {callee : Callee World}
    (made : Visitors.handleRuntimeCall function state = some (spills, callee, code)) :
    LoadsCallee platform spills callee code := by
  simp only [Visitors.handleRuntimeCall, Option.bind_eq_bind, Option.pure_def,
    Option.bind_eq_some_iff, Prod.exists] at made
  rcases made with ⟨register, stored, after, acquired, made⟩
  have pool := pool_number (GeneratorState.acquire_pool acquired)
  cases register with
  | d number => cases made
  | v number => cases made
  | x addrReg =>
      simp only at made
      split at made
      · cases made
        exact ⟨executeCall_spills platform stored, rfl, pool⟩
      · cases made

theorem handleGeneralRoutineCall_loads {visitors : Visitors World Rest}
    {routineExpr : Expression} {state : GeneratorState Rest}
    {spills code : List (CallInstruction World)} {callee : Callee World}
    (made : visitors.handleGeneralRoutineCall routineExpr state = some (spills, callee, code)) :
    LoadsCallee platform spills callee code := by
  simp only [Visitors.handleGeneralRoutineCall, Option.bind_eq_bind, Option.pure_def,
    Option.bind_eq_some_iff, Prod.exists] at made
  rcases made with ⟨generated, after, _, made⟩
  split at made
  · cases made
    exact ⟨fun before => ⟨before, rfl, rfl⟩, rfl⟩
  · cases made

theorem routineCallee_loads {visitors : Visitors World Rest} {routineExpr : Expression}
    {state : GeneratorState Rest} {spills code : List (CallInstruction World)}
    {callee : Callee World}
    (made : visitors.routineCallee routineExpr state = some (spills, callee, code)) :
    LoadsCallee platform spills callee code := by
  unfold Visitors.routineCallee at made
  split at made
  · split at made
    · exact handleRuntimeCall_loads made
    · split at made
      · cases made
        exact LoadsCallee.name _
      · exact handleGeneralRoutineCall_loads made
  · exact handleGeneralRoutineCall_loads made

theorem functionCallee_loads {visitors : Visitors World Rest} {functionExpr : Expression}
    {state : GeneratorState Rest} {spills code : List (CallInstruction World)}
    {callee : Callee World}
    (made : visitors.functionCallee functionExpr state = some (spills, callee, code)) :
    LoadsCallee platform spills callee code := by
  unfold Visitors.functionCallee at made
  split at made
  · split at made
    · cases made
      exact LoadsCallee.name _
    · split at made
      · simp only at made
        split at made
        · cases made
          exact LoadsCallee.name _
        · exact handleRuntimeCall_loads made
      · exact handleGeneralRoutineCall_loads made
  · exact handleGeneralRoutineCall_loads made

/-! ## The calls -/

/-- Arguments that are moved before the callee is loaded make an assembled call. -/
theorem Moved.assembled {arguments : List (Argument World)}
    {evaluation moves spills code : List (CallInstruction World)} {callee : Callee World}
    (moved : Moved platform 0 arguments moves)
    (loads : LoadsCallee platform spills callee code) :
    GeneratedCall.Assembled platform
      { arguments := arguments, evaluation := evaluation, moves := moves ++ spills
        callee := callee, calleeCode := code } := by
  refine ⟨moved.numbered, ?_, ?_⟩
  · intro before
    rcases moved.runs before with ⟨middle, first, registers⟩
    rcases loads.spills middle with ⟨after, second, same⟩
    refine ⟨after, ?_, same.trans registers⟩
    rw [executeCall_append, first]
    exact second
  · have shape := loads.callee
    cases callee with
    | name name =>
        rw [shape]
        intro before after runs argument _
        cases runs
        rfl
    | table offset register => exact shape
    | computed generated => exact shape

namespace Visitors

variable {visitors : Visitors World Rest} {state : GeneratorState Rest}
  {call : GeneratedCall World}

theorem evaluateArguments_length {expressions : List Expression}
    {generated : List (Generated World)} {after : GeneratorState Rest}
    (made : visitors.evaluateArguments expressions state = some (generated, after)) :
    generated.length = expressions.length := by
  induction expressions generalizing state generated after with
  | nil =>
      cases made
      rfl
  | cons argument rest inductionHypothesis =>
      simp only [evaluateArguments, Option.bind_eq_bind, Option.pure_def,
        Option.bind_eq_some_iff, Prod.exists, Option.some.injEq, Prod.mk.injEq] at made
      rcases made with ⟨first, middle, _, others, last, later, rfl, _⟩
      exact congrArg Nat.succ (inductionHypothesis later)

theorem evaluateIntoTemporaries_length {expressions : List Expression}
    {temporaries : List (Generated World × ResultRegister)}
    {code : List (CallInstruction World)} {after : GeneratorState Rest}
    (made : visitors.evaluateIntoTemporaries expressions state =
      some (temporaries, code, after)) :
    temporaries.length = expressions.length := by
  induction expressions generalizing state temporaries code after with
  | nil =>
      cases made
      rfl
  | cons argument rest inductionHypothesis =>
      simp only [evaluateIntoTemporaries, Option.bind_eq_bind, Option.pure_def,
        Option.bind_eq_some_iff, Prod.exists, Option.some.injEq, Prod.mk.injEq] at made
      rcases made with ⟨first, _, _, temp, _, _, _, others, _, last, later, rfl, _⟩
      exact congrArg Nat.succ (inductionHypothesis later)

theorem visitRoutineCallStatement_assembled {routineExpr : Expression}
    {arguments : List Expression}
    (made : visitors.visitRoutineCallStatement routineExpr arguments state = some call) :
    call.Assembled platform ∧ call.arguments.length = arguments.length := by
  simp only [visitRoutineCallStatement, Option.bind_eq_bind, Option.pure_def,
    Option.bind_eq_some_iff, Prod.exists, Option.some.injEq] at made
  rcases made with ⟨generated, after, evaluates, moved, moves, moving, spills, callee, code,
    loading, rfl⟩
  rcases moveArgumentsToCallRegisters_moved moving with ⟨isMoved, sameLength⟩
  refine ⟨isMoved.assembled (routineCallee_loads loading), ?_⟩
  change moved.length = arguments.length
  rw [sameLength, List.length_zip, List.length_map, Nat.min_self,
    evaluateArguments_length evaluates]

theorem visitGeneralCall_assembled {functionExpr : Expression} {arguments : List Expression}
    (made : visitors.visitGeneralCall functionExpr arguments state = some call) :
    call.Assembled platform ∧ call.arguments.length = arguments.length := by
  simp only [visitGeneralCall, Option.bind_eq_bind, Option.pure_def,
    Option.bind_eq_some_iff, Prod.exists, Option.some.injEq] at made
  rcases made with ⟨temporaries, evaluation, after, evaluates, moved, moves, moving, spills,
    callee, code, loading, rfl⟩
  have isMoved : Moved platform 0 moved moves ∧ moved.length = temporaries.length := by
    unfold moveFunctionArguments at moving
    simp only at moving
    split at moving
    · exact moveFpndArguments_moved moving
    · exact moveArgumentsToCallRegisters_moved moving
  refine ⟨isMoved.1.assembled (functionCallee_loads loading), ?_⟩
  exact isMoved.2.trans (evaluateIntoTemporaries_length evaluates)

theorem visitFind_assembled {list value : Expression}
    (made : visitors.visitFind list value state = some call) :
    call.Assembled platform ∧ call.arguments.length = 2 := by
  simp only [visitFind, Option.bind_eq_bind, Option.pure_def, Option.bind_eq_some_iff,
    Prod.exists] at made
  rcases made with ⟨generatedList, middle, _, made⟩
  split at made
  · simp only [Option.bind_eq_some_iff, Prod.exists] at made
    rcases made with ⟨generatedValue, last, _, made⟩
    split at made
    · rename_i valueReg _
      cases made
      have movesValue : MovesOne platform
          { source := .generated generatedValue, held := x valueReg, dest := x 1 }
          [.movReg 1 valueReg] :=
        fun before => ⟨_, rfl, rfl⟩
      refine ⟨⟨rfl, ?_, ?_⟩, rfl⟩
      · exact (@Moved.cons World platform 0 _ _ _ _ rfl movesOne_inPlace
          (@Moved.cons World platform 1 _ _ _ _ rfl movesValue (Moved.nil 2))).runs
      · intro before after runs argument member
        cases runs
        apply Function.update_of_ne
        simp only [List.mem_cons, List.not_mem_nil, or_false] at member
        rcases member with rfl | rfl
        · simp
        · simp
    · cases made
  · cases made

theorem visitListFunction_assembled {name : String} {list function : Expression}
    (made : visitors.visitListFunction name list function state = some call) :
    call.Assembled platform ∧ call.arguments.length = 2 := by
  simp only [visitListFunction, Option.bind_eq_bind, Option.pure_def, Option.bind_eq_some_iff,
    Prod.exists] at made
  rcases made with ⟨generatedList, middle, _, made⟩
  split at made
  · split at made
    · rename_i functionName
      cases made
      have movesLabel : @MovesOne World platform
          { source := .label functionName, held := x 1, dest := x 1 }
          [.adrpAddLiteral 1 functionName] :=
        fun before => ⟨_, rfl, rfl⟩
      refine ⟨⟨rfl, ?_, ?_⟩, rfl⟩
      · exact (@Moved.cons World platform 0 _ _ _ _ rfl movesOne_inPlace
          (@Moved.cons World platform 1 _ _ _ _ rfl movesLabel (Moved.nil 2))).runs
      · intro before after runs argument _
        cases runs
        rfl
    · cases made
  · cases made

theorem visitFunctionCall_assembled {functionExpr : Expression} {arguments : List Expression}
    (made : visitors.visitFunctionCall functionExpr arguments state = some call) :
    call.Assembled platform ∧ call.arguments.length = arguments.length := by
  unfold visitFunctionCall at made
  split at made
  · cases made
  · cases made
  · cases made
  · cases made
  · exact visitFind_assembled made
  · exact visitListFunction_assembled made
  · exact visitListFunction_assembled made
  · exact visitGeneralCall_assembled made

end Visitors

/-! ## The theorem -/

/-- A routine call statement or a function call. -/
inductive CallNode where
  | routineCall (routineExpr : Expression) (arguments : List Expression)
  | functionCall (functionExpr : Expression) (arguments : List Expression)

/-- The arguments of the node. -/
def CallNode.arguments : CallNode -> List Expression
  | routineCall _ arguments => arguments
  | functionCall _ arguments => arguments

/-- The call that is made for a node. -/
def Visitors.visitCall (visitors : Visitors World Rest) (state : GeneratorState Rest) :
    CallNode -> Option (GeneratedCall World)
  | .routineCall routineExpr arguments =>
      visitors.visitRoutineCallStatement routineExpr arguments state
  | .functionCall functionExpr arguments =>
      visitors.visitFunctionCall functionExpr arguments state

theorem Visitors.visitCall_assembled {visitors : Visitors World Rest}
    {state : GeneratorState Rest} {node : CallNode} {call : GeneratedCall World}
    (made : visitors.visitCall state node = some call) :
    call.Assembled platform ∧ call.arguments.length = node.arguments.length := by
  cases node with
  | routineCall routineExpr arguments => exact visitRoutineCallStatement_assembled made
  | functionCall functionExpr arguments => exact visitFunctionCall_assembled made

end Codegen
end NewBcpl
