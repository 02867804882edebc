import NewBcpl.Codegen.CallVisitors
import NewBcpl.Foundations.SequentialMoves

namespace NewBcpl
namespace Codegen

open ManagedRegister
open Arm64 (CallTarget)
open Foundations.SequentialMoves

/-!
# What a call delivers

At the call each argument should be in its register with the value that it has in the store
before the call, and the address called should be the one of the callee in that store. The moves
come down to `SequentialMoves`, so that an argument arrives exactly if the register that it waits
in still holds its value, or has been filled with the same value by an earlier move.
-/

variable {World Rest : Type}

/-! ## The property -/

/-- The conversion that a move between two registers makes. -/
def conversion (platform : Platform) : ManagedRegister -> ManagedRegister -> Word -> Word
  | x _, d _ => platform.scvtf
  | d _, x _ => platform.fcvtzs
  | _, _ => id

namespace Argument

variable (platform : Platform) (argument : Argument World)

/-- The value that the call should receive: that of the expression in a store, converted to the
kind of the register that it is passed in. -/
def value (store : CallMachine World) : Option Word :=
  match argument.source with
  | .generated generated =>
      (generated.value store).map (conversion platform generated.result.home argument.dest)
  | .label name => some (platform.labelAddress name)

/-- The move that passes the argument. -/
def move : Move ManagedRegister Word :=
  { dest := argument.dest
    source := argument.held
    convert := match argument.source with
      | .generated _ => conversion platform argument.held argument.dest
      | .label name => fun _ => platform.labelAddress name }

end Argument

namespace GeneratedCall

variable (platform : Platform) (call : GeneratedCall World)

/-- The target of the call instruction. -/
def called (machine : CallMachine World) : CallTarget :=
  match call.callee with
  | .name name => .name name
  | .table _ register => .address (machine.registers (x register))
  | .computed generated => .address (machine.registers generated.result.home)

/-- The target that the callee has in a store. -/
def intended (store : CallMachine World) : Option CallTarget :=
  match call.callee with
  | .name name => some (.name name)
  | .table offset _ => some (.address (store.tableEntry offset))
  | .computed generated => (generated.value store).map .address

/-- At the call each register holds the value of its argument in the store before the call, and
the target is the one of the callee in that store. -/
def Delivers (store : CallMachine World) : Prop :=
  forall atCall, executeCall platform call.setup store = some atCall ->
    (forall argument, argument ∈ call.arguments ->
      argument.value platform store = some (atCall.registers argument.dest)) ∧
    call.intended store = some (call.called atCall)

/-! ## The condition -/

/-- The states of a run that reaches the call: after the arguments have been evaluated, before
the code of the callee, and at the call. -/
structure Passage (store evaluated atCallee atCall : CallMachine World) : Prop where
  evaluates : executeCall platform call.evaluation store = some evaluated
  moves : executeCall platform call.moves evaluated = some atCallee
  loads : executeCall platform call.calleeCode atCallee = some atCall

/-- The code of an expression that is called leaves the registers of the arguments alone. -/
def LeavesArguments (store : CallMachine World) : Prop :=
  forall evaluated atCallee atCall, call.Passage platform store evaluated atCallee atCall ->
    forall generated, call.callee = .computed generated ->
      forall argument, argument ∈ call.arguments ->
        atCall.registers argument.dest = atCallee.registers argument.dest

/-- The callee has the same address where it is loaded as in the store before the call. -/
def CalleeUnchanged (store atCallee : CallMachine World) : Prop :=
  match call.callee with
  | .name _ => True
  | .table offset _ => atCallee.tableEntry offset = store.tableEntry offset
  | .computed generated => generated.value store = generated.value atCallee

/-- Every argument, after all of them have been evaluated, is carried by its move: the register
that it waits in holds its value, or an earlier move has filled this register with the same
value. The callee is unchanged, and its code leaves the arguments alone. -/
def Keeps (store : CallMachine World) : Prop :=
  call.LeavesArguments platform store ∧
    forall evaluated atCallee atCall, call.Passage platform store evaluated atCallee atCall ->
      Carries (fun register => some (evaluated.registers register)) []
        (call.arguments.map fun argument =>
          ((argument.move platform).optional, argument.value platform store)) ∧
      call.CalleeUnchanged store atCallee

end GeneratedCall

/-! ## Runs -/

theorem executeCall_append (platform : Platform) (first second : List (CallInstruction World))
    (machine : CallMachine World) :
    executeCall platform (first ++ second) machine =
      (executeCall platform first machine).bind (executeCall platform second) := by
  induction first generalizing machine with
  | nil => rfl
  | cons instruction rest inductionHypothesis =>
      rw [List.cons_append, executeCall, executeCall]
      cases instruction.step platform machine with
      | none => rfl
      | some after => exact inductionHypothesis after

/-- Spilling changes no register. -/
theorem executeCall_spills (platform : Platform) (spills : List (ManagedRegister × String))
    (machine : CallMachine World) :
    exists after, executeCall platform (spills.map fun spill => .strSpill spill.1 spill.2) machine =
      some after ∧ after.registers = machine.registers := by
  induction spills generalizing machine with
  | nil => exact ⟨machine, rfl, rfl⟩
  | cons spill rest inductionHypothesis =>
      rcases inductionHypothesis { machine with
        memory := Function.update machine.memory
          (machine.registers (x 29) + platform.spillOffset spill.2)
          (machine.registers spill.1) } with ⟨after, runs, same⟩
      exact ⟨after, runs, same⟩

namespace GeneratedCall

variable {platform : Platform} {call : GeneratedCall World}

/-- A run that reaches the call passes through the three states. -/
theorem passage_iff {store atCall : CallMachine World} :
    executeCall platform call.setup store = some atCall <->
      exists evaluated atCallee, call.Passage platform store evaluated atCallee atCall := by
  unfold setup
  rw [executeCall_append, Option.bind_eq_some_iff]
  constructor
  · rintro ⟨evaluated, evaluates, rest⟩
    rw [executeCall_append, Option.bind_eq_some_iff] at rest
    rcases rest with ⟨atCallee, moves, loads⟩
    exact ⟨evaluated, atCallee, evaluates, moves, loads⟩
  · rintro ⟨evaluated, atCallee, evaluates, moves, loads⟩
    refine ⟨evaluated, evaluates, ?_⟩
    rw [executeCall_append, moves]
    exact loads

end GeneratedCall

/-! ## The calls that the visitors make -/

/-- The number of a register. -/
def ManagedRegister.number : ManagedRegister -> Nat
  | x number => number
  | d number => number
  | v number => number

/-- The shape of the calls: argument i is passed in a register with the number i, the moves are
those of the arguments, and the code of the callee loads its address. -/
structure GeneratedCall.Assembled (platform : Platform) (call : GeneratedCall World) : Prop where
  numbered : call.arguments.map (fun argument => argument.dest.number) =
    List.range' 0 call.arguments.length
  moves : forall before, exists after, executeCall platform call.moves before = some after ∧
    after.registers = run (call.arguments.map (Argument.move platform)) before.registers
  callee : match call.callee with
    | .name _ => forall before after, executeCall platform call.calleeCode before = some after ->
        forall argument, argument ∈ call.arguments ->
          after.registers argument.dest = before.registers argument.dest
    | .table offset register => call.calleeCode = [.ldrImm register 19 offset] ∧ 8 <= register.val
    | .computed generated => call.calleeCode = [.expression generated.code]

namespace GeneratedCall.Assembled

variable {platform : Platform} {call : GeneratedCall World}

theorem distinct (assembled : call.Assembled platform) :
    (call.arguments.map Argument.dest).Nodup := by
  apply List.Nodup.of_map ManagedRegister.number
  rw [List.map_map]
  exact assembled.numbered ▸ List.nodup_range'

/-- The register of an argument has a number below that of arguments. -/
theorem dest_lt (assembled : call.Assembled platform) {argument : Argument World}
    (member : argument ∈ call.arguments) : argument.dest.number < call.arguments.length := by
  have numbered : argument.dest.number ∈ List.range' 0 call.arguments.length := by
    rw [<- assembled.numbered]
    exact List.mem_map_of_mem member
  simpa using numbered

/-- At the code of the callee the registers hold the right values exactly if the moves carry
them. -/
theorem delivered_iff (assembled : call.Assembled platform)
    {store evaluated atCallee : CallMachine World}
    (moves : executeCall platform call.moves evaluated = some atCallee) :
    (forall argument, argument ∈ call.arguments ->
      argument.value platform store = some (atCallee.registers argument.dest)) <->
    Carries (fun register => some (evaluated.registers register)) []
      (call.arguments.map fun argument =>
        ((argument.move platform).optional, argument.value platform store)) := by
  rcases assembled.moves evaluated with ⟨after, runs, registers⟩
  cases moves.symm.trans runs
  have optional := run_optional (call.arguments.map (Argument.move platform))
    evaluated.registers
  have destinations : ((call.arguments.map fun argument =>
      ((argument.move platform).optional, argument.value platform store)).map
        fun pair => pair.1.dest).Nodup := by
    rw [List.map_map]
    exact assembled.distinct
  rw [<- delivers_iff_carries _ (fun register => some (evaluated.registers register)) []
    (fun register => some (evaluated.registers register)) (fun _ => rfl) destinations]
  have moved : (call.arguments.map fun argument =>
      ((argument.move platform).optional, argument.value platform store)).map Prod.fst =
        (call.arguments.map (Argument.move platform)).map Move.optional := by
    rw [List.map_map, List.map_map]
    rfl
  rw [moved, optional]
  constructor
  · intro delivered pair member
    rcases List.mem_map.mp member with ⟨argument, inArguments, rfl⟩
    rw [delivered argument inArguments, registers]
    rfl
  · intro delivered argument member
    have arrives := delivered _ (List.mem_map_of_mem member)
    rw [registers]
    exact arrives.symm

/-- The code of a callee that is no expression leaves the arguments alone. -/
theorem leaves_named (assembled : call.Assembled platform) (few : call.arguments.length <= 8)
    {atCallee atCall : CallMachine World}
    (loads : executeCall platform call.calleeCode atCallee = some atCall)
    (named : forall generated, call.callee ≠ .computed generated)
    {argument : Argument World} (member : argument ∈ call.arguments) :
    atCall.registers argument.dest = atCallee.registers argument.dest := by
  have shape := assembled.callee
  cases callee : call.callee with
  | name name =>
      rw [callee] at shape
      exact shape atCallee atCall loads argument member
  | table offset register =>
      rw [callee] at shape
      rw [shape.1] at loads
      cases loads
      apply Function.update_of_ne
      intro same
      have small := Nat.lt_of_lt_of_le (assembled.dest_lt member) few
      rw [same] at small
      exact absurd shape.2 (Nat.not_le.mpr small)
  | computed generated => exact absurd callee (named generated)

/-- The target is right exactly if the callee is unchanged. -/
theorem target_iff (assembled : call.Assembled platform) {store atCallee atCall : CallMachine World}
    (loads : executeCall platform call.calleeCode atCallee = some atCall) :
    call.intended store = some (call.called atCall) <-> call.CalleeUnchanged store atCallee := by
  have shape := assembled.callee
  unfold GeneratedCall.intended GeneratedCall.called GeneratedCall.CalleeUnchanged
  cases callee : call.callee with
  | name name => exact ⟨fun _ => trivial, fun _ => rfl⟩
  | table offset register =>
      rw [callee] at shape
      rw [shape.1] at loads
      cases loads
      have loaded : (atCallee.set (x register) (atCallee.tableEntry offset)).registers
          (x register) = atCallee.tableEntry offset :=
        Function.update_self _ _ _
      constructor
      · intro right
        exact loaded.symm.trans (CallTarget.address.inj (Option.some.inj right)).symm
      · intro unchanged
        exact congrArg (fun word => some (CallTarget.address word))
          (unchanged.symm.trans loaded.symm)
  | computed generated =>
      rw [callee] at shape
      rw [shape] at loads
      have ran : generated.code atCallee = some atCall := by
        rcases Option.bind_eq_some_iff.mp loads with ⟨after, ran, same⟩
        cases same
        exact ran
      have valued : generated.value atCallee =
          some (atCall.registers generated.result.home) := by
        unfold Generated.value
        rw [ran]
        rfl
      simp only
      rw [valued]
      constructor
      · intro right
        rcases Option.map_eq_some_iff.mp right with ⟨word, isValue, same⟩
        rw [isValue, CallTarget.address.inj same]
      · intro unchanged
        rw [unchanged]
        rfl

/-- A call whose callee leaves the arguments alone delivers exactly if it keeps them. -/
theorem delivers_iff_keeps (assembled : call.Assembled platform)
    (few : call.arguments.length <= 8) (store : CallMachine World) :
    call.Delivers platform store ∧ call.LeavesArguments platform store <->
      call.Keeps platform store := by
  have stays : call.LeavesArguments platform store ->
      forall {evaluated atCallee atCall}, call.Passage platform store evaluated atCallee atCall ->
      forall {argument}, argument ∈ call.arguments ->
        atCall.registers argument.dest = atCallee.registers argument.dest := by
    intro leaves evaluated atCallee atCall passage argument member
    by_cases computed : exists generated, call.callee = .computed generated
    · rcases computed with ⟨generated, isComputed⟩
      exact leaves evaluated atCallee atCall passage generated isComputed argument member
    · exact assembled.leaves_named few passage.loads
        (fun generated isComputed => computed ⟨generated, isComputed⟩) member
  constructor
  · rintro ⟨delivers, leaves⟩
    refine ⟨leaves, ?_⟩
    intro evaluated atCallee atCall passage
    have reached := delivers atCall (passage_iff.mpr ⟨evaluated, atCallee, passage⟩)
    refine ⟨?_, (assembled.target_iff passage.loads).mp reached.2⟩
    apply (assembled.delivered_iff passage.moves).mp
    intro argument member
    rw [<- stays leaves passage member]
    exact reached.1 argument member
  · rintro ⟨leaves, keeps⟩
    refine ⟨?_, leaves⟩
    intro atCall reaches
    rcases passage_iff.mp reaches with ⟨evaluated, atCallee, passage⟩
    rcases keeps evaluated atCallee atCall passage with ⟨carries, unchanged⟩
    refine ⟨?_, (assembled.target_iff passage.loads).mpr unchanged⟩
    intro argument member
    rw [stays leaves passage member]
    exact (assembled.delivered_iff passage.moves).mpr carries argument member

end GeneratedCall.Assembled

end Codegen
end NewBcpl
