import NewBcpl.Lists.ListDataTypes

namespace NewBcpl
namespace Lists

open Foundations Arm64

/-!
# The inline code of the list operators

What `visit(UnaryOp&)` emits for HD, TL, REST and LEN once the operand is in a
register. The labels and the scratch registers are those that the label manager
and the register manager hand out, distinct from each other and from the register
of the operand. TL calls the runtime, whose part of the free list is here as its
effect on memory.
-/

/-- The element types of list types. -/
inductive ListKind where
  | any | int | float | string
  deriving DecidableEq, Repr

/-- What `infer_expression_type` says of the operand: a node, a list with or without
`CONST`, or something that is no list, vector or string. -/
inductive OperandType where
  | listNode
  | list (kind : ListKind) (isConst : Bool)
  | other
  deriving DecidableEq, Repr

/-- The registers of an operator. -/
structure OperatorRegisters where
  operand : Fin 31
  first : Fin 31
  second : Fin 31
  third : Fin 31
  distinct : [operand, first, second, third].Nodup

/-- The labels of an operator. -/
structure OperatorLabels where
  ending : String
  other : String
  distinct : other ≠ ending

section Emission

variable (registers : OperatorRegisters) (labels : OperatorLabels)

/-- HD of a node. -/
def headOfNode : Code :=
  [.operation (.cmpImm (.x registers.operand) 0), .branchIf .eq labels.other,
    .operation (.ldr (.x registers.first) (.x registers.operand) 8), .branch labels.ending,
    .label labels.other, .operation (.mov (.x registers.first) .xzr), .label labels.ending]

/-- The adjustment of a string element. -/
def stringAdjustment (operand : OperandType) : Code :=
  match operand with
  | .list .string _ =>
      [.operation (.addImm (.x registers.first) (.x registers.first) 8)]
  | _ => []

/-- HD of a list header. -/
def headOfList (operand : OperandType) : Code :=
  [.operation (.ldr (.x registers.second) (.x registers.operand) 16),
    .operation (.cmpImm (.x registers.second) 0), .branchIf .eq labels.other,
    .operation (.ldr (.x registers.first) (.x registers.second) 8)] ++
    stringAdjustment registers operand ++
    [.branch labels.ending, .label labels.other,
      .operation (.mov (.x registers.first) .xzr), .label labels.ending]

/-- HD; the result is in the first scratch register. -/
def headOf (operand : OperandType) : Code :=
  match operand with
  | .listNode => headOfNode registers labels
  | operand => headOfList registers labels operand

/-- The name under which TL calls the runtime. -/
def returnNodeName : String := "returnNodeToFreelist"

/-- TL; the result is in the register of the operand. -/
def tailOf : Code :=
  [.operation (.ldr (.x registers.first) (.x registers.operand) 16),
    .operation (.cmpImm (.x registers.first) 0), .branchIf .eq labels.ending,
    .operation (.ldr (.x registers.second) (.x registers.first) 16),
    .operation (.str (.x registers.second) (.x registers.operand) 16),
    .operation (.ldr (.x registers.third) (.x registers.operand) 8),
    .operation (.cmp (.x registers.third) (.x registers.first)),
    .branchIf .ne labels.other,
    .operation (.str .xzr (.x registers.operand) 8), .label labels.other,
    .operation (.mov (.x 0) (.x registers.first)), .operation (.call returnNodeName),
    .label labels.ending]

/-- REST of a node. -/
def restOfNode : Code :=
  [.operation (.cmpImm (.x registers.operand) 0), .branchIf .eq labels.other,
    .operation (.ldr (.x registers.first) (.x registers.operand) 16), .branch labels.ending,
    .label labels.other, .operation (.mov (.x registers.first) .xzr), .label labels.ending]

/-- REST of a list header. -/
def restOfList : Code :=
  [.operation (.ldr (.x registers.second) (.x registers.operand) 16),
    .operation (.cmpImm (.x registers.second) 0), .branchIf .eq labels.other,
    .operation (.ldr (.x registers.first) (.x registers.second) 16), .branch labels.ending,
    .label labels.other, .operation (.mov (.x registers.first) .xzr), .label labels.ending]

/-- REST; the result is in the first scratch register. -/
def restOf (operand : OperandType) : Code :=
  match operand with
  | .listNode => restOfNode registers labels
  | _ => restOfList registers labels

/-- LEN of a list; it throws for the types that the condition leaves out. -/
def lengthOf (operand : OperandType) : Option Code :=
  match operand with
  | .list .any _ | .list .int _ | .list .float _ =>
      some [.operation (.ldr (.x registers.first) (.x registers.operand) 24)]
  | _ => none

end Emission

/-- The registers that a call may change. -/
def callerSaved : Register -> Bool
  | .x number => number.val < 19 || number.val = 30
  | _ => false

/-- `returnNodeToFreelist_runtime` with the node in X0. A call may change the flags
and the caller-saved registers. -/
def returnNodeToFreelist (globals : FreeListGlobals) (clobbered : Machine -> Machine)
    (machine : Machine) : Machine :=
  let node := machine.read (.x 0)
  let returned :=
    if node = 0#64 then machine
    else
      let linked := machine.store (node + BitVec.ofNat 64 nextOffset) (machine.load globals.head)
      let pushed := linked.store globals.head node
      pushed.store globals.nodeCount (pushed.load globals.nodeCount + 1#64)
  { returned with
    registers := fun register =>
      if callerSaved register then (clobbered machine).registers register
      else returned.registers register
    flags := (clobbered machine).flags }

/-- The callees of the emitted code. -/
def runtimeCallees (globals : FreeListGlobals) (clobbered : Machine -> Machine)
    (others : Callees) : Callees :=
  fun target machine =>
    if target = .name returnNodeName then returnNodeToFreelist globals clobbered machine
    else others target machine

end Lists
end NewBcpl
