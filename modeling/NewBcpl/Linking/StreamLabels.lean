import NewBcpl.ControlFlow.GraphSoundness
import NewBcpl.Linking.AddressAssignment
import Mathlib.Data.List.Nodup

namespace NewBcpl
namespace Linking

open Foundations ControlFlow

/-!
# The labels of the instruction stream

The labels that code generation puts into the stream: for each function its name, the ids
of the blocks that the graph owns with the labels that the statements of the block make,
the label of the epilogue, and the labels of the canaries; then the labels of the
literals.
-/

/-- The labels of `DataGenerator`, with the counters they are made from. -/
inductive DataLabel where
  | string (number : Nat)
  | float (number : Nat)
  | table (number : Nat)
  | floatTable (number : Nat)
  | listHeader (number : Nat)
  | listNode (number index : Nat)
  deriving DecidableEq, Repr

/-- The text of the label of a literal. -/
def DataLabel.text : DataLabel -> String
  | .string number => "L_str" ++ toString number
  | .float number => "L_float" ++ toString number
  | .table number => "L_tbl" ++ toString number
  | .floatTable number => "L_ftbl" ++ toString number
  | .listHeader number => "L_list" ++ toString number ++ "_header"
  | .listNode number index => "L_list" ++ toString number ++ "_node_" ++ toString index

/-- A label of the stream, by what it is made from. -/
inductive StreamLabel where
  | function (name : String)
  | block (functionName : String) (idPrefix : BlockPrefix) (number : Nat)
  | created (number : Nat)
  | canary (functionName : String) (upper : Bool)
  | data (label : DataLabel)
  deriving DecidableEq, Repr

/-- The text of a label; `create_label` writes `.L` and a number. -/
def StreamLabel.text : StreamLabel -> String
  | .function name => name
  | .block functionName idPrefix number => blockId functionName idPrefix number
  | .created number => ".L" ++ toString number
  | .canary functionName upper =>
      functionName ++ if upper then "_stackprot_upper" else "_stackprot_lower"
  | .data label => label.text

/-- The labels that the statements of a block make: how many times `create_label` is
called, and which of the labels are then defined. -/
structure BlockCode where
  created : Nat
  defined : List Nat
  once : defined.Nodup
  known : forall number, number ∈ defined -> number < created

/-- What `generate_function_like_code` gets. -/
structure FunctionCode where
  construction : Construction
  code : Nat -> BlockCode

/-- `scan_identifier_or_keyword` makes names of letters, digits and underscores. -/
def isIdentifier (name : String) : Bool :=
  name.toList.all fun char => char.isAlphanum || char = '_'

/-- A program whose functions have different names; each counter of `DataGenerator` is used
for one label. -/
structure Program where
  functions : List FunctionCode
  literals : List DataLabel
  canaries : Bool
  identifiers : forall function, function ∈ functions ->
    isIdentifier function.construction.functionName = true
  distinct : (functions.map fun function => function.construction.functionName).Nodup
  once : literals.Nodup

section Emission

/-- The order of the blocks: the entry block, which is the first one, and then the others by
their ids. -/
def comesFirst (graph : ControlFlowGraph) (first second : Nat) : Bool :=
  first = 0 || second ≠ 0 && decide ((graph.block first).id < (graph.block second).id)

/-- The blocks that code is generated for. -/
def emittedBlocks (graph : ControlFlowGraph) : List Nat :=
  ((List.range graph.allocated.length).filter graph.isLive).mergeSort (comesFirst graph)

/-- The labels of the blocks, with the counter of `create_label` behind them. -/
def bodyLabels (function : FunctionCode) : Nat -> List Nat -> List StreamLabel × Nat
  | counter, [] => ([], counter)
  | counter, number :: rest =>
      let code := function.code number
      let others := bodyLabels function (counter + code.created) rest
      (.block function.construction.functionName
          (function.construction.prefixes.getD number .plain) number ::
        (code.defined.map fun local_ => .created (counter + local_)) ++ others.1, others.2)

/-- The labels of the handlers behind the epilogue. -/
def canaryLabels (canaries : Bool) (functionName : String) : List StreamLabel :=
  if canaries then [.canary functionName true, .canary functionName false] else []

/-- The labels of a function; the label of its epilogue is created first. -/
def functionLabels (canaries : Bool) (counter : Nat) (function : FunctionCode) :
    Option (List StreamLabel × Nat) :=
  let name := function.construction.functionName
  ((ControlFlowGraph.empty name).callAll function.construction.calls).map fun graph =>
    let body := bodyLabels function (counter + 1) (emittedBlocks graph)
    (.function name :: (body.1 ++ .created counter :: canaryLabels canaries name), body.2)

/-- The labels of the functions in turn. -/
def functionsLabels (canaries : Bool) : Nat -> List FunctionCode -> Option (List StreamLabel)
  | _, [] => some []
  | counter, function :: rest => do
      let (labels, after) <- functionLabels canaries counter function
      let others <- functionsLabels canaries after rest
      return labels ++ others

/-- All labels of the stream. -/
def Program.labels (program : Program) : Option (List StreamLabel) :=
  (functionsLabels program.canaries 0 program.functions).map fun labels =>
    labels ++ program.literals.map .data

end Emission

namespace Program

/-- The graphs keep their blocks, the labels are different, and so the linker never meets a
label that is defined already. -/
structure LabelsSound (program : Program) : Prop where
  graphs : forall function, function ∈ program.functions -> function.construction.StaysSound
  distinct : exists labels, program.labels = some labels ∧
    (labels.map StreamLabel.text).Nodup
  links : forall labels, program.labels = some labels -> forall stream : InstructionStream,
    definedNames stream.instructions = labels.map StreamLabel.text ->
    forall codeBase dataBase, exists result,
      assignAddressesAndResolveLabels stream (fun _ => none) codeBase dataBase = some result

/-- How two labels of a program can be the same: two labels of one function overlap, a
function has the name of a label that the compiler makes, or a function has a name that begins
like the ids of the labels of another one. -/
inductive Clash (program : Program) : Prop where
  | overlap {function : FunctionCode} : function ∈ program.functions ->
      function.construction.LabelsOverlap -> Clash program
  | blockName {function other : FunctionCode} {number : Nat} {idPrefix : BlockPrefix} :
      function ∈ program.functions -> other ∈ program.functions ->
      other.construction.prefixes[number]? = some idPrefix ->
      function.construction.functionName =
        blockId other.construction.functionName idPrefix number -> Clash program
  | canaryName {function other : FunctionCode} {upper : Bool} : program.canaries = true ->
      function ∈ program.functions -> other ∈ program.functions ->
      function.construction.functionName =
        (StreamLabel.canary other.construction.functionName upper).text -> Clash program
  | literalName {function : FunctionCode} {label : DataLabel} :
      function ∈ program.functions -> label ∈ program.literals ->
      function.construction.functionName = label.text -> Clash program
  | labelBlock {function other : FunctionCode} {number position : Nat}
      {labelName rest : String} {idPrefix : BlockPrefix} :
      function ∈ program.functions -> other ∈ program.functions ->
      function.construction.prefixes[number]? = some (.label labelName) ->
      other.construction.prefixes[position]? = some idPrefix ->
      other.construction.functionName =
        function.construction.functionName ++ "_Label" ++ rest ->
      "_" ++ labelName ++ toString number =
        rest ++ "_" ++ idPrefix.text ++ toString position -> Clash program

end Program

end Linking
end NewBcpl
