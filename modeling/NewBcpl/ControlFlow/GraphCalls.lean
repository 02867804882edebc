import NewBcpl.ControlFlow.BlockNames

namespace NewBcpl
namespace ControlFlow

open Foundations.Digits

/-!
# The calls that make a graph

`create_block` and `add_edge` of `ControlFlowGraph`, on the blocks that were
allocated and on the map that owns them. The map has one block under each id, so that
a block disappears when another one is created under its id, and the pointers to it
dangle. The pass creates blocks with a fixed set of prefixes; only the prefix of a
label has a part that the program chooses.
-/

/-- The prefixes that `CFGBuilderPass` gives to `create_block`. -/
inductive BlockPrefix where
  | entry | plain | exit
  | thenBranch | join
  | forHeader | forBody | forIncrement | forExit
  | forEachHeader | forEachBody | forEachIncrement | forEachExit | forEachAdvance
  | switchJoin | caseBranch (index : Nat) | defaultCase
  | label (labelName : String)
  deriving DecidableEq, Repr

/-- The text of a prefix. -/
def BlockPrefix.text : BlockPrefix -> String
  | .entry => "Entry_"
  | .plain => "BB_"
  | .exit => "Exit_"
  | .thenBranch => "Then_"
  | .join => "Join_"
  | .forHeader => "ForHeader_"
  | .forBody => "ForBody_"
  | .forIncrement => "ForIncrement_"
  | .forExit => "ForExit_"
  | .forEachHeader => "ForEachHeader_"
  | .forEachBody => "ForEachBody_"
  | .forEachIncrement => "ForEachIncrement_"
  | .forEachExit => "ForEachExit_"
  | .forEachAdvance => "ForEachAdvance_"
  | .switchJoin => "SwitchJoin_"
  | .caseBranch index => "Case_" ++ toString index ++ "_"
  | .defaultCase => "DefaultCase_"
  | .label labelName => "Label_" ++ labelName

/-- The id of a block. -/
def blockId (functionName : String) (idPrefix : BlockPrefix) (number : Nat) : String :=
  functionName ++ "_" ++ idPrefix.text ++ toString number

/-- The calls of a pass; a pointer that is not null is given by the number of the block
that `create_block` returned. -/
inductive Call where
  | createBlock (idPrefix : BlockPrefix)
  | addEdge (source target : Option Nat)
  deriving DecidableEq, Repr

/-- `BasicBlock`, without its statements. -/
structure GraphBlock where
  id : String
  successors : List Nat
  predecessors : List Nat
  deriving DecidableEq, Repr

/-- `ControlFlowGraph`: all blocks that were allocated, in order, and the map that owns
them. The counter of the ids is the number of the allocated blocks. -/
structure ControlFlowGraph where
  functionName : String
  allocated : List GraphBlock
  blocks : String -> Option Nat

namespace ControlFlowGraph

/-- The graph of a function before any call. -/
def empty (functionName : String) : ControlFlowGraph :=
  { functionName := functionName, allocated := [], blocks := fun _ => none }

/-- The block behind a pointer. -/
def block (graph : ControlFlowGraph) (number : Nat) : GraphBlock :=
  graph.allocated.getD number ⟨"", [], []⟩

/-- The map still owns the block. -/
def isLive (graph : ControlFlowGraph) (number : Nat) : Bool :=
  graph.blocks (graph.block number).id = some number

/-- `create_block`. The assignment to the map destroys the block that has the id. -/
def createBlock (graph : ControlFlowGraph) (idPrefix : BlockPrefix) : ControlFlowGraph :=
  let number := graph.allocated.length
  let id := blockId graph.functionName idPrefix number
  { graph with
    allocated := graph.allocated ++ [⟨id, [], []⟩]
    blocks := Function.update graph.blocks id (some number) }

/-- `add_successor` and `add_predecessor`. -/
def link (graph : ControlFlowGraph) (source target : Nat) : ControlFlowGraph :=
  let linked := graph.allocated.modify source fun block =>
    { block with successors := block.successors ++ [target] }
  { graph with
    allocated := linked.modify target fun block =>
      { block with predecessors := block.predecessors ++ [source] } }

/-- A call; there is no result when it follows a pointer to a destroyed block. -/
def call (graph : ControlFlowGraph) : Call -> Option ControlFlowGraph
  | .createBlock idPrefix => some (graph.createBlock idPrefix)
  | .addEdge (some source) (some target) =>
      if graph.isLive source && graph.isLive target then some (graph.link source target)
      else none
  | .addEdge _ _ => some graph

/-- The calls in turn. -/
def callAll (graph : ControlFlowGraph) (calls : List Call) : Option ControlFlowGraph :=
  calls.foldlM call graph

/-- All blocks that were created are there under ids of their own, and the two ends of
an edge know each other. -/
structure Sound (graph : ControlFlowGraph) : Prop where
  live : forall number, number < graph.allocated.length -> graph.isLive number = true
  distinct : forall first second, first < graph.allocated.length ->
    second < graph.allocated.length ->
    (graph.block first).id = (graph.block second).id -> first = second
  closed : forall number other, number < graph.allocated.length ->
    other ∈ (graph.block number).successors ∨ other ∈ (graph.block number).predecessors ->
    other < graph.allocated.length
  symmetric : forall source target, source < graph.allocated.length ->
    target < graph.allocated.length ->
    (graph.block source).successors.count target =
      (graph.block target).predecessors.count source

end ControlFlowGraph

/-- The prefixes of the blocks that some calls create. -/
def createdPrefixes (calls : List Call) : List BlockPrefix :=
  calls.filterMap fun
    | .createBlock idPrefix => some idPrefix
    | .addEdge _ _ => none

/-- The pointers come from earlier calls, of which there were so many to
`create_block`. -/
def KnownEnds : Nat -> List Call -> Prop
  | _, [] => True
  | created, .createBlock _ :: rest => KnownEnds (created + 1) rest
  | created, .addEdge source target :: rest =>
      (forall number, source = some number -> number < created) ∧
        (forall number, target = some number -> number < created) ∧ KnownEnds created rest

/-- The calls that a pass makes for one function. -/
structure Construction where
  functionName : String
  calls : List Call
  known : KnownEnds 0 calls

namespace Construction

/-- The prefixes of the blocks. -/
def prefixes (construction : Construction) : List BlockPrefix :=
  createdPrefixes construction.calls

/-- The ids of the blocks, in the order of their creation. -/
def ids (construction : Construction) : List String :=
  construction.prefixes.mapIdx fun number idPrefix =>
    blockId construction.functionName idPrefix number

/-- The graph is sound after each call. -/
def StaysSound (construction : Construction) : Prop :=
  forall before after, construction.calls = before ++ after ->
    exists graph, (ControlFlowGraph.empty construction.functionName).callAll before = some graph ∧
      graph.Sound

/-- One label is another one with digits behind it, with which the number of the other
block begins. -/
def LabelsOverlap (construction : Construction) : Prop :=
  exists (first second : Nat) (longer shorter digits : String), first ≠ second ∧
    construction.prefixes[first]? = some (.label longer) ∧
    construction.prefixes[second]? = some (.label shorter) ∧
    longer = shorter ++ digits ∧ toString second = digits ++ toString first

end Construction

end ControlFlow
end NewBcpl
