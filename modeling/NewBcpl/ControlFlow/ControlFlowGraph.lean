import NewBcpl.Ast

namespace NewBcpl
namespace ControlFlow

/-!
# Control-flow graphs and the state of their builder

A block is a list of statements with its successors in the order in which the
edges were added; a reference to a block is its position in the order of
creation. The predecessors that `add_edge` also records are read by no function
modelled here. The state of the builder is what `CFGBuilderPass` keeps while it
visits one function: the three target stacks have their back at the head.
-/

/-- `BasicBlock`. -/
structure BasicBlock where
  id : String
  statements : List Statement
  successors : List Nat
  isEntry : Bool
  isExit : Bool

namespace BasicBlock

/-- The block that no block is. -/
def missing : BasicBlock :=
  { id := "", statements := [], successors := [], isEntry := false, isExit := false }

/-- The kinds of statement after which `ends_with_control_flow` is true. -/
def isControlFlow : Statement -> Bool
  | .goto _ | .returnStatement | .finish | .breakStatement | .loop | .endcase
  | .conditionalBranch _ _ _ | .resultis _ => true
  | _ => false

/-- `BasicBlock::ends_with_control_flow`. -/
def endsWithControlFlow (block : BasicBlock) : Bool :=
  match block.statements.getLast? with
  | none => false
  | some statement => isControlFlow statement

end BasicBlock

/-- The members of `CFGBuilderPass` and of the graph it is building. -/
structure Builder where
  functionName : String
  blocks : List BasicBlock
  exitBlock : Option Nat
  current : Option Nat
  breakTargets : List Nat
  loopTargets : List Nat
  endcaseTargets : List Nat
  labelTargets : List (String × Nat)
  unresolvedGotos : List (Expression × Nat)
  blockIdCounter : Nat

namespace Builder

/-- The block at a reference. -/
def block (builder : Builder) (reference : Nat) : BasicBlock :=
  builder.blocks.getD reference BasicBlock.missing

/-- The reference of the block that is created next. -/
def fresh (builder : Builder) : Nat := builder.blocks.length

/-- The id that a block created next gets from a prefix. -/
def freshId (builder : Builder) (idPrefix : String) : String :=
  builder.functionName ++ "_" ++ idPrefix ++ toString builder.fresh

/-- `create_new_basic_block`; the new block is at `fresh`. The prefixes other
than those of labels end in an underscore, so that their ids are distinct. -/
def createBlock (builder : Builder) (idPrefix : String) : Builder :=
  { builder with
    blocks := builder.blocks ++
      [{ id := builder.freshId idPrefix, statements := [], successors := [],
         isEntry := false, isExit := false }] }

/-- Changing one block. -/
def modifyBlock (builder : Builder) (reference : Nat)
    (change : BasicBlock -> BasicBlock) : Builder :=
  { builder with blocks := builder.blocks.modify reference change }

/-- `ControlFlowGraph::add_edge`. -/
def addEdge (builder : Builder) (source target : Nat) : Builder :=
  builder.modifyBlock source fun block =>
    { block with successors := block.successors ++ [target] }

/-- `BasicBlock::add_statement` on a given block. -/
def addStatementTo (builder : Builder) (reference : Nat) (statement : Statement) :
    Builder :=
  builder.modifyBlock reference fun block =>
    { block with statements := block.statements ++ [statement] }

/-- `current_basic_block->add_statement`; there is no result when the pointer is
null. -/
def addStatement (builder : Builder) (statement : Statement) : Option Builder :=
  builder.current.map fun reference => builder.addStatementTo reference statement

/-- Setting `current_basic_block`. -/
def setCurrent (builder : Builder) (current : Option Nat) : Builder :=
  { builder with current := current }

/-- `current_basic_block && !current_basic_block->ends_with_control_flow()`. -/
def fallsThrough (builder : Builder) : Bool :=
  match builder.current with
  | none => false
  | some reference => !(builder.block reference).endsWithControlFlow

/-- An edge from the current block, when control falls through its end. -/
def addFallThrough (builder : Builder) (target : Nat) : Builder :=
  match builder.current with
  | none => builder
  | some reference =>
      if builder.fallsThrough then builder.addEdge reference target else builder

/-- An edge from the current block, however it ends. -/
def addEdgeFromCurrent (builder : Builder) (target : Nat) : Builder :=
  match builder.current with
  | none => builder
  | some reference => builder.addEdge reference target

/-- `end_current_block_and_start_new`. -/
def endCurrentBlockAndStartNew (builder : Builder) : Builder :=
  match builder.current with
  | none => (builder.createBlock "BB_").setCurrent (some builder.fresh)
  | some reference =>
      if builder.fallsThrough then
        ((builder.createBlock "BB_").addEdge reference builder.fresh).setCurrent
          (some builder.fresh)
      else builder

/-- `if (!current_basic_block) end_current_block_and_start_new()`; a compound
statement creates its blocks in the same way. -/
def ensureCurrent (builder : Builder) : Builder :=
  match builder.current with
  | none => (builder.createBlock "BB_").setCurrent (some builder.fresh)
  | some _ => builder

/-- The exit block, created when it is first needed. -/
def ensureExit (builder : Builder) : Builder :=
  match builder.exitBlock with
  | some _ => builder
  | none =>
      { (builder.createBlock "Exit_").modifyBlock builder.fresh
          (fun block => { block with isExit := true }) with
        exitBlock := some builder.fresh }

/-- The next hidden name of a `FOREACH`. -/
def hiddenName (builder : Builder) (idPrefix : String) : String :=
  idPrefix ++ toString builder.blockIdCounter

/-- `block_id_counter++`. -/
def countHidden (builder : Builder) : Builder :=
  { builder with blockIdCounter := builder.blockIdCounter + 1 }

/-- `break_targets.push_back` and `loop_targets.push_back`. -/
def pushLoop (builder : Builder) (exit advance : Nat) : Builder :=
  { builder with
    breakTargets := exit :: builder.breakTargets
    loopTargets := advance :: builder.loopTargets }

/-- `loop_targets.pop_back` and `break_targets.pop_back`; popping an empty vector
is undefined. -/
def popLoop (builder : Builder) : Option Builder :=
  match builder.breakTargets, builder.loopTargets with
  | _ :: breakTargets, _ :: loopTargets =>
      some { builder with breakTargets := breakTargets, loopTargets := loopTargets }
  | _, _ => none

/-- The guarded pops at the end of `visit(ForEachStatement&)`. -/
def popLoopIfAny (builder : Builder) : Builder :=
  { builder with
    breakTargets := builder.breakTargets.tail
    loopTargets := builder.loopTargets.tail }

/-- `endcase_targets.push_back`. -/
def pushEndcase (builder : Builder) (join : Nat) : Builder :=
  { builder with endcaseTargets := join :: builder.endcaseTargets }

/-- `endcase_targets.pop_back`. -/
def popEndcase (builder : Builder) : Option Builder :=
  match builder.endcaseTargets with
  | _ :: endcaseTargets => some { builder with endcaseTargets := endcaseTargets }
  | [] => none

end Builder

end ControlFlow
end NewBcpl
