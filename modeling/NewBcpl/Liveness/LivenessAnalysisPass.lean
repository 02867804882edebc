import NewBcpl.ControlFlow.ControlFlowGraph
import NewBcpl.Foundations.DataFlow

namespace NewBcpl
namespace Liveness

open ControlFlow

/-!
# The liveness analysis

`LivenessAnalysisPass`. The statements of a block are visited in turn and fill its use
and def sets; then the in sets are computed in rounds over all blocks of all graphs. A
block is the place of its graph in the list of graphs and its reference there. The maps
of blocks have no fixed order, so the order in which the rounds take the blocks is a
parameter.
-/

/-- `current_use_set_` and `current_def_set_`. -/
structure CurrentSets where
  useSet : Finset String
  defSet : Finset String

namespace CurrentSets

/-- The sets at the start of `analyze_block`. -/
def empty : CurrentSets :=
  { useSet := ∅, defSet := ∅ }

/-- `visit(VariableAccess&)`: a use, if the variable is not already defined. -/
def access (sets : CurrentSets) (name : String) : CurrentSets :=
  if name ∈ sets.defSet then sets
  else { sets with useSet := insert name sets.useSet }

/-- `current_def_set_.insert`. -/
def define (sets : CurrentSets) (name : String) : CurrentSets :=
  { sets with defSet := insert name sets.defSet }

/-- The targets of an assignment: only variables count. -/
def defineTargets (sets : CurrentSets) : List Expression -> CurrentSets
  | [] => sets
  | .variableAccess name :: rest => (sets.define name).defineTargets rest
  | _ :: rest => sets.defineTargets rest

end CurrentSets

mutual

/-- `visit` on the expressions. Bitfields, lists, vector initializers, `FVEC` and
`FLOATVALOF` are not entered. -/
def visitExpression : Expression -> CurrentSets -> CurrentSets
  | .variableAccess name, sets => sets.access name
  | .binaryOp _ left right, sets => visitExpression right (visitExpression left sets)
  | .unaryOp _ operand, sets => visitExpression operand sets
  | .functionCall function arguments, sets =>
      visitExpressions arguments (visitExpression function sets)
  | .vectorAccess vector index, sets => visitExpression index (visitExpression vector sets)
  | .charIndirection string index, sets =>
      visitExpression index (visitExpression string sets)
  | .floatVectorIndirection vector index, sets =>
      visitExpression index (visitExpression vector sets)
  | .conditional condition trueExpr falseExpr, sets =>
      visitExpression falseExpr (visitExpression trueExpr (visitExpression condition sets))
  | .valof body, sets => visitStatement body sets
  | .sysCall _ _ arguments, sets => visitExpressions arguments sets
  | .vecAllocation size, sets => visitExpression size sets
  | .stringAllocation size, sets => visitExpression size sets
  | .table initializers _, sets => visitExpressions initializers sets
  | .integerLiteral _, sets | .floatLiteral _, sets | .stringLiteral _, sets
  | .charLiteral _, sets | .booleanLiteral _, sets | .bitfieldAccess _ _ _, sets
  | .floatValof _, sets | .fvecAllocation _, sets | .vecInitializer _, sets
  | .list _ _, sets => sets

def visitExpressions : List Expression -> CurrentSets -> CurrentSets
  | [], sets => sets
  | expression :: rest, sets => visitExpressions rest (visitExpression expression sets)

def visitExpressionPtr : Option Expression -> CurrentSets -> CurrentSets
  | none, sets => sets
  | some expression, sets => visitExpression expression sets

/-- `visit` on the statements. A `LET`, a `FOREACH`, the condition of a `REPEAT` and the
size of a `STRING` are not entered, and neither are the targets of an assignment. -/
def visitStatement : Statement -> CurrentSets -> CurrentSets
  | .assignment lhs rhs, sets => (visitExpressions rhs sets).defineTargets lhs
  | .routineCall routine arguments, sets =>
      visitExpressions arguments (visitExpression routine sets)
  | .ifStatement condition thenBranch, sets =>
      visitStatement thenBranch (visitExpression condition sets)
  | .unless condition thenBranch, sets =>
      visitStatement thenBranch (visitExpression condition sets)
  | .test condition thenBranch elseBranch, sets =>
      visitStatement elseBranch (visitStatement thenBranch (visitExpression condition sets))
  | .whileStatement condition body, sets =>
      visitStatement body (visitExpression condition sets)
  | .untilStatement condition body, sets =>
      visitStatement body (visitExpression condition sets)
  | .repeatStatement _ body _, sets => visitStatement body sets
  | .forStatement _ _ startExpr endExpr stepExpr body, sets =>
      visitStatement body (visitExpressionPtr stepExpr
        (visitExpression endExpr (visitExpression startExpr sets)))
  | .switchon expression cases defaultCase, sets =>
      visitStatementPtr defaultCase (visitCases cases (visitExpression expression sets))
  | .resultis expression, sets => visitExpression expression sets
  | .compound statements, sets => visitStatements statements sets
  | .block _ statements, sets => visitStatements statements sets
  | .free listExpr, sets => visitExpression listExpr sets
  | .conditionalBranch _ _ conditionExpr, sets => visitExpression conditionExpr sets
  | .misplacedExpression expression, sets => visitExpression expression sets
  | .letDeclaration _ _, sets | .forEach _ _ _ _ _ _, sets | .goto _, sets
  | .returnStatement, sets | .finish, sets | .breakStatement, sets | .brk, sets
  | .loop, sets | .endcase, sets | .stringStatement _, sets | .labelTarget _, sets => sets

def visitStatements : List Statement -> CurrentSets -> CurrentSets
  | [], sets => sets
  | statement :: rest, sets => visitStatements rest (visitStatement statement sets)

def visitStatementPtr : Option Statement -> CurrentSets -> CurrentSets
  | none, sets => sets
  | some statement, sets => visitStatement statement sets

def visitCases : List CaseStatement -> CurrentSets -> CurrentSets
  | [], sets => sets
  | .mk constantExpr _ command :: rest, sets =>
      visitCases rest (visitStatement command (visitExpression constantExpr sets))

end

/-- `analyze_block`: the use and def sets of a block. -/
def analyzeBlock (block : BasicBlock) : CurrentSets :=
  visitStatements block.statements .empty

/-- A block of the graphs: the place of its graph and its reference. -/
abbrev BlockRef : Type := Nat × Nat

/-- The block at a place; where there is none it is the block that no block is. -/
def blockAt (cfgs : List Builder) (reference : BlockRef) : BasicBlock :=
  match cfgs[reference.1]? with
  | some cfg => cfg.block reference.2
  | none => BasicBlock.missing

/-- The successors, and the sets of `compute_use_def_sets`. -/
def flowGraph (cfgs : List Builder) : Foundations.DataFlow.FlowGraph BlockRef String where
  successors reference :=
    (blockAt cfgs reference).successors.map fun successor => (reference.1, successor)
  uses reference := (analyzeBlock (blockAt cfgs reference)).useSet
  defs reference := (analyzeBlock (blockAt cfgs reference)).defSet

/-- An order in which a round takes the blocks: all of them occur. -/
structure Order (cfgs : List Builder) where
  blocks : List BlockRef
  complete : forall cfg (isGraph : cfg < cfgs.length) block,
    block < (cfgs.get ⟨cfg, isGraph⟩).blocks.length -> (cfg, block) ∈ blocks

/-- `run_data_flow_analysis`: the in sets, if the rounds end with the fuel. -/
def runDataFlowAnalysis (cfgs : List Builder) (order : Order cfgs) (fuel : Nat) :
    Option (BlockRef -> Finset String) :=
  Foundations.DataFlow.rounds (flowGraph cfgs) order.blocks fuel fun _ => ∅

end Liveness
end NewBcpl
