import NewBcpl.ControlFlow.ControlFlowGraph

namespace NewBcpl
namespace ControlFlow

open Builder

/-!
# The construction of the control-flow graph

`CFGBuilderPass`, one visit function for each node. A visit takes the state of
the builder to the next one, or to nothing where the source dereferences a null
`current_basic_block`, pops an empty vector, or creates a second block under the
id of a label block (the map of blocks would destroy the first one, to which
there are pointers). The types of collections come from the analyzer and are a
parameter.
-/

/-- `switch (collection_type)` in `visit(ForEachStatement&)`. -/
def isListType : VarType -> Bool
  | .pointerToAnyList | .constPointerToAnyList | .pointerToIntList
  | .constPointerToIntList | .pointerToFloatList | .constPointerToFloatList
  | .pointerToStringList | .constPointerToStringList => true
  | _ => false

/-- An assignment of one expression to one variable. -/
def assignVariable (name : String) (expression : Expression) : Statement :=
  .assignment [.variableAccess name] [expression]

/-- `LET` of one name. -/
def letVariable (name : String) (expression : Expression) : Statement :=
  .letDeclaration [name] [expression]

/-- The access to the element of a vector, a string or a float vector. -/
def elementAccess (collectionType : VarType) (collection index : Expression) :
    Expression :=
  match collectionType with
  | .pointerToString => .charIndirection collection index
  | .pointerToFloatVec => .floatVectorIndirection collection index
  | _ => .vectorAccess collection index

namespace Builder

/-- The jump out of a construct: the statement, an edge to the back of a stack
unless that is empty, and no current block afterwards. -/
def visitJump (builder : Builder) (statement : Statement) (targets : List Nat) :
    Option Builder :=
  (builder.ensureCurrent.addStatement statement).map fun added =>
    match added.current, targets with
    | some reference, target :: _ => (added.addEdge reference target).setCurrent none
    | _, _ => added.setCurrent none

/-- `visit(ReturnStatement&)` and `visit(ResultisStatement&)`. -/
def visitLeave (builder : Builder) (statement : Statement) : Option Builder :=
  (builder.ensureCurrent.addStatement statement).map fun added =>
    let exiting := added.ensureExit
    match exiting.current, exiting.exitBlock with
    | some reference, some exit => (exiting.addEdge reference exit).setCurrent none
    | _, _ => exiting.setCurrent none

/-- `visit(GotoStatement&)`. -/
def visitGoto (builder : Builder) (label : Expression) : Option Builder :=
  (builder.ensureCurrent.addStatement (.goto label)).map fun added =>
    match added.current with
    | some reference =>
        { added with
          unresolvedGotos := added.unresolvedGotos ++ [(label, reference)]
          current := none }
    | none => added

/-- The id that the block of a label gets. -/
def labelId (builder : Builder) (labelName : String) : String :=
  builder.freshId ("Label_" ++ labelName)

/-- `visit(LabelTargetStatement&)`. -/
def visitLabelTarget (builder : Builder) (labelName : String) : Option Builder :=
  if builder.blocks.any fun block => block.id == builder.labelId labelName then none
  else
    let label := builder.fresh
    let created := builder.createBlock ("Label_" ++ labelName)
    let registered :=
      { created with labelTargets := (labelName, label) :: created.labelTargets }
    ((registered.addFallThrough label).setCurrent (some label)).addStatement
      (.labelTarget labelName)

/-- The blocks of an `IF`, up to the visit of its branch: the then block is
current, the join block comes after it. -/
def enterIf (builder : Builder) (statement : Statement) : Option Builder :=
  (builder.ensureCurrent.addStatement statement).map fun added =>
    match added.current with
    | some condition =>
        let thenBlock := added.fresh
        let blocks := (added.createBlock "Then_").createBlock "Join_"
        ((blocks.addEdge condition thenBlock).addEdge condition (thenBlock + 1)).setCurrent
          (some thenBlock)
    | none => added

/-- The blocks of a `FOR`, up to the visit of its body: header, body, increment
and exit are created in this order, and the targets are pushed. -/
def enterFor (builder : Builder) (statement : Statement) (uniqueName : String)
    (startExpr : Expression) : Option Builder :=
  (builder.addStatement (assignVariable uniqueName startExpr)).map fun initialized =>
    match initialized.current with
    | some init =>
        let header := initialized.fresh
        let linked := (initialized.createBlock "ForHeader_").addEdge init header
        let blocks := ((linked.createBlock "ForBody_").createBlock
          "ForIncrement_").createBlock "ForExit_"
        let filled := (blocks.pushLoop (header + 3) (header + 2)).addStatementTo header
          statement
        ((filled.addEdge header (header + 1)).addEdge header (header + 3)).setCurrent
          (some (header + 1))
    | none => initialized

/-- The end of a `FOR` after the visit of its body. -/
def leaveFor (builder : Builder) (header : Nat) (uniqueName : String)
    (stepExpr : Option Expression) : Option Builder :=
  let joined := builder.addEdgeFromCurrent (header + 2)
  let advanced := joined.addStatementTo (header + 2)
    (assignVariable uniqueName (.binaryOp .add (.variableAccess uniqueName)
      (stepExpr.getD (.integerLiteral 1#64))))
  ((advanced.addEdge (header + 2) header).setCurrent (some (header + 3))).popLoop

/-- `build_vector_foreach_cfg` up to the visit of the body. -/
def enterVectorForEach (builder : Builder) (loopVariableName : String)
    (collection : Expression) (collectionType : VarType) : Option Builder := do
  let collectionName := builder.hiddenName "_forEach_vec_"
  let lengthName := builder.countHidden.hiddenName "_forEach_len_"
  let indexName := builder.countHidden.countHidden.hiddenName "_forEach_idx_"
  let counted := builder.countHidden.countHidden.countHidden.ensureCurrent
  let first <- counted.addStatement (letVariable collectionName collection)
  let second <- first.addStatement (letVariable lengthName
    (.unaryOp .lengthOf (.variableAccess collectionName)))
  let third <- second.addStatement (letVariable indexName (.integerLiteral 0#64))
  let init <- third.current
  let header := third.fresh
  let blocks := (((third.createBlock "ForEachHeader_").createBlock
    "ForEachBody_").createBlock "ForEachIncrement_").createBlock "ForEachExit_"
  let linked := blocks.addEdge init header
  let tested := linked.addStatementTo header (.conditionalBranch "NE"
    (blocks.block (header + 3)).id
    (.binaryOp .greaterEqual (.variableAccess indexName) (.variableAccess lengthName)))
  let branched := (tested.addEdge header (header + 1)).addEdge header (header + 3)
  let body <- (branched.setCurrent (some (header + 1))).addStatement
    (assignVariable loopVariableName (elementAccess collectionType
      (.variableAccess collectionName) (.variableAccess indexName)))
  return body.pushLoop (header + 3) (header + 2)

/-- `build_vector_foreach_cfg` after the visit of the body. -/
def leaveVectorForEach (builder : Builder) (header : Nat) (indexName : String) :
    Option Builder :=
  let joined := builder.addFallThrough (header + 2)
  let advanced := joined.addStatementTo (header + 2)
    (assignVariable indexName (.binaryOp .add (.variableAccess indexName)
      (.integerLiteral 1#64)))
  ((advanced.addEdge (header + 2) header).setCurrent (some (header + 3))).popLoop

/-- The statements at the head of the body of a `FOREACH` over a list. -/
def listElementStatements (cursorName loopVariableName typeVariableName : String)
    (inferredElementType : VarType) : List Statement :=
  if typeVariableName = "" then
    assignVariable loopVariableName
        (.unaryOp (if inferredElementType = .float then .headOfAsFloat else .headOf)
          (.variableAccess cursorName)) ::
      if inferredElementType = .pointerToString then
        [assignVariable loopVariableName
          (.binaryOp .add (.variableAccess loopVariableName) (.integerLiteral 8#64))]
      else []
  else
    [letVariable typeVariableName (.unaryOp .typeOf (.variableAccess cursorName)),
      assignVariable loopVariableName (.variableAccess cursorName)]

/-- Adding several statements to one block. -/
def addStatementsTo (builder : Builder) (reference : Nat) (statements : List Statement) :
    Builder :=
  statements.foldl (fun current statement => current.addStatementTo reference statement)
    builder

/-- `build_list_foreach_cfg` up to the visit of the body. The stacks of targets
are as they were before the statement. -/
def enterListForEach (builder : Builder) (loopVariableName typeVariableName : String)
    (collection : Expression) (inferredElementType : VarType) : Option Builder := do
  let cursorName := builder.hiddenName "_forEach_cursor_"
  let initialized <- builder.countHidden.addStatement (letVariable cursorName
    (.unaryOp .indirection (.binaryOp .add collection (.integerLiteral 16#64))))
  let init <- initialized.current
  let header := initialized.fresh
  let blocks := ((initialized.createBlock "ForEachHeader_").createBlock
    "ForEachBody_").createBlock "ForEachExit_"
  let linked := blocks.addEdge init header
  let tested := linked.addStatementTo header (.conditionalBranch "EQ"
    (blocks.block (header + 2)).id (.variableAccess cursorName))
  let branched := (tested.addEdge header (header + 1)).addEdge header (header + 2)
  return (branched.addStatementsTo (header + 1)
    (listElementStatements cursorName loopVariableName typeVariableName
      inferredElementType)).setCurrent (some (header + 1))

/-- `build_list_foreach_cfg` after the visit of the body: only here are the
targets pushed. -/
def leaveListForEach (builder : Builder) (header : Nat) (cursorName : String) : Builder :=
  let advance := builder.fresh
  let joined := (builder.createBlock "ForEachAdvance_").addFallThrough advance
  let advanced := joined.addStatementTo advance (assignVariable cursorName
    (.unaryOp .tailOfNonDestructive (.variableAccess cursorName)))
  ((advanced.addEdge advance header).setCurrent (some (header + 2))).pushLoop
    (header + 2) header

/-- The edges from the header of a `SWITCHON`. -/
def addEdges (builder : Builder) (source : Nat) (targets : List Nat) : Builder :=
  targets.foldl (fun current target => current.addEdge source target) builder

/-- Creating the blocks of the cases, numbered from `index` on. -/
def createCaseBlocks (builder : Builder) (index : Nat) : List CaseStatement -> Builder
  | [] => builder
  | _ :: rest =>
      (builder.createBlock ("Case_" ++ toString index ++ "_")).createCaseBlocks
        (index + 1) rest

/-- The blocks of a `SWITCHON`, up to the visit of its cases: the join block, then
one block for each case, then the default block. -/
def enterSwitchon (builder : Builder) (statement : Statement)
    (cases : List CaseStatement) (hasDefault : Bool) : Option Builder :=
  (builder.endCurrentBlockAndStartNew.addStatement statement).map fun added =>
    match added.current with
    | some header =>
        let join := added.fresh
        let joined := (added.createBlock "SwitchJoin_").pushEndcase join
        let caseBlocks := joined.createCaseBlocks 0 cases
        let blocks :=
          if hasDefault then caseBlocks.createBlock "DefaultCase_" else caseBlocks
        let defaults := if hasDefault then [join + 1 + cases.length] else []
        blocks.addEdges header
          ((List.range' (join + 1) cases.length) ++ defaults ++ [join])
    | none => added

/-- The end of a `SWITCHON`. -/
def leaveSwitchon (builder : Builder) (join : Nat) : Option Builder :=
  (builder.setCurrent (some join)).popEndcase

/-- `resolve_gotos`. The labels of one name are in reverse order of their visits,
and the map keeps the last one. A label that is not found, like a computed one,
gives no edge. -/
def resolveGotos (builder : Builder) : Builder :=
  builder.unresolvedGotos.foldl (fun current pair =>
    match pair.1 with
    | .variableAccess labelName =>
        match builder.labelTargets.lookup labelName with
        | some target => current.addEdge pair.2 target
        | none => current
    | _ => current) builder

end Builder

mutual

/-- The visits of the expressions, which matter only for the bodies of `VALOF`
and `FVALOF` inside them. -/
def visitExpression (inferType : Expression -> VarType) :
    Expression -> Builder -> Option Builder
  | .binaryOp _ left right, builder => do
      visitExpression inferType right (<- visitExpression inferType left builder)
  | .unaryOp _ operand, builder => visitExpression inferType operand builder
  | .vectorAccess vector index, builder => do
      visitExpression inferType index (<- visitExpression inferType vector builder)
  | .charIndirection string index, builder => do
      visitExpression inferType index (<- visitExpression inferType string builder)
  | .floatVectorIndirection vector index, builder => do
      visitExpression inferType index (<- visitExpression inferType vector builder)
  | .functionCall function arguments, builder => do
      visitExpressions inferType arguments (<- visitExpression inferType function builder)
  | .conditional condition trueExpr falseExpr, builder => do
      let afterCondition <- visitExpression inferType condition builder
      let afterTrue <- visitExpression inferType trueExpr afterCondition
      visitExpression inferType falseExpr afterTrue
  | .valof body, builder => visitStatement inferType body builder
  | .floatValof body, builder => visitStatement inferType body builder
  | _, builder => some builder

/-- The expressions of a list in turn. -/
def visitExpressions (inferType : Expression -> VarType) :
    List Expression -> Builder -> Option Builder
  | [], builder => some builder
  | first :: rest, builder => do
      visitExpressions inferType rest (<- visitExpression inferType first builder)

/-- The initializers of a `LET`: each is visited before its assignment is added.
Names without an initializer add nothing. -/
def visitInitializers (inferType : Expression -> VarType) :
    List String -> List Expression -> Builder -> Option Builder
  | name :: names, initializer :: rest, builder => do
      let visited <- visitExpression inferType initializer builder
      let added <- visited.addStatement (assignVariable name initializer)
      visitInitializers inferType names rest added
  | _, _, builder => some builder

/-- The visits of the statements. Those of `UNLESS`, `TEST`, `WHILE`, `UNTIL`,
`REPEAT`, `FREEVEC` and of a conditional branch do nothing. -/
def visitStatement (inferType : Expression -> VarType) :
    Statement -> Builder -> Option Builder
  | .letDeclaration names initializers, builder =>
      visitInitializers inferType names initializers builder.ensureCurrent
  | .assignment lhs rhs, builder => do
      let added <- builder.ensureCurrent.addStatement (.assignment lhs rhs)
      visitExpressions inferType rhs (<- visitExpressions inferType lhs added)
  | .routineCall routine arguments, builder => do
      let added <- builder.ensureCurrent.addStatement (.routineCall routine arguments)
      visitExpressions inferType arguments (<- visitExpression inferType routine added)
  | .ifStatement condition thenBranch, builder => do
      let visited <- visitExpression inferType condition builder
      let join := visited.ensureCurrent.fresh + 1
      let entered <- visited.enterIf (.ifStatement condition thenBranch)
      let branch <- visitStatement inferType thenBranch entered
      return (branch.addFallThrough join).setCurrent (some join)
  | .unless _ _, builder => some builder
  | .test _ _ _, builder => some builder
  | .whileStatement _ _, builder => some builder
  | .untilStatement _ _, builder => some builder
  | .repeatStatement _ _ _, builder => some builder
  | .forStatement loopVariable uniqueName startExpr endExpr stepExpr body, builder => do
      let visited <- visitExpression inferType startExpr builder.ensureCurrent
      let entered <- visited.enterFor
        (.forStatement loopVariable uniqueName startExpr endExpr stepExpr body)
        uniqueName startExpr
      let inside <- visitStatement inferType body entered
      inside.leaveFor visited.fresh uniqueName stepExpr
  | .forEach loopVariableName typeVariableName collection body _ inferredElementType,
      builder => do
      let ensured := builder.ensureCurrent
      if isListType (inferType collection) then
        let entered <- ensured.enterListForEach loopVariableName typeVariableName
          collection inferredElementType
        let inside <- visitStatement inferType body entered
        return (inside.leaveListForEach ensured.fresh
          (ensured.hiddenName "_forEach_cursor_")).popLoopIfAny
      else
        let entered <- ensured.enterVectorForEach loopVariableName collection
          (inferType collection)
        let inside <- visitStatement inferType body entered
        let left <- inside.leaveVectorForEach ensured.fresh
          (ensured.countHidden.countHidden.hiddenName "_forEach_idx_")
        return left.popLoopIfAny
  | .switchon expression cases none, builder => do
      let join := builder.endCurrentBlockAndStartNew.fresh
      let entered <- builder.enterSwitchon (.switchon expression cases none) cases false
      let visited <- visitCases inferType join (join + 1) cases entered
      visited.leaveSwitchon join
  | .switchon expression cases (some defaultCase), builder => do
      let join := builder.endCurrentBlockAndStartNew.fresh
      let entered <- builder.enterSwitchon (.switchon expression cases (some defaultCase))
        cases true
      let visited <- visitCases inferType join (join + 1) cases entered
      let branch <- visitStatement inferType defaultCase
        (visited.setCurrent (some (join + 1 + cases.length)))
      (branch.addFallThrough join).leaveSwitchon join
  | .goto label, builder => builder.visitGoto label
  | .returnStatement, builder => builder.visitLeave .returnStatement
  | .finish, builder =>
      (builder.ensureCurrent.addStatement .finish).map fun added => added.setCurrent none
  | .breakStatement, builder => builder.visitJump .breakStatement builder.breakTargets
  | .brk, builder => builder.ensureCurrent.addStatement .brk
  | .loop, builder => builder.visitJump .loop builder.loopTargets
  | .endcase, builder => builder.visitJump .endcase builder.endcaseTargets
  | .resultis expression, builder => builder.visitLeave (.resultis expression)
  | .compound statements, builder => visitStatements inferType statements builder
  | .block declarations statements, builder => do
      visitStatements inferType statements
        (<- visitDeclarations inferType declarations builder)
  | .stringStatement size, builder => do
      let added <- builder.ensureCurrent.addStatement (.stringStatement size)
      visitExpression inferType size added
  | .free _, builder => some builder
  | .labelTarget labelName, builder => builder.visitLabelTarget labelName
  | .conditionalBranch _ _ _, builder => some builder
  | .misplacedExpression expression, builder => visitExpression inferType expression builder

/-- The statements of a compound statement or a block: a block is created
wherever there is no current one. -/
def visitStatements (inferType : Expression -> VarType) :
    List Statement -> Builder -> Option Builder
  | [], builder => some builder
  | first :: rest, builder => do
      visitStatements inferType rest
        (<- visitStatement inferType first builder.ensureCurrent)

/-- The commands of the cases, each in a block of its own. -/
def visitCases (inferType : Expression -> VarType) (join : Nat) :
    Nat -> List CaseStatement -> Builder -> Option Builder
  | _, [], builder => some builder
  | caseBlock, .mk _ _ command :: rest, builder => do
      let visited <- visitStatement inferType command
        (builder.setCurrent (some caseBlock))
      visitCases inferType join (caseBlock + 1) rest (visited.addFallThrough join)

/-- The declarations of a block; only a static one has an expression to visit. -/
def visitDeclarations (inferType : Expression -> VarType) :
    List Declaration -> Builder -> Option Builder
  | [], builder => some builder
  | .staticDeclaration _ initializer :: rest, builder => do
      visitDeclarations inferType rest
        (<- visitExpression inferType initializer builder.ensureCurrent)
  | _ :: rest, builder => visitDeclarations inferType rest builder.ensureCurrent

end

attribute [simp] visitExpression visitExpressions visitInitializers visitStatement
  visitStatements visitCases visitDeclarations

namespace Builder

/-- The state of the builder when it starts on a function: the entry block. -/
def start (functionName : String) : Builder :=
  let empty : Builder :=
    { functionName := functionName, blocks := [], exitBlock := none, current := none,
      breakTargets := [], loopTargets := [], endcaseTargets := [], labelTargets := [],
      unresolvedGotos := [], blockIdCounter := 0 }
  ((empty.createBlock "Entry_").modifyBlock 0 fun block =>
    { block with isEntry := true }).setCurrent (some 0)

/-- The end of a function: the edge to the exit block and the edges of the
`GOTO`s. -/
def finish (builder : Builder) : Builder :=
  if builder.fallsThrough then
    let exiting := builder.ensureExit
    (exiting.addFallThrough (exiting.exitBlock.getD 0)).resolveGotos
  else builder.resolveGotos

end Builder

/-- `visit(FunctionDeclaration&)` and `visit(RoutineDeclaration&)`. -/
def buildGraph (inferType : Expression -> VarType) :
    TopLevelDeclaration -> Option Builder
  | .function name _ body =>
      (visitExpression inferType body (Builder.start name)).map Builder.finish
  | .routine name _ body =>
      (visitStatement inferType body (Builder.start name)).map Builder.finish

end ControlFlow
end NewBcpl
