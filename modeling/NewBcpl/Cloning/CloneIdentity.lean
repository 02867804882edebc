import NewBcpl.Cloning.AstCloner

namespace NewBcpl
namespace CompleteTree

/-!
# Which trees equal their clones

By induction on the tree: a node equals its clone exactly when its children do and no
member that the clone leaves out is set.
-/

mutual

theorem Expression.clone_eq_self_iff : forall tree : Expression, tree.clone = tree <-> tree.isPlain
  | .integerLiteral _ | .floatLiteral _ | .stringLiteral _ | .charLiteral _
  | .booleanLiteral _ => iff_of_true rfl rfl
  | .variableAccess _ uniqueName => by
      simp [@eq_comm _ "" uniqueName]
  | .binaryOp _ left right => by
      have leftIff := left.clone_eq_self_iff
      have rightIff := right.clone_eq_self_iff
      simp [leftIff, rightIff]
  | .unaryOp _ operand => by
      have operandIff := operand.clone_eq_self_iff
      simp [operandIff]
  | .vectorAccess vectorExpr indexExpr => by
      have vectorIff := vectorExpr.clone_eq_self_iff
      have indexIff := indexExpr.clone_eq_self_iff
      simp [vectorIff, indexIff]
  | .charIndirection stringExpr indexExpr => by
      have stringIff := stringExpr.clone_eq_self_iff
      have indexIff := indexExpr.clone_eq_self_iff
      simp [stringIff, indexIff]
  | .floatVectorIndirection vectorExpr indexExpr => by
      have vectorIff := vectorExpr.clone_eq_self_iff
      have indexIff := indexExpr.clone_eq_self_iff
      simp [vectorIff, indexIff]
  | .bitfieldAccess baseExpr startBitExpr widthExpr => by
      have baseIff := baseExpr.clone_eq_self_iff
      have startIff := startBitExpr.clone_eq_self_iff
      have widthIff := widthExpr.clone_eq_self_iff
      simp [baseIff, startIff, widthIff, and_assoc]
  | .functionCall functionExpr arguments => by
      have functionIff := functionExpr.clone_eq_self_iff
      have argumentsIff := cloneExpressions_eq_iff arguments
      simp [functionIff, argumentsIff]
  | .sysCall _ syscallNumber arguments => by
      have numberIff := cloneExpressionPtr_eq_iff syscallNumber
      have argumentsIff := cloneExpressions_eq_iff arguments
      simp [numberIff, argumentsIff]
  | .conditional condition trueExpr falseExpr => by
      have conditionIff := condition.clone_eq_self_iff
      have trueIff := trueExpr.clone_eq_self_iff
      have falseIff := falseExpr.clone_eq_self_iff
      simp [conditionIff, trueIff, falseIff, and_assoc]
  | .valof body => by
      have bodyIff := body.clone_eq_self_iff
      simp [bodyIff]
  | .floatValof body => by
      have bodyIff := body.clone_eq_self_iff
      simp [bodyIff]
  | .vecAllocation sizeExpr variableName => by
      have sizeIff := sizeExpr.clone_eq_self_iff
      simp [sizeIff, @eq_comm _ "" variableName]
  | .fvecAllocation sizeExpr variableName => by
      have sizeIff := sizeExpr.clone_eq_self_iff
      simp [sizeIff, @eq_comm _ "" variableName]
  | .stringAllocation sizeExpr => by
      have sizeIff := sizeExpr.clone_eq_self_iff
      simp [sizeIff]
  | .table initializers _ => by
      have initializersIff := cloneExpressions_eq_iff initializers
      simp [initializersIff]
  | .vecInitializer initializers => by
      have initializersIff := cloneExpressions_eq_iff initializers
      simp [initializersIff]
  | .list initializers _ => by
      have initializersIff := cloneExpressions_eq_iff initializers
      simp [initializersIff]

theorem cloneExpressions_eq_iff :
    forall trees : List Expression, cloneExpressions trees = trees <-> arePlainExpressions trees
  | [] => by simp
  | tree :: rest => by
      have treeIff := tree.clone_eq_self_iff
      have restIff := cloneExpressions_eq_iff rest
      simp [treeIff, restIff]

theorem cloneExpressionPtr_eq_iff :
    forall pointer : Option Expression,
      cloneExpressionPtr pointer = pointer <-> isPlainExpressionPtr pointer
  | none => by simp
  | some tree => by
      have treeIff := tree.clone_eq_self_iff
      simp [treeIff]

theorem Statement.clone_eq_self_iff : forall tree : Statement, tree.clone = tree <-> tree.isPlain
  | .letDeclaration _ initializers isFloatDeclaration => by
      have initializersIff := cloneExpressions_eq_iff initializers
      simp [initializersIff, @eq_comm _ false isFloatDeclaration]
  | .assignment lhs rhs => by
      have lhsIff := cloneExpressions_eq_iff lhs
      have rhsIff := cloneExpressions_eq_iff rhs
      simp [lhsIff, rhsIff]
  | .routineCall routineExpr arguments => by
      have routineIff := routineExpr.clone_eq_self_iff
      have argumentsIff := cloneExpressions_eq_iff arguments
      simp [routineIff, argumentsIff]
  | .ifStatement condition thenBranch => by
      have conditionIff := condition.clone_eq_self_iff
      have thenIff := thenBranch.clone_eq_self_iff
      simp [conditionIff, thenIff]
  | .unless condition thenBranch => by
      have conditionIff := condition.clone_eq_self_iff
      have thenIff := thenBranch.clone_eq_self_iff
      simp [conditionIff, thenIff]
  | .test condition thenBranch elseBranch => by
      have conditionIff := condition.clone_eq_self_iff
      have thenIff := thenBranch.clone_eq_self_iff
      have elseIff := cloneStatementPtr_eq_iff elseBranch
      simp [conditionIff, thenIff, elseIff, and_assoc]
  | .whileStatement condition body => by
      have conditionIff := condition.clone_eq_self_iff
      have bodyIff := body.clone_eq_self_iff
      simp [conditionIff, bodyIff]
  | .untilStatement condition body => by
      have conditionIff := condition.clone_eq_self_iff
      have bodyIff := body.clone_eq_self_iff
      simp [conditionIff, bodyIff]
  | .repeatStatement _ body condition => by
      have bodyIff := body.clone_eq_self_iff
      have conditionIff := cloneExpressionPtr_eq_iff condition
      simp [bodyIff, conditionIff]
  | .forStatement _ _ _ _ startExpr endExpr stepExpr body => by
      have startIff := startExpr.clone_eq_self_iff
      have endIff := endExpr.clone_eq_self_iff
      have stepIff := cloneExpressionPtr_eq_iff stepExpr
      have bodyIff := body.clone_eq_self_iff
      simp [startIff, endIff, stepIff, bodyIff, and_assoc]
  | .forEach _ _ collectionExpression body _ inferredElementType => by
      have collectionIff := collectionExpression.clone_eq_self_iff
      have bodyIff := body.clone_eq_self_iff
      simp [collectionIff, bodyIff, and_assoc,
        @eq_comm _ VarType.unknown inferredElementType]
  | .switchon expression cases defaultCase => by
      have expressionIff := expression.clone_eq_self_iff
      have casesIff := cloneCases_eq_iff cases
      have defaultIff := cloneDefaultPtr_eq_iff defaultCase
      simp [expressionIff, casesIff, defaultIff, and_assoc]
  | .goto labelExpr => by
      have labelIff := labelExpr.clone_eq_self_iff
      simp [labelIff]
  | .finish syscallNumber arguments => by
      simp [@eq_comm _ none syscallNumber, @eq_comm _ [] arguments]
  | .resultis expression => by
      have expressionIff := expression.clone_eq_self_iff
      simp [expressionIff]
  | .compound statements => by
      have statementsIff := cloneStatements_eq_iff statements
      simp [statementsIff]
  | .block declarations statements => by
      have statementsIff := cloneStatements_eq_iff statements
      simp [statementsIff, @eq_comm _ [] declarations]
  | .stringStatement sizeExpr => by
      have sizeIff := sizeExpr.clone_eq_self_iff
      simp [sizeIff]
  | .free listExpr => by
      have listIff := listExpr.clone_eq_self_iff
      simp [listIff]
  | .conditionalBranch _ _ conditionExpr => by
      have conditionIff := cloneExpressionPtr_eq_iff conditionExpr
      simp [conditionIff]
  | .returnStatement | .breakStatement | .brk | .loop | .endcase | .labelTarget _ => by
      simp

theorem cloneStatements_eq_iff :
    forall trees : List Statement, cloneStatements trees = trees <-> arePlainStatements trees
  | [] => by simp
  | tree :: rest => by
      have treeIff := tree.clone_eq_self_iff
      have restIff := cloneStatements_eq_iff rest
      simp [treeIff, restIff]

theorem cloneStatementPtr_eq_iff :
    forall pointer : Option Statement,
      cloneStatementPtr pointer = pointer <-> isPlainStatementPtr pointer
  | none => by simp
  | some tree => by
      have treeIff := tree.clone_eq_self_iff
      simp [treeIff]

theorem CaseStatement.clone_eq_self_iff :
    forall tree : CaseStatement, tree.clone = tree <-> tree.isPlain
  | .mk constantExpr command _ => by
      have constantIff := constantExpr.clone_eq_self_iff
      have commandIff := command.clone_eq_self_iff
      simp [constantIff, commandIff]

theorem cloneCases_eq_iff :
    forall trees : List CaseStatement, cloneCases trees = trees <-> arePlainCases trees
  | [] => by simp
  | tree :: rest => by
      have treeIff := tree.clone_eq_self_iff
      have restIff := cloneCases_eq_iff rest
      simp [treeIff, restIff]

theorem DefaultStatement.clone_eq_self_iff :
    forall tree : DefaultStatement, tree.clone = tree <-> tree.isPlain
  | .mk command => by
      have commandIff := command.clone_eq_self_iff
      simp [commandIff]

theorem cloneDefaultPtr_eq_iff :
    forall pointer : Option DefaultStatement,
      cloneDefaultPtr pointer = pointer <-> isPlainDefaultPtr pointer
  | none => by simp
  | some tree => by
      have treeIff := tree.clone_eq_self_iff
      simp [treeIff]

end

theorem Declaration.clone_eq_self_iff (tree : Declaration) :
    tree.clone = tree <-> tree.isPlain := by
  cases tree with
  | manifestDeclaration name value => simp
  | staticDeclaration name initializer isFloat => simp [initializer.clone_eq_self_iff]
  | globalDeclaration globals => simp
  | globalVariableDeclaration names initializers isFloat =>
      simp [cloneExpressions_eq_iff initializers]
  | functionDeclaration name parameters body => simp [body.clone_eq_self_iff]
  | routineDeclaration name parameters body => simp [body.clone_eq_self_iff]
  | labelDeclaration name command => simp [command.clone_eq_self_iff]

theorem cloneDeclarations_eq_iff (trees : List Declaration) :
    trees.map Declaration.clone = trees <-> trees.all Declaration.isPlain := by
  induction trees with
  | nil => simp
  | cons tree rest ih =>
      have treeIff := tree.clone_eq_self_iff
      rw [List.map_cons, List.cons.injEq, List.all_cons, Bool.and_eq_true, treeIff, ih]

/-- A node of any class equals its clone exactly when no member that a clone leaves
out is set anywhere below it. -/
theorem Node.clone_eq_iff (node : Node) : node.clone = node <-> node.isPlain := by
  cases node with
  | program tree =>
      have declarationsIff := cloneDeclarations_eq_iff tree.declarations
      have statementsIff := cloneStatements_eq_iff tree.statements
      rcases tree with ⟨declarations, statements⟩
      simp only [Node.clone, Program.clone, Node.isPlain, Node.program.injEq,
        Program.mk.injEq, Bool.and_eq_true]
      exact and_congr declarationsIff statementsIff
  | declaration tree =>
      simp only [Node.clone, Node.isPlain, Node.declaration.injEq]
      exact tree.clone_eq_self_iff
  | statement tree =>
      simp only [Node.clone, Node.isPlain, Node.statement.injEq]
      exact tree.clone_eq_self_iff
  | caseStatement tree =>
      simp only [Node.clone, Node.isPlain, Node.caseStatement.injEq]
      exact tree.clone_eq_self_iff
  | defaultStatement tree =>
      simp only [Node.clone, Node.isPlain, Node.defaultStatement.injEq]
      exact tree.clone_eq_self_iff
  | expression tree =>
      simp only [Node.clone, Node.isPlain, Node.expression.injEq]
      exact tree.clone_eq_self_iff

/-- The clone of `$( MANIFEST n = 1; f(n) $)` has lost the manifest. -/
theorem clone_loses_declarations :
    ¬ forall node : Node, node.clone = node := by
  intro same
  have lost := same (.statement (.block [.manifestDeclaration "n" 1]
    [.routineCall (.variableAccess "f" "") [.variableAccess "n" ""]]))
  simp [Node.clone] at lost

end CompleteTree
end NewBcpl
