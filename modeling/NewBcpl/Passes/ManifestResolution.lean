import NewBcpl.Passes.ManifestBindings

namespace NewBcpl
namespace Passes

/-!
# Where the pass is right

Both the pass and the resolution replace uses of names and nothing else, so they agree
on a tree exactly when they agree at each use of a name in it.
-/

theorem replaced_none (name : String) : replaced none name = .variableAccess name := rfl

/-- Two replacements of one access are equal only if the same was found. -/
theorem replaced_eq_iff (first second : Option Word) (name : String) :
    replaced first name = replaced second name <-> first = second := by
  cases first <;> cases second <;> simp [replaced]

theorem replaced_eq_access (found : Option Word) (name : String) :
    replaced found name = .variableAccess name <-> found = none := by
  rw [<- replaced_none name]
  exact replaced_eq_iff found none name

attribute [local simp] visitExpression visitExpressions visitExpressionPtr visitStatement
  visitStatements visitStatementPtr visitCases visitDeclarations resolveExpression
  resolveExpressions resolveExpressionPtr resolveTargets resolveStatement
  resolveStatements resolveStatementPtr resolveCases resolveDeclarations agreesExpression
  agreesExpressions agreesExpressionPtr agreesTargets agreesStatement agreesStatements
  agreesStatementPtr agreesCases agreesDeclarations

/-! ## What the pass does not enter -/

mutual

theorem leftExpression_iff (bindings : Bindings) :
    forall tree : Expression,
      tree = resolveExpression false bindings tree <->
        agreesExpression none bindings tree
  | .variableAccess name => by
      rw [<- replaced_none name]
      simp only [replaced_none, resolveExpression, agreesExpression, lookup,
        Option.bind_none, beq_iff_eq]
      exact replaced_eq_iff none _ name
  | .binaryOp _ left right => by
      have leftIff := leftExpression_iff bindings left
      have rightIff := leftExpression_iff bindings right
      simp [leftIff, rightIff]
  | .unaryOp _ operand => by
      have operandIff := leftExpression_iff bindings operand
      simp [operandIff]
  | .vectorAccess vector index => by
      have vectorIff := leftExpression_iff bindings vector
      have indexIff := leftExpression_iff bindings index
      simp [vectorIff, indexIff]
  | .charIndirection string index => by
      have stringIff := leftExpression_iff bindings string
      have indexIff := leftExpression_iff bindings index
      simp [stringIff, indexIff]
  | .floatVectorIndirection vector index => by
      have vectorIff := leftExpression_iff bindings vector
      have indexIff := leftExpression_iff bindings index
      simp [vectorIff, indexIff]
  | .bitfieldAccess base startBit width => by
      have baseIff := leftExpression_iff bindings base
      have startBitIff := leftExpression_iff bindings startBit
      have widthIff := leftExpression_iff bindings width
      simp [baseIff, startBitIff, widthIff, and_assoc]
  | .functionCall function arguments => by
      have functionIff := leftExpression_iff bindings function
      have argumentsIff := leftExpressions_iff bindings arguments
      simp [functionIff, argumentsIff]
  | .sysCall _ syscallNumber arguments => by
      have syscallNumberIff := leftExpression_iff bindings syscallNumber
      have argumentsIff := leftExpressions_iff bindings arguments
      simp [syscallNumberIff, argumentsIff]
  | .conditional condition trueExpr falseExpr => by
      have conditionIff := leftExpression_iff bindings condition
      have trueExprIff := leftExpression_iff bindings trueExpr
      have falseExprIff := leftExpression_iff bindings falseExpr
      simp [conditionIff, trueExprIff, falseExprIff, and_assoc]
  | .valof body => by
      have bodyIff := leftStatement_iff bindings body
      simp [bodyIff]
  | .floatValof body => by
      have bodyIff := leftStatement_iff bindings body
      simp [bodyIff]
  | .vecAllocation size => by
      have sizeIff := leftExpression_iff bindings size
      simp [sizeIff]
  | .fvecAllocation size => by
      have sizeIff := leftExpression_iff bindings size
      simp [sizeIff]
  | .stringAllocation size => by
      have sizeIff := leftExpression_iff bindings size
      simp [sizeIff]
  | .table initializers _ => by
      have initializersIff := leftExpressions_iff bindings initializers
      simp [initializersIff]
  | .vecInitializer initializers => by
      have initializersIff := leftExpressions_iff bindings initializers
      simp [initializersIff]
  | .list initializers _ => by
      have initializersIff := leftExpressions_iff bindings initializers
      simp [initializersIff]
  | .integerLiteral _ | .floatLiteral _ | .stringLiteral _ | .charLiteral _
  | .booleanLiteral _ => iff_of_true rfl rfl

theorem leftExpressions_iff (bindings : Bindings) :
    forall trees : List Expression,
      trees = resolveExpressions false bindings trees <->
        agreesExpressions none bindings trees
  | [] => iff_of_true rfl rfl
  | tree :: rest => by
      have treeIff := leftExpression_iff bindings tree
      have restIff := leftExpressions_iff bindings rest
      simp [treeIff, restIff]

theorem leftExpressionPtr_iff (bindings : Bindings) :
    forall pointer : Option Expression,
      pointer = resolveExpressionPtr false bindings pointer <->
        agreesExpressionPtr none bindings pointer
  | none => iff_of_true rfl rfl
  | some tree => by
      have treeIff := leftExpression_iff bindings tree
      simp [treeIff]

/-- The targets, of which two kinds are no uses of their names. -/
theorem leftTargets_iff (bindings : Bindings) :
    forall trees : List Expression,
      trees = resolveTargets false bindings trees <->
        agreesTargets none bindings trees
  | [] => iff_of_true rfl rfl
  | tree :: rest => by
      have treeIff := leftExpression_iff bindings tree
      have restIff := leftTargets_iff bindings rest
      cases tree with
      | variableAccess name => simp [lookup, restIff]
      | bitfieldAccess base startBit width =>
          have startBitIff := leftExpression_iff bindings startBit
          have widthIff := leftExpression_iff bindings width
          cases base with
          | variableAccess name => simp [startBitIff, widthIff, restIff]
          | _ =>
              simp only [resolveTargets, agreesTargets, List.cons.injEq,
                Bool.and_eq_true, treeIff, restIff]
      | _ =>
          simp only [resolveTargets, agreesTargets, List.cons.injEq, Bool.and_eq_true,
            treeIff, restIff]

theorem leftStatement_iff (bindings : Bindings) :
    forall tree : Statement,
      tree = resolveStatement false bindings tree <->
        agreesStatement none bindings tree
  | .letDeclaration _ initializers => by
      have initializersIff := leftExpressions_iff bindings initializers
      simp [initializersIff]
  | .assignment lhs rhs => by
      have lhsIff := leftTargets_iff bindings lhs
      have rhsIff := leftExpressions_iff bindings rhs
      simp [lhsIff, rhsIff]
  | .routineCall routine arguments => by
      have routineIff := leftExpression_iff bindings routine
      have argumentsIff := leftExpressions_iff bindings arguments
      simp [routineIff, argumentsIff]
  | .ifStatement condition thenBranch => by
      have conditionIff := leftExpression_iff bindings condition
      have thenBranchIff := leftStatement_iff bindings thenBranch
      simp [conditionIff, thenBranchIff]
  | .unless condition thenBranch => by
      have conditionIff := leftExpression_iff bindings condition
      have thenBranchIff := leftStatement_iff bindings thenBranch
      simp [conditionIff, thenBranchIff]
  | .test condition thenBranch elseBranch => by
      have conditionIff := leftExpression_iff bindings condition
      have thenBranchIff := leftStatement_iff bindings thenBranch
      have elseBranchIff := leftStatement_iff bindings elseBranch
      simp [conditionIff, thenBranchIff, elseBranchIff, and_assoc]
  | .whileStatement condition body => by
      have conditionIff := leftExpression_iff bindings condition
      have bodyIff := leftStatement_iff bindings body
      simp [conditionIff, bodyIff]
  | .untilStatement condition body => by
      have conditionIff := leftExpression_iff bindings condition
      have bodyIff := leftStatement_iff bindings body
      simp [conditionIff, bodyIff]
  | .repeatStatement _ body condition => by
      have bodyIff := leftStatement_iff bindings body
      have conditionIff := leftExpressionPtr_iff bindings condition
      simp [bodyIff, conditionIff]
  | .forStatement loopVariable _ startExpr endExpr stepExpr body => by
      have startExprIff := leftExpression_iff bindings startExpr
      have endExprIff := leftExpression_iff bindings endExpr
      have stepExprIff := leftExpressionPtr_iff bindings stepExpr
      have bodyIff := leftStatement_iff (bindings.bind [loopVariable]) body
      simp [startExprIff, endExprIff, stepExprIff, bodyIff, and_assoc]
  | .forEach loopVariable typeVariable collection body _ _ => by
      have collectionIff := leftExpression_iff bindings collection
      have bodyIff := leftStatement_iff
        (bindings.bind (forEachNames loopVariable typeVariable)) body
      simp [collectionIff, bodyIff]
  | .switchon expression cases defaultCase => by
      have expressionIff := leftExpression_iff bindings expression
      have casesIff := leftCases_iff bindings cases
      have defaultCaseIff := leftStatementPtr_iff bindings defaultCase
      simp [expressionIff, casesIff, defaultCaseIff, and_assoc]
  | .goto label => by
      have labelIff := leftExpression_iff bindings label
      simp [labelIff]
  | .resultis expression => by
      have expressionIff := leftExpression_iff bindings expression
      simp [expressionIff]
  | .compound statements => by
      have statementsIff := leftStatements_iff bindings statements
      simp [statementsIff]
  | .block declarations statements => by
      have declarationsIff := leftDeclarations_iff bindings declarations
      have statementsIff := leftStatements_iff (bindings.afterDeclarations declarations)
        statements
      simp [declarationsIff, statementsIff]
  | .stringStatement size => by
      have sizeIff := leftExpression_iff bindings size
      simp [sizeIff]
  | .free listExpr => by
      have listExprIff := leftExpression_iff bindings listExpr
      simp [listExprIff]
  | .conditionalBranch _ _ conditionExpr => by
      have conditionExprIff := leftExpression_iff bindings conditionExpr
      simp [conditionExprIff]
  | .misplacedExpression expression => by
      have expressionIff := leftExpression_iff bindings expression
      simp [expressionIff]
  | .returnStatement | .finish | .breakStatement | .brk | .loop | .endcase
  | .labelTarget _ => iff_of_true rfl rfl

theorem leftStatements_iff (bindings : Bindings) :
    forall trees : List Statement,
      trees = resolveStatements false bindings trees <->
        agreesStatements none bindings trees
  | [] => iff_of_true rfl rfl
  | tree :: rest => by
      have treeIff := leftStatement_iff bindings tree
      have restIff := leftStatements_iff (bindings.afterStatement tree) rest
      simp [treeIff, restIff]

theorem leftStatementPtr_iff (bindings : Bindings) :
    forall pointer : Option Statement,
      pointer = resolveStatementPtr false bindings pointer <->
        agreesStatementPtr none bindings pointer
  | none => iff_of_true rfl rfl
  | some tree => by
      have treeIff := leftStatement_iff bindings tree
      simp [treeIff]

theorem leftCases_iff (bindings : Bindings) :
    forall trees : List CaseStatement,
      trees = resolveCases false bindings trees <->
        agreesCases none bindings trees
  | [] => iff_of_true rfl rfl
  | .mk constantExpr _ command :: rest => by
      have constantIff := leftExpression_iff bindings constantExpr
      have commandIff := leftStatement_iff bindings command
      have restIff := leftCases_iff bindings rest
      simp [constantIff, commandIff, restIff, and_assoc]

theorem leftDeclarations_iff (bindings : Bindings) :
    forall trees : List Declaration,
      trees = resolveDeclarations false bindings trees <->
        agreesDeclarations none bindings trees
  | [] => iff_of_true rfl rfl
  | .manifestDeclaration name value :: rest => by
      have restIff := leftDeclarations_iff (bindings.declare name value) rest
      simp [restIff]
  | .staticDeclaration _ initializer :: rest => by
      have initializerIff := leftExpression_iff bindings initializer
      have restIff := leftDeclarations_iff bindings rest
      simp [initializerIff, restIff]
  | .globalDeclaration _ :: rest => by
      have restIff := leftDeclarations_iff bindings rest
      simp [restIff]

end

/-! ## What the pass enters -/

mutual

theorem visitExpression_iff (scope : Scope) (bindings : Bindings) :
    forall tree : Expression,
      visitExpression scope tree = resolveExpression true bindings tree <->
        agreesExpression (some scope) bindings tree
  | .variableAccess name => by
      simp [replaced_eq_iff, lookup]
  | .binaryOp _ left right => by
      have leftIff := visitExpression_iff scope bindings left
      have rightIff := visitExpression_iff scope bindings right
      simp [leftIff, rightIff]
  | .unaryOp _ operand => by
      have operandIff := visitExpression_iff scope bindings operand
      simp [operandIff]
  | .vectorAccess vector index => by
      have vectorIff := visitExpression_iff scope bindings vector
      have indexIff := visitExpression_iff scope bindings index
      simp [vectorIff, indexIff]
  | .charIndirection string index => by
      have stringIff := visitExpression_iff scope bindings string
      have indexIff := visitExpression_iff scope bindings index
      simp [stringIff, indexIff]
  | .floatVectorIndirection vector index => by
      have vectorIff := visitExpression_iff scope bindings vector
      have indexIff := visitExpression_iff scope bindings index
      simp [vectorIff, indexIff]
  | .bitfieldAccess base startBit width => by
      have baseIff := leftExpression_iff bindings base
      have startBitIff := leftExpression_iff bindings startBit
      have widthIff := leftExpression_iff bindings width
      simp [baseIff, startBitIff, widthIff, and_assoc]
  | .functionCall function arguments => by
      have functionIff := visitExpression_iff scope bindings function
      have argumentsIff := visitExpressions_iff scope bindings arguments
      simp [functionIff, argumentsIff]
  | .sysCall _ syscallNumber arguments => by
      have syscallNumberIff := visitExpression_iff scope bindings syscallNumber
      have argumentsIff := visitExpressions_iff scope bindings arguments
      simp [syscallNumberIff, argumentsIff]
  | .conditional condition trueExpr falseExpr => by
      have conditionIff := visitExpression_iff scope bindings condition
      have trueExprIff := visitExpression_iff scope bindings trueExpr
      have falseExprIff := visitExpression_iff scope bindings falseExpr
      simp [conditionIff, trueExprIff, falseExprIff, and_assoc]
  | .valof body => by
      have bodyIff := visitStatement_iff scope bindings body
      simp [bodyIff]
  | .floatValof body => by
      have bodyIff := leftStatement_iff bindings body
      simp [bodyIff]
  | .vecAllocation size => by
      have sizeIff := visitExpression_iff scope bindings size
      simp [sizeIff]
  | .fvecAllocation size => by
      have sizeIff := leftExpression_iff bindings size
      simp [sizeIff]
  | .stringAllocation size => by
      have sizeIff := visitExpression_iff scope bindings size
      simp [sizeIff]
  | .table initializers _ => by
      have initializersIff := visitExpressions_iff scope bindings initializers
      simp [initializersIff]
  | .vecInitializer initializers => by
      have initializersIff := leftExpressions_iff bindings initializers
      simp [initializersIff]
  | .list initializers _ => by
      have initializersIff := leftExpressions_iff bindings initializers
      simp [initializersIff]
  | .integerLiteral _ | .floatLiteral _ | .stringLiteral _ | .charLiteral _
  | .booleanLiteral _ => iff_of_true rfl rfl

theorem visitExpressions_iff (scope : Scope) (bindings : Bindings) :
    forall trees : List Expression,
      visitExpressions scope trees = resolveExpressions true bindings trees <->
        agreesExpressions (some scope) bindings trees
  | [] => iff_of_true rfl rfl
  | tree :: rest => by
      have treeIff := visitExpression_iff scope bindings tree
      have restIff := visitExpressions_iff scope bindings rest
      simp [treeIff, restIff]

theorem visitExpressionPtr_iff (scope : Scope) (bindings : Bindings) :
    forall pointer : Option Expression,
      visitExpressionPtr scope pointer = resolveExpressionPtr true bindings pointer <->
        agreesExpressionPtr (some scope) bindings pointer
  | none => iff_of_true rfl rfl
  | some tree => by
      have treeIff := visitExpression_iff scope bindings tree
      simp [treeIff]

/-- The targets, of which two kinds are no uses of their names. -/
theorem visitTargets_iff (scope : Scope) (bindings : Bindings) :
    forall trees : List Expression,
      visitExpressions scope trees = resolveTargets true bindings trees <->
        agreesTargets (some scope) bindings trees
  | [] => iff_of_true rfl rfl
  | tree :: rest => by
      have treeIff := visitExpression_iff scope bindings tree
      have restIff := visitTargets_iff scope bindings rest
      cases tree with
      | variableAccess name => simp [replaced_eq_access, lookup, restIff]
      | bitfieldAccess base startBit width =>
          have startBitIff := leftExpression_iff bindings startBit
          have widthIff := leftExpression_iff bindings width
          cases base with
          | variableAccess name => simp [startBitIff, widthIff, restIff]
          | _ =>
              simp only [resolveTargets, agreesTargets, List.cons.injEq,
                Bool.and_eq_true, visitExpressions, treeIff, restIff]
      | _ =>
          simp only [resolveTargets, agreesTargets, List.cons.injEq, Bool.and_eq_true,
            visitExpressions, treeIff, restIff]

theorem visitStatement_iff (scope : Scope) (bindings : Bindings) :
    forall tree : Statement,
      visitStatement scope tree = resolveStatement true bindings tree <->
        agreesStatement (some scope) bindings tree
  | .letDeclaration _ initializers => by
      have initializersIff := visitExpressions_iff scope bindings initializers
      simp [initializersIff]
  | .assignment lhs rhs => by
      have lhsIff := visitTargets_iff scope bindings lhs
      have rhsIff := visitExpressions_iff scope bindings rhs
      simp [lhsIff, rhsIff]
  | .routineCall routine arguments => by
      have routineIff := visitExpression_iff scope bindings routine
      have argumentsIff := visitExpressions_iff scope bindings arguments
      simp [routineIff, argumentsIff]
  | .ifStatement condition thenBranch => by
      have conditionIff := visitExpression_iff scope bindings condition
      have thenBranchIff := visitStatement_iff scope bindings thenBranch
      simp [conditionIff, thenBranchIff]
  | .unless condition thenBranch => by
      have conditionIff := visitExpression_iff scope bindings condition
      have thenBranchIff := visitStatement_iff scope bindings thenBranch
      simp [conditionIff, thenBranchIff]
  | .test condition thenBranch elseBranch => by
      have conditionIff := visitExpression_iff scope bindings condition
      have thenBranchIff := visitStatement_iff scope bindings thenBranch
      have elseBranchIff := visitStatement_iff scope bindings elseBranch
      simp [conditionIff, thenBranchIff, elseBranchIff, and_assoc]
  | .whileStatement condition body => by
      have conditionIff := visitExpression_iff scope bindings condition
      have bodyIff := visitStatement_iff scope bindings body
      simp [conditionIff, bodyIff]
  | .untilStatement condition body => by
      have conditionIff := visitExpression_iff scope bindings condition
      have bodyIff := visitStatement_iff scope bindings body
      simp [conditionIff, bodyIff]
  | .repeatStatement _ body condition => by
      have bodyIff := visitStatement_iff scope bindings body
      have conditionIff := visitExpressionPtr_iff scope bindings condition
      simp [bodyIff, conditionIff]
  | .forStatement loopVariable _ startExpr endExpr stepExpr body => by
      have startExprIff := visitExpression_iff scope bindings startExpr
      have endExprIff := visitExpression_iff scope bindings endExpr
      have stepExprIff := visitExpressionPtr_iff scope bindings stepExpr
      have bodyIff := visitStatement_iff scope (bindings.bind [loopVariable]) body
      simp [startExprIff, endExprIff, stepExprIff, bodyIff, and_assoc]
  | .forEach loopVariable typeVariable collection body _ _ => by
      have collectionIff := leftExpression_iff bindings collection
      have bodyIff := leftStatement_iff
        (bindings.bind (forEachNames loopVariable typeVariable)) body
      simp [collectionIff, bodyIff]
  | .switchon expression cases defaultCase => by
      have expressionIff := visitExpression_iff scope bindings expression
      have casesIff := visitCases_iff scope bindings cases
      have defaultCaseIff := visitStatementPtr_iff scope bindings defaultCase
      simp [expressionIff, casesIff, defaultCaseIff, and_assoc]
  | .goto label => by
      have labelIff := visitExpression_iff scope bindings label
      simp [labelIff]
  | .resultis expression => by
      have expressionIff := visitExpression_iff scope bindings expression
      simp [expressionIff]
  | .compound statements => by
      have statementsIff := visitStatements_iff scope bindings statements
      simp [statementsIff]
  | .block declarations statements => by
      have declarationsIff := visitDeclarations_iff scope.push bindings declarations
      have statementsIff := visitStatements_iff (scope.push.afterDeclarations declarations)
        (bindings.afterDeclarations declarations) statements
      simp [declarationsIff, statementsIff]
  | .stringStatement size => by
      have sizeIff := visitExpression_iff scope bindings size
      simp [sizeIff]
  | .free listExpr => by
      have listExprIff := visitExpression_iff scope bindings listExpr
      simp [listExprIff]
  | .conditionalBranch _ _ conditionExpr => by
      have conditionExprIff := leftExpression_iff bindings conditionExpr
      simp [conditionExprIff]
  | .misplacedExpression expression => by
      have expressionIff := visitExpression_iff scope bindings expression
      simp [expressionIff]
  | .returnStatement | .finish | .breakStatement | .brk | .loop | .endcase
  | .labelTarget _ => iff_of_true rfl rfl

theorem visitStatements_iff (scope : Scope) (bindings : Bindings) :
    forall trees : List Statement,
      visitStatements scope trees = resolveStatements true bindings trees <->
        agreesStatements (some scope) bindings trees
  | [] => iff_of_true rfl rfl
  | tree :: rest => by
      have treeIff := visitStatement_iff scope bindings tree
      have restIff := visitStatements_iff scope (bindings.afterStatement tree) rest
      simp [treeIff, restIff]

theorem visitStatementPtr_iff (scope : Scope) (bindings : Bindings) :
    forall pointer : Option Statement,
      visitStatementPtr scope pointer = resolveStatementPtr true bindings pointer <->
        agreesStatementPtr (some scope) bindings pointer
  | none => iff_of_true rfl rfl
  | some tree => by
      have treeIff := visitStatement_iff scope bindings tree
      simp [treeIff]

theorem visitCases_iff (scope : Scope) (bindings : Bindings) :
    forall trees : List CaseStatement,
      visitCases scope trees = resolveCases true bindings trees <->
        agreesCases (some scope) bindings trees
  | [] => iff_of_true rfl rfl
  | .mk constantExpr _ command :: rest => by
      have constantIff := visitExpression_iff scope bindings constantExpr
      have commandIff := visitStatement_iff scope bindings command
      have restIff := visitCases_iff scope bindings rest
      simp [constantIff, commandIff, restIff, and_assoc]

theorem visitDeclarations_iff (scope : Scope) (bindings : Bindings) :
    forall trees : List Declaration,
      visitDeclarations scope trees = resolveDeclarations true bindings trees <->
        agreesDeclarations (some scope) bindings trees
  | [] => iff_of_true rfl rfl
  | .manifestDeclaration name value :: rest => by
      have restIff := visitDeclarations_iff (scope.declare name value)
        (bindings.declare name value) rest
      simp [restIff]
  | .staticDeclaration _ initializer :: rest => by
      have initializerIff := visitExpression_iff scope bindings initializer
      have restIff := visitDeclarations_iff scope bindings rest
      simp [initializerIff, restIff]
  | .globalDeclaration _ :: rest => by
      have restIff := visitDeclarations_iff scope bindings rest
      simp [restIff]

end

/-! ## Programs -/

theorem visitExpressions_length (scope : Scope) (trees : List Expression) :
    (visitExpressions scope trees).length = trees.length := by
  induction trees with
  | nil => rfl
  | cons tree rest ih => simp [ih]

theorem resolveExpressions_length (entered : Bool) (bindings : Bindings)
    (trees : List Expression) :
    (resolveExpressions entered bindings trees).length = trees.length := by
  induction trees with
  | nil => rfl
  | cons tree rest ih => simp [ih]

/-- The initializers of a global `LET`: those with a name are visited. -/
theorem visitInitializers_iff (scope : Scope) (bindings : Bindings) (count : Nat)
    (initializers : List Expression) :
    visitExpressions scope (initializers.take count) ++ initializers.drop count =
        resolveExpressions true bindings (initializers.take count) ++
          resolveExpressions false bindings (initializers.drop count) <->
      agreesExpressions (some scope) bindings (initializers.take count) = true ∧
        agreesExpressions none bindings (initializers.drop count) = true := by
  have sameLength : (visitExpressions scope (initializers.take count)).length =
      (resolveExpressions true bindings (initializers.take count)).length := by
    rw [visitExpressions_length, resolveExpressions_length]
  have visitedIff := visitExpressions_iff scope bindings (initializers.take count)
  have leftIff := leftExpressions_iff bindings (initializers.drop count)
  constructor
  · intro equal
    rcases List.append_inj equal sameLength with ⟨visited, left⟩
    exact ⟨visitedIff.mp visited, leftIff.mp left⟩
  · rintro ⟨visited, left⟩
    rw [visitedIff.mpr visited, <- leftIff.mpr left]

theorem visitProgramDeclarations_iff (scope : Scope) (bindings : Bindings)
    (trees : List ProgramDeclaration) :
    visitProgramDeclarations scope trees = resolveProgramDeclarations bindings trees <->
      agreesProgramDeclarations scope bindings trees = true := by
  induction trees generalizing scope bindings with
  | nil => exact iff_of_true rfl rfl
  | cons tree rest ih =>
      cases tree with
      | manifestDeclaration name value =>
          exact ih (scope.declareGlobal name value) (bindings.declare name value)
      | staticDeclaration name initializer =>
          have initializerIff := visitExpression_iff scope bindings initializer
          have restIff := ih scope bindings
          simp [visitProgramDeclarations, resolveProgramDeclarations,
            agreesProgramDeclarations, initializerIff, restIff]
      | globalDeclaration globals =>
          have restIff := ih scope bindings
          simp [visitProgramDeclarations, resolveProgramDeclarations,
            agreesProgramDeclarations, restIff]
      | globalVariableDeclaration names initializers =>
          have initializersIff := visitInitializers_iff scope bindings names.length
            initializers
          have restIff := ih scope (bindings.bind names)
          simp only [visitProgramDeclarations, resolveProgramDeclarations,
            agreesProgramDeclarations, List.cons.injEq,
            ProgramDeclaration.globalVariableDeclaration.injEq, true_and, Bool.and_eq_true]
          exact and_congr initializersIff restIff
      | functionDeclaration name parameters body =>
          have bodyIff := visitExpression_iff scope.push (bindings.bind parameters) body
          have restIff := ih scope bindings
          simp [visitProgramDeclarations, resolveProgramDeclarations,
            agreesProgramDeclarations, bodyIff, restIff]
      | routineDeclaration name parameters body =>
          have bodyIff := visitStatement_iff scope.push (bindings.bind parameters) body
          have restIff := ih scope bindings
          simp [visitProgramDeclarations, resolveProgramDeclarations,
            agreesProgramDeclarations, bodyIff, restIff]

end Passes
end NewBcpl
