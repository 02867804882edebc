import NewBcpl.Ast

namespace NewBcpl
namespace Passes

/-!
# The resolution of manifests

`ManifestResolutionPass`. The pass keeps a stack of maps, one for the program, one
for the function and one for each block around the current node, and one map of the
manifests of the program. A name is looked up in the top of the stack and in the
map of the program. The name of the current scope only tells the program from the
rest: the scope of a block is called `.._block_..`, never `Global`. Classes that the
pass leaves to `ASTVisitor`, and `FLOATVALOF`, are not entered.
-/

/-- The declarations at the top level of a program. -/
inductive ProgramDeclaration where
  | manifestDeclaration (name : String) (value : Word)
  | staticDeclaration (name : String) (initializer : Expression)
  | globalDeclaration (globals : List (String × Nat))
  | globalVariableDeclaration (names : List String) (initializers : List Expression)
  | functionDeclaration (name : String) (parameters : List String) (body : Expression)
  | routineDeclaration (name : String) (parameters : List String) (body : Statement)

/-- A program. The parser allows no statements at the top level, but the pass visits
them. -/
structure Program where
  declarations : List ProgramDeclaration
  statements : List Statement

/-- The top of `current_scope_manifests_stack_` and `global_manifests_`. -/
structure Scope where
  top : String -> Option Word
  globals : String -> Option Word

namespace Scope

/-- The maps at the start of `apply`. -/
def start : Scope :=
  { top := fun _ => none, globals := fun _ => none }

/-- `get_manifest_value`. -/
def getManifestValue (scope : Scope) (name : String) : Option Word :=
  match scope.top name with
  | some value => some value
  | none => scope.globals name

/-- An empty map on the stack. -/
def push (scope : Scope) : Scope :=
  { scope with top := fun _ => none }

/-- A `MANIFEST` inside a function. -/
def declare (scope : Scope) (name : String) (value : Word) : Scope :=
  { scope with
    top := fun other => if other = name then some value else scope.top other }

/-- A `MANIFEST` of the program. -/
def declareGlobal (scope : Scope) (name : String) (value : Word) : Scope :=
  { scope.declare name value with
    globals := fun other => if other = name then some value else scope.globals other }

/-- The maps after the declarations of a block. -/
def afterDeclarations (scope : Scope) : List Declaration -> Scope
  | [] => scope
  | .manifestDeclaration name value :: rest =>
      (scope.declare name value).afterDeclarations rest
  | .staticDeclaration _ _ :: rest => scope.afterDeclarations rest
  | .globalDeclaration _ :: rest => scope.afterDeclarations rest

/-- The maps after declarations of the program. -/
def afterProgramDeclarations (scope : Scope) : List ProgramDeclaration -> Scope
  | [] => scope
  | .manifestDeclaration name value :: rest =>
      (scope.declareGlobal name value).afterProgramDeclarations rest
  | _ :: rest => scope.afterProgramDeclarations rest

end Scope

/-- An access to a name, or the literal that was found for it. -/
def replaced (found : Option Word) (name : String) : Expression :=
  match found with
  | some value => .integerLiteral value
  | none => .variableAccess name

mutual

/-- `visit_expr`. -/
def visitExpression (scope : Scope) : Expression -> Expression
  | .integerLiteral value => .integerLiteral value
  | .floatLiteral value => .floatLiteral value
  | .stringLiteral value => .stringLiteral value
  | .charLiteral value => .charLiteral value
  | .booleanLiteral value => .booleanLiteral value
  | .variableAccess name => replaced (scope.getManifestValue name) name
  | .binaryOp operator left right =>
      .binaryOp operator (visitExpression scope left) (visitExpression scope right)
  | .unaryOp operator operand => .unaryOp operator (visitExpression scope operand)
  | .vectorAccess vector index =>
      .vectorAccess (visitExpression scope vector) (visitExpression scope index)
  | .charIndirection string index =>
      .charIndirection (visitExpression scope string) (visitExpression scope index)
  | .floatVectorIndirection vector index =>
      .floatVectorIndirection (visitExpression scope vector) (visitExpression scope index)
  | .bitfieldAccess base startBit width => .bitfieldAccess base startBit width
  | .functionCall function arguments =>
      .functionCall (visitExpression scope function) (visitExpressions scope arguments)
  | .sysCall functionName syscallNumber arguments =>
      .sysCall functionName (visitExpression scope syscallNumber)
        (visitExpressions scope arguments)
  | .conditional condition trueExpr falseExpr =>
      .conditional (visitExpression scope condition) (visitExpression scope trueExpr)
        (visitExpression scope falseExpr)
  | .valof body => .valof (visitStatement scope body)
  | .floatValof body => .floatValof body
  | .vecAllocation size => .vecAllocation (visitExpression scope size)
  | .fvecAllocation size => .fvecAllocation size
  | .stringAllocation size => .stringAllocation (visitExpression scope size)
  | .table initializers isFloatTable =>
      .table (visitExpressions scope initializers) isFloatTable
  | .vecInitializer initializers => .vecInitializer initializers
  | .list initializers isManifest => .list initializers isManifest

def visitExpressions (scope : Scope) : List Expression -> List Expression
  | [] => []
  | expression :: rest => visitExpression scope expression :: visitExpressions scope rest

def visitExpressionPtr (scope : Scope) : Option Expression -> Option Expression
  | none => none
  | some expression => some (visitExpression scope expression)

/-- `visit_stmt`. -/
def visitStatement (scope : Scope) : Statement -> Statement
  | .letDeclaration names initializers =>
      .letDeclaration names (visitExpressions scope initializers)
  | .assignment lhs rhs =>
      .assignment (visitExpressions scope lhs) (visitExpressions scope rhs)
  | .routineCall routine arguments =>
      .routineCall (visitExpression scope routine) (visitExpressions scope arguments)
  | .ifStatement condition thenBranch =>
      .ifStatement (visitExpression scope condition) (visitStatement scope thenBranch)
  | .unless condition thenBranch =>
      .unless (visitExpression scope condition) (visitStatement scope thenBranch)
  | .test condition thenBranch elseBranch =>
      .test (visitExpression scope condition) (visitStatement scope thenBranch)
        (visitStatement scope elseBranch)
  | .whileStatement condition body =>
      .whileStatement (visitExpression scope condition) (visitStatement scope body)
  | .untilStatement condition body =>
      .untilStatement (visitExpression scope condition) (visitStatement scope body)
  | .repeatStatement loopType body condition =>
      .repeatStatement loopType (visitStatement scope body)
        (visitExpressionPtr scope condition)
  | .forStatement loopVariable uniqueName startExpr endExpr stepExpr body =>
      .forStatement loopVariable uniqueName (visitExpression scope startExpr)
        (visitExpression scope endExpr) (visitExpressionPtr scope stepExpr)
        (visitStatement scope body)
  | .forEach loopVariable typeVariable collection body filterType elementType =>
      .forEach loopVariable typeVariable collection body filterType elementType
  | .switchon expression cases defaultCase =>
      .switchon (visitExpression scope expression) (visitCases scope cases)
        (visitStatementPtr scope defaultCase)
  | .goto label => .goto (visitExpression scope label)
  | .returnStatement => .returnStatement
  | .finish => .finish
  | .breakStatement => .breakStatement
  | .brk => .brk
  | .loop => .loop
  | .endcase => .endcase
  | .resultis expression => .resultis (visitExpression scope expression)
  | .compound statements => .compound (visitStatements scope statements)
  | .block declarations statements =>
      -- A new map on the stack, which the declarations fill.
      .block (visitDeclarations scope.push declarations)
        (visitStatements (scope.push.afterDeclarations declarations) statements)
  | .stringStatement size => .stringStatement (visitExpression scope size)
  | .free listExpr => .free (visitExpression scope listExpr)
  | .labelTarget labelName => .labelTarget labelName
  | .conditionalBranch condition targetLabel conditionExpr =>
      .conditionalBranch condition targetLabel conditionExpr
  | .misplacedExpression expression =>
      .misplacedExpression (visitExpression scope expression)

def visitStatements (scope : Scope) : List Statement -> List Statement
  | [] => []
  | statement :: rest => visitStatement scope statement :: visitStatements scope rest

def visitStatementPtr (scope : Scope) : Option Statement -> Option Statement
  | none => none
  | some statement => some (visitStatement scope statement)

def visitCases (scope : Scope) : List CaseStatement -> List CaseStatement
  | [] => []
  | .mk constantExpr resolvedConstantValue command :: rest =>
      .mk (visitExpression scope constantExpr) resolvedConstantValue
        (visitStatement scope command) :: visitCases scope rest

/-- The declarations of a block, of which the manifests are removed. -/
def visitDeclarations (scope : Scope) : List Declaration -> List Declaration
  | [] => []
  | .manifestDeclaration name value :: rest =>
      visitDeclarations (scope.declare name value) rest
  | .staticDeclaration name initializer :: rest =>
      .staticDeclaration name (visitExpression scope initializer) ::
        visitDeclarations scope rest
  | .globalDeclaration globals :: rest =>
      .globalDeclaration globals :: visitDeclarations scope rest

end

/-- The declarations of the program in their order. Of a global `LET` only as many
initializers are visited as there are names. -/
def visitProgramDeclarations (scope : Scope) :
    List ProgramDeclaration -> List ProgramDeclaration
  | [] => []
  | .manifestDeclaration name value :: rest =>
      visitProgramDeclarations (scope.declareGlobal name value) rest
  | .staticDeclaration name initializer :: rest =>
      .staticDeclaration name (visitExpression scope initializer) ::
        visitProgramDeclarations scope rest
  | .globalDeclaration globals :: rest =>
      .globalDeclaration globals :: visitProgramDeclarations scope rest
  | .globalVariableDeclaration names initializers :: rest =>
      .globalVariableDeclaration names
        (visitExpressions scope (initializers.take names.length) ++
          initializers.drop names.length) :: visitProgramDeclarations scope rest
  | .functionDeclaration name parameters body :: rest =>
      .functionDeclaration name parameters (visitExpression scope.push body) ::
        visitProgramDeclarations scope rest
  | .routineDeclaration name parameters body :: rest =>
      .routineDeclaration name parameters (visitStatement scope.push body) ::
        visitProgramDeclarations scope rest

/-- `ManifestResolutionPass::apply`. -/
def visitProgram (program : Program) : Program :=
  { declarations := visitProgramDeclarations Scope.start program.declarations
    statements := visitStatements
      (Scope.start.afterProgramDeclarations program.declarations) program.statements }

end Passes
end NewBcpl
