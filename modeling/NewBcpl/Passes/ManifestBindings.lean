import NewBcpl.Passes.ManifestResolutionPass

namespace NewBcpl
namespace Passes

/-!
# Manifests by static scoping

What the pass is for: a name that is bound to a manifest stands for its value. The
innermost binding counts: a parameter, a variable of a `LET`, `FOR` or `FOREACH`, or
a manifest, each from its declaration to the end of the construct it belongs to.
The targets of assignments are no uses. Beside it, the condition under which the maps
of the pass find the same.
-/

/-- What a name can be bound to. -/
inductive Binding where
  | variable
  | manifest (value : Word)
  deriving DecidableEq, Repr

/-- The innermost bindings. -/
abbrev Bindings : Type := String -> Option Binding

namespace Bindings

/-- The value of a name that is bound to a manifest. -/
def manifest (bindings : Bindings) (name : String) : Option Word :=
  match bindings name with
  | some (.manifest value) => some value
  | _ => none

/-- Variables hide the outer bindings of their names. -/
def bind (bindings : Bindings) (names : List String) : Bindings :=
  fun other => if other ∈ names then some .variable else bindings other

/-- A manifest hides the outer binding of its name. -/
def declare (bindings : Bindings) (name : String) (value : Word) : Bindings :=
  fun other => if other = name then some (.manifest value) else bindings other

/-- The bindings after the declarations of a block. -/
def afterDeclarations (bindings : Bindings) : List Declaration -> Bindings
  | [] => bindings
  | .manifestDeclaration name value :: rest =>
      (bindings.declare name value).afterDeclarations rest
  | .staticDeclaration _ _ :: rest => bindings.afterDeclarations rest
  | .globalDeclaration _ :: rest => bindings.afterDeclarations rest

/-- The bindings for the statements after a statement. -/
def afterStatement (bindings : Bindings) : Statement -> Bindings
  | .letDeclaration names _ => bindings.bind names
  | _ => bindings

/-- The bindings after declarations of the program. -/
def afterProgramDeclarations (bindings : Bindings) : List ProgramDeclaration -> Bindings
  | [] => bindings
  | .manifestDeclaration name value :: rest =>
      (bindings.declare name value).afterProgramDeclarations rest
  | .globalVariableDeclaration names _ :: rest =>
      (bindings.bind names).afterProgramDeclarations rest
  | _ :: rest => bindings.afterProgramDeclarations rest

end Bindings

/-- The variables of a `FOREACH`; the type variable may be missing. -/
def forEachNames (loopVariable typeVariable : String) : List String :=
  if typeVariable = "" then [loopVariable] else [typeVariable, loopVariable]

/-! ## The resolved program -/

mutual

/-- The expression with the values of the manifests. Where `entered` is false the
declarations of the manifests stay. -/
def resolveExpression (entered : Bool) (bindings : Bindings) : Expression -> Expression
  | .integerLiteral value => .integerLiteral value
  | .floatLiteral value => .floatLiteral value
  | .stringLiteral value => .stringLiteral value
  | .charLiteral value => .charLiteral value
  | .booleanLiteral value => .booleanLiteral value
  | .variableAccess name => replaced (bindings.manifest name) name
  | .binaryOp operator left right =>
      .binaryOp operator (resolveExpression entered bindings left)
        (resolveExpression entered bindings right)
  | .unaryOp operator operand =>
      .unaryOp operator (resolveExpression entered bindings operand)
  | .vectorAccess vector index =>
      .vectorAccess (resolveExpression entered bindings vector)
        (resolveExpression entered bindings index)
  | .charIndirection string index =>
      .charIndirection (resolveExpression entered bindings string)
        (resolveExpression entered bindings index)
  | .floatVectorIndirection vector index =>
      .floatVectorIndirection (resolveExpression entered bindings vector)
        (resolveExpression entered bindings index)
  | .bitfieldAccess base startBit width =>
      .bitfieldAccess (resolveExpression false bindings base)
        (resolveExpression false bindings startBit) (resolveExpression false bindings width)
  | .functionCall function arguments =>
      .functionCall (resolveExpression entered bindings function)
        (resolveExpressions entered bindings arguments)
  | .sysCall functionName syscallNumber arguments =>
      .sysCall functionName (resolveExpression entered bindings syscallNumber)
        (resolveExpressions entered bindings arguments)
  | .conditional condition trueExpr falseExpr =>
      .conditional (resolveExpression entered bindings condition)
        (resolveExpression entered bindings trueExpr)
        (resolveExpression entered bindings falseExpr)
  | .valof body => .valof (resolveStatement entered bindings body)
  | .floatValof body => .floatValof (resolveStatement false bindings body)
  | .vecAllocation size => .vecAllocation (resolveExpression entered bindings size)
  | .fvecAllocation size => .fvecAllocation (resolveExpression false bindings size)
  | .stringAllocation size => .stringAllocation (resolveExpression entered bindings size)
  | .table initializers isFloatTable =>
      .table (resolveExpressions entered bindings initializers) isFloatTable
  | .vecInitializer initializers =>
      .vecInitializer (resolveExpressions false bindings initializers)
  | .list initializers isManifest =>
      .list (resolveExpressions false bindings initializers) isManifest

def resolveExpressions (entered : Bool) (bindings : Bindings) :
    List Expression -> List Expression
  | [] => []
  | expression :: rest =>
      resolveExpression entered bindings expression ::
        resolveExpressions entered bindings rest

def resolveExpressionPtr (entered : Bool) (bindings : Bindings) :
    Option Expression -> Option Expression
  | none => none
  | some expression => some (resolveExpression entered bindings expression)

/-- The targets of an assignment: a variable that is assigned to, or some of whose bits
are, is no use of its name. -/
def resolveTargets (entered : Bool) (bindings : Bindings) :
    List Expression -> List Expression
  | [] => []
  | .variableAccess name :: rest =>
      .variableAccess name :: resolveTargets entered bindings rest
  | .bitfieldAccess (.variableAccess name) startBit width :: rest =>
      .bitfieldAccess (.variableAccess name) (resolveExpression false bindings startBit)
        (resolveExpression false bindings width) :: resolveTargets entered bindings rest
  | target :: rest =>
      resolveExpression entered bindings target :: resolveTargets entered bindings rest

/-- The statement with the values of the manifests. -/
def resolveStatement (entered : Bool) (bindings : Bindings) : Statement -> Statement
  | .letDeclaration names initializers =>
      .letDeclaration names (resolveExpressions entered bindings initializers)
  | .assignment lhs rhs =>
      .assignment (resolveTargets entered bindings lhs)
        (resolveExpressions entered bindings rhs)
  | .routineCall routine arguments =>
      .routineCall (resolveExpression entered bindings routine)
        (resolveExpressions entered bindings arguments)
  | .ifStatement condition thenBranch =>
      .ifStatement (resolveExpression entered bindings condition)
        (resolveStatement entered bindings thenBranch)
  | .unless condition thenBranch =>
      .unless (resolveExpression entered bindings condition)
        (resolveStatement entered bindings thenBranch)
  | .test condition thenBranch elseBranch =>
      .test (resolveExpression entered bindings condition)
        (resolveStatement entered bindings thenBranch)
        (resolveStatement entered bindings elseBranch)
  | .whileStatement condition body =>
      .whileStatement (resolveExpression entered bindings condition)
        (resolveStatement entered bindings body)
  | .untilStatement condition body =>
      .untilStatement (resolveExpression entered bindings condition)
        (resolveStatement entered bindings body)
  | .repeatStatement loopType body condition =>
      .repeatStatement loopType (resolveStatement entered bindings body)
        (resolveExpressionPtr entered bindings condition)
  | .forStatement loopVariable uniqueName startExpr endExpr stepExpr body =>
      .forStatement loopVariable uniqueName (resolveExpression entered bindings startExpr)
        (resolveExpression entered bindings endExpr)
        (resolveExpressionPtr entered bindings stepExpr)
        (resolveStatement entered (bindings.bind [loopVariable]) body)
  | .forEach loopVariable typeVariable collection body filterType elementType =>
      .forEach loopVariable typeVariable (resolveExpression false bindings collection)
        (resolveStatement false (bindings.bind (forEachNames loopVariable typeVariable)) body)
        filterType elementType
  | .switchon expression cases defaultCase =>
      .switchon (resolveExpression entered bindings expression)
        (resolveCases entered bindings cases)
        (resolveStatementPtr entered bindings defaultCase)
  | .goto label => .goto (resolveExpression entered bindings label)
  | .returnStatement => .returnStatement
  | .finish => .finish
  | .breakStatement => .breakStatement
  | .brk => .brk
  | .loop => .loop
  | .endcase => .endcase
  | .resultis expression => .resultis (resolveExpression entered bindings expression)
  | .compound statements => .compound (resolveStatements entered bindings statements)
  | .block declarations statements =>
      .block (resolveDeclarations entered bindings declarations)
        (resolveStatements entered (bindings.afterDeclarations declarations) statements)
  | .stringStatement size => .stringStatement (resolveExpression entered bindings size)
  | .free listExpr => .free (resolveExpression entered bindings listExpr)
  | .labelTarget labelName => .labelTarget labelName
  | .conditionalBranch condition targetLabel conditionExpr =>
      .conditionalBranch condition targetLabel
        (resolveExpression false bindings conditionExpr)
  | .misplacedExpression expression =>
      .misplacedExpression (resolveExpression entered bindings expression)

/-- A `LET` binds its names in the statements after it. -/
def resolveStatements (entered : Bool) (bindings : Bindings) :
    List Statement -> List Statement
  | [] => []
  | statement :: rest =>
      resolveStatement entered bindings statement ::
        resolveStatements entered (bindings.afterStatement statement) rest

def resolveStatementPtr (entered : Bool) (bindings : Bindings) :
    Option Statement -> Option Statement
  | none => none
  | some statement => some (resolveStatement entered bindings statement)

def resolveCases (entered : Bool) (bindings : Bindings) :
    List CaseStatement -> List CaseStatement
  | [] => []
  | .mk constantExpr resolvedConstantValue command :: rest =>
      .mk (resolveExpression entered bindings constantExpr) resolvedConstantValue
        (resolveStatement entered bindings command) :: resolveCases entered bindings rest

def resolveDeclarations (entered : Bool) (bindings : Bindings) :
    List Declaration -> List Declaration
  | [] => []
  | .manifestDeclaration name value :: rest =>
      (if entered then [] else [.manifestDeclaration name value]) ++
        resolveDeclarations entered (bindings.declare name value) rest
  | .staticDeclaration name initializer :: rest =>
      .staticDeclaration name (resolveExpression entered bindings initializer) ::
        resolveDeclarations entered bindings rest
  | .globalDeclaration globals :: rest =>
      .globalDeclaration globals :: resolveDeclarations entered bindings rest

end

def resolveProgramDeclarations (bindings : Bindings) :
    List ProgramDeclaration -> List ProgramDeclaration
  | [] => []
  | .manifestDeclaration name value :: rest =>
      resolveProgramDeclarations (bindings.declare name value) rest
  | .staticDeclaration name initializer :: rest =>
      .staticDeclaration name (resolveExpression true bindings initializer) ::
        resolveProgramDeclarations bindings rest
  | .globalDeclaration globals :: rest =>
      .globalDeclaration globals :: resolveProgramDeclarations bindings rest
  | .globalVariableDeclaration names initializers :: rest =>
      .globalVariableDeclaration names
        (resolveExpressions true bindings (initializers.take names.length) ++
          resolveExpressions false bindings (initializers.drop names.length)) ::
        resolveProgramDeclarations (bindings.bind names) rest
  | .functionDeclaration name parameters body :: rest =>
      .functionDeclaration name parameters
        (resolveExpression true (bindings.bind parameters) body) ::
        resolveProgramDeclarations bindings rest
  | .routineDeclaration name parameters body :: rest =>
      .routineDeclaration name parameters
        (resolveStatement true (bindings.bind parameters) body) ::
        resolveProgramDeclarations bindings rest

/-- The program in which every use of a manifest is its value. -/
def resolveProgram (program : Program) : Program :=
  { declarations := resolveProgramDeclarations (fun _ => none) program.declarations
    statements := resolveStatements true
      (Bindings.afterProgramDeclarations (fun _ => none) program.declarations)
      program.statements }

/-! ## Where the maps of the pass find the innermost binding -/

/-- What is found for a name: nothing where the pass does not come. -/
def lookup (scope : Option Scope) (name : String) : Option Word :=
  scope.bind fun entered => entered.getManifestValue name

mutual

/-- At every use of a name the maps give the manifest that the innermost binding is. -/
def agreesExpression (scope : Option Scope) (bindings : Bindings) : Expression -> Bool
  | .variableAccess name => lookup scope name == bindings.manifest name
  | .binaryOp _ left right =>
      agreesExpression scope bindings left &&
        agreesExpression scope bindings right
  | .unaryOp _ operand =>
      agreesExpression scope bindings operand
  | .vectorAccess vector index =>
      agreesExpression scope bindings vector &&
        agreesExpression scope bindings index
  | .charIndirection string index =>
      agreesExpression scope bindings string &&
        agreesExpression scope bindings index
  | .floatVectorIndirection vector index =>
      agreesExpression scope bindings vector &&
        agreesExpression scope bindings index
  | .bitfieldAccess base startBit width =>
      agreesExpression none bindings base &&
        agreesExpression none bindings startBit &&
        agreesExpression none bindings width
  | .functionCall function arguments =>
      agreesExpression scope bindings function &&
        agreesExpressions scope bindings arguments
  | .sysCall _ syscallNumber arguments =>
      agreesExpression scope bindings syscallNumber &&
        agreesExpressions scope bindings arguments
  | .conditional condition trueExpr falseExpr =>
      agreesExpression scope bindings condition &&
        agreesExpression scope bindings trueExpr &&
        agreesExpression scope bindings falseExpr
  | .valof body =>
      agreesStatement scope bindings body
  | .floatValof body =>
      agreesStatement none bindings body
  | .vecAllocation size =>
      agreesExpression scope bindings size
  | .fvecAllocation size =>
      agreesExpression none bindings size
  | .stringAllocation size =>
      agreesExpression scope bindings size
  | .table initializers _ =>
      agreesExpressions scope bindings initializers
  | .vecInitializer initializers =>
      agreesExpressions none bindings initializers
  | .list initializers _ =>
      agreesExpressions none bindings initializers
  | .integerLiteral _ | .floatLiteral _ | .stringLiteral _ | .charLiteral _
  | .booleanLiteral _ => true

def agreesExpressions (scope : Option Scope) (bindings : Bindings) :
    List Expression -> Bool
  | [] => true
  | expression :: rest =>
      agreesExpression scope bindings expression && agreesExpressions scope bindings rest

def agreesExpressionPtr (scope : Option Scope) (bindings : Bindings) :
    Option Expression -> Bool
  | none => true
  | some expression => agreesExpression scope bindings expression

/-- No target of an assignment is a name that the maps have. -/
def agreesTargets (scope : Option Scope) (bindings : Bindings) : List Expression -> Bool
  | [] => true
  | .variableAccess name :: rest =>
      (lookup scope name).isNone && agreesTargets scope bindings rest
  | .bitfieldAccess (.variableAccess _) startBit width :: rest =>
      agreesExpression none bindings startBit && agreesExpression none bindings width &&
        agreesTargets scope bindings rest
  | target :: rest =>
      agreesExpression scope bindings target && agreesTargets scope bindings rest

/-- The same for the uses in a statement. -/
def agreesStatement (scope : Option Scope) (bindings : Bindings) : Statement -> Bool
  | .letDeclaration _ initializers =>
      agreesExpressions scope bindings initializers
  | .assignment lhs rhs =>
      agreesTargets scope bindings lhs &&
        agreesExpressions scope bindings rhs
  | .routineCall routine arguments =>
      agreesExpression scope bindings routine &&
        agreesExpressions scope bindings arguments
  | .ifStatement condition thenBranch =>
      agreesExpression scope bindings condition &&
        agreesStatement scope bindings thenBranch
  | .unless condition thenBranch =>
      agreesExpression scope bindings condition &&
        agreesStatement scope bindings thenBranch
  | .test condition thenBranch elseBranch =>
      agreesExpression scope bindings condition &&
        agreesStatement scope bindings thenBranch &&
        agreesStatement scope bindings elseBranch
  | .whileStatement condition body =>
      agreesExpression scope bindings condition &&
        agreesStatement scope bindings body
  | .untilStatement condition body =>
      agreesExpression scope bindings condition &&
        agreesStatement scope bindings body
  | .repeatStatement _ body condition =>
      agreesStatement scope bindings body &&
        agreesExpressionPtr scope bindings condition
  | .forStatement loopVariable _ startExpr endExpr stepExpr body =>
      agreesExpression scope bindings startExpr &&
        agreesExpression scope bindings endExpr &&
        agreesExpressionPtr scope bindings stepExpr &&
        agreesStatement scope (bindings.bind [loopVariable]) body
  | .forEach loopVariable typeVariable collection body _ _ =>
      agreesExpression none bindings collection &&
        agreesStatement none (bindings.bind (forEachNames loopVariable typeVariable)) body
  | .switchon expression cases defaultCase =>
      agreesExpression scope bindings expression &&
        agreesCases scope bindings cases &&
        agreesStatementPtr scope bindings defaultCase
  | .goto label =>
      agreesExpression scope bindings label
  | .resultis expression =>
      agreesExpression scope bindings expression
  | .compound statements =>
      agreesStatements scope bindings statements
  | .block declarations statements =>
      agreesDeclarations (scope.map Scope.push) bindings declarations &&
        agreesStatements (scope.map fun outer => outer.push.afterDeclarations declarations)
          (bindings.afterDeclarations declarations) statements
  | .stringStatement size =>
      agreesExpression scope bindings size
  | .free listExpr =>
      agreesExpression scope bindings listExpr
  | .conditionalBranch _ _ conditionExpr =>
      agreesExpression none bindings conditionExpr
  | .misplacedExpression expression =>
      agreesExpression scope bindings expression
  | .returnStatement | .finish | .breakStatement | .brk | .loop | .endcase | .labelTarget _ => true

def agreesStatements (scope : Option Scope) (bindings : Bindings) : List Statement -> Bool
  | [] => true
  | statement :: rest =>
      agreesStatement scope bindings statement &&
        agreesStatements scope (bindings.afterStatement statement) rest

def agreesStatementPtr (scope : Option Scope) (bindings : Bindings) :
    Option Statement -> Bool
  | none => true
  | some statement => agreesStatement scope bindings statement

def agreesCases (scope : Option Scope) (bindings : Bindings) : List CaseStatement -> Bool
  | [] => true
  | .mk constantExpr _ command :: rest =>
      agreesExpression scope bindings constantExpr &&
        agreesStatement scope bindings command && agreesCases scope bindings rest

def agreesDeclarations (scope : Option Scope) (bindings : Bindings) :
    List Declaration -> Bool
  | [] => true
  | .manifestDeclaration name value :: rest =>
      agreesDeclarations (scope.map fun entered => entered.declare name value)
        (bindings.declare name value) rest
  | .staticDeclaration _ initializer :: rest =>
      agreesExpression scope bindings initializer && agreesDeclarations scope bindings rest
  | .globalDeclaration _ :: rest => agreesDeclarations scope bindings rest

end

def agreesProgramDeclarations (scope : Scope) (bindings : Bindings) :
    List ProgramDeclaration -> Bool
  | [] => true
  | .manifestDeclaration name value :: rest =>
      agreesProgramDeclarations (scope.declareGlobal name value)
        (bindings.declare name value) rest
  | .staticDeclaration _ initializer :: rest =>
      agreesExpression (some scope) bindings initializer &&
        agreesProgramDeclarations scope bindings rest
  | .globalDeclaration _ :: rest => agreesProgramDeclarations scope bindings rest
  | .globalVariableDeclaration names initializers :: rest =>
      agreesExpressions (some scope) bindings (initializers.take names.length) &&
        agreesExpressions none bindings (initializers.drop names.length) &&
        agreesProgramDeclarations scope (bindings.bind names) rest
  | .functionDeclaration _ parameters body :: rest =>
      agreesExpression (some scope.push) (bindings.bind parameters) body &&
        agreesProgramDeclarations scope bindings rest
  | .routineDeclaration _ parameters body :: rest =>
      agreesStatement (some scope.push) (bindings.bind parameters) body &&
        agreesProgramDeclarations scope bindings rest

/-- At every use of a name in the program the maps of the pass give the manifest that
the innermost binding is, and no target of an assignment is a name they have. -/
def agreesProgram (program : Program) : Bool :=
  agreesProgramDeclarations Scope.start (fun _ => none) program.declarations &&
    agreesStatements (some (Scope.start.afterProgramDeclarations program.declarations))
      (Bindings.afterProgramDeclarations (fun _ => none) program.declarations)
      program.statements

end Passes
end NewBcpl
