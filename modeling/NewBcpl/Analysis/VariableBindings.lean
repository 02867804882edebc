import NewBcpl.Analysis.ASTAnalyzer

namespace NewBcpl
namespace Analysis

/-!
# What the names of a tree denote

A tree can be read twice: by the scoping rules of the source, where a FOR loop declares
its variable, and after the renaming, where it declares the unique name. An occurrence
of a variable denotes a declaration around it, which is counted from the inside. The
two readings of a tree and its renaming have one shape, so the renaming keeps every
binding if and only if they are equal.
-/

/-- The two ways to read a tree. -/
inductive Reading where
  | source | renamed

namespace Reading

/-- The name that a FOR loop declares. -/
def loopName : Reading -> String -> String -> String
  | source, loopVariable, _ => loopVariable
  | renamed, _, uniqueName => uniqueName

/-- The names of the active loops inside a loop; the loops of the source need none. -/
def activate : Reading -> List String -> String -> List String
  | source, active, _ => active
  | renamed, active, uniqueName => uniqueName :: active

/-- Whether a loop shares its variable with an active loop. Loops of the source have
variables of their own. -/
def shares : Reading -> List String -> String -> Bool
  | source, _, _ => false
  | renamed, active, uniqueName => active.contains uniqueName

end Reading

/-- What the occurrences of a tree denote: the place of their declaration among those
around them, or none. -/
inductive Bindings where
  | empty
  | occurrence (declaration : Option Nat)
  | loop (shared : Bool)
  | both (first second : Bindings)
  deriving DecidableEq, Repr

/-- The names that the declarations of a block declare. -/
def declarationNames : List Declaration -> List String
  | [] => []
  | .manifestDeclaration name _ :: rest => name :: declarationNames rest
  | .staticDeclaration name _ :: rest => name :: declarationNames rest
  | .globalDeclaration globals :: rest => globals.map Prod.fst ++ declarationNames rest

/-- The names that a statement declares for the statements after it. -/
def letNames : Statement -> List String
  | .letDeclaration names _ => names
  | _ => []

mutual

/-- The bindings of an expression. The scope is the innermost declaration first; the
active loops are those whose end, step or body is around the expression. -/
def expressionBindings (reading : Reading) (scope active : List String) :
    Expression -> Bindings
  | .variableAccess name => .occurrence (scope.idxOf? name)
  | .binaryOp _ left right =>
      .both (expressionBindings reading scope active left)
        (expressionBindings reading scope active right)
  | .unaryOp _ operand => expressionBindings reading scope active operand
  | .vectorAccess vector index =>
      .both (expressionBindings reading scope active vector)
        (expressionBindings reading scope active index)
  | .charIndirection string index =>
      .both (expressionBindings reading scope active string)
        (expressionBindings reading scope active index)
  | .floatVectorIndirection vector index =>
      .both (expressionBindings reading scope active vector)
        (expressionBindings reading scope active index)
  | .bitfieldAccess base startBit width =>
      .both
        (.both (expressionBindings reading scope active base)
           (expressionBindings reading scope active startBit))
        (expressionBindings reading scope active width)
  | .functionCall function arguments =>
      .both (expressionBindings reading scope active function)
        (expressionsBindings reading scope active arguments)
  | .sysCall _ syscallNumber arguments =>
      .both (expressionBindings reading scope active syscallNumber)
        (expressionsBindings reading scope active arguments)
  | .conditional condition trueExpr falseExpr =>
      .both
        (.both (expressionBindings reading scope active condition)
           (expressionBindings reading scope active trueExpr))
        (expressionBindings reading scope active falseExpr)
  | .valof body => statementBindings reading scope active body
  | .floatValof body => statementBindings reading scope active body
  | .vecAllocation size => expressionBindings reading scope active size
  | .fvecAllocation size => expressionBindings reading scope active size
  | .stringAllocation size => expressionBindings reading scope active size
  | .table initializers _ => expressionsBindings reading scope active initializers
  | .vecInitializer initializers => expressionsBindings reading scope active initializers
  | .list initializers _ => expressionsBindings reading scope active initializers
  | .integerLiteral _ | .floatLiteral _ | .stringLiteral _ | .charLiteral _
  | .booleanLiteral _ => .empty

def expressionsBindings (reading : Reading) (scope active : List String) :
    List Expression -> Bindings
  | [] => .empty
  | expression :: rest =>
      .both (expressionBindings reading scope active expression)
        (expressionsBindings reading scope active rest)

def expressionPtrBindings (reading : Reading) (scope active : List String) :
    Option Expression -> Bindings
  | none => .empty
  | some expression => expressionBindings reading scope active expression

/-- The bindings of a statement. The label of a `GOTO` is no variable. -/
def statementBindings (reading : Reading) (scope active : List String) :
    Statement -> Bindings
  | .letDeclaration _ initializers => expressionsBindings reading scope active initializers
  | .assignment lhs rhs =>
      .both (expressionsBindings reading scope active lhs)
        (expressionsBindings reading scope active rhs)
  | .routineCall routine arguments =>
      .both (expressionBindings reading scope active routine)
        (expressionsBindings reading scope active arguments)
  | .ifStatement condition thenBranch =>
      .both (expressionBindings reading scope active condition)
        (statementBindings reading scope active thenBranch)
  | .unless condition thenBranch =>
      .both (expressionBindings reading scope active condition)
        (statementBindings reading scope active thenBranch)
  | .test condition thenBranch elseBranch =>
      .both
        (.both (expressionBindings reading scope active condition)
           (statementBindings reading scope active thenBranch))
        (statementBindings reading scope active elseBranch)
  | .whileStatement condition body =>
      .both (expressionBindings reading scope active condition)
        (statementBindings reading scope active body)
  | .untilStatement condition body =>
      .both (expressionBindings reading scope active condition)
        (statementBindings reading scope active body)
  | .repeatStatement _ body condition =>
      .both (statementBindings reading scope active body)
        (expressionPtrBindings reading scope active condition)
  | .forStatement loopVariable uniqueName startExpr endExpr stepExpr body =>
      let name := reading.loopName loopVariable uniqueName
      let inside := reading.activate active uniqueName
      .both (.loop (reading.shares active uniqueName))
        (.both
          (.both (expressionBindings reading scope active startExpr)
            (expressionBindings reading scope inside endExpr))
          (.both (expressionPtrBindings reading scope inside stepExpr)
            (statementBindings reading (name :: scope) inside body)))
  | .forEach loopVariable typeVariable collection body _ _ =>
      .both (expressionBindings reading scope active collection)
        (statementBindings reading
          (Passes.forEachNames loopVariable typeVariable ++ scope) active body)
  | .switchon expression cases defaultCase =>
      .both
        (.both (expressionBindings reading scope active expression)
           (casesBindings reading scope active cases))
        (statementPtrBindings reading scope active defaultCase)
  | .resultis expression => expressionBindings reading scope active expression
  | .compound statements => statementsBindings reading scope active statements
  | .block declarations statements =>
      .both (declarationsBindings reading scope active declarations)
        (statementsBindings reading (declarationNames declarations ++ scope) active
          statements)
  | .stringStatement size => expressionBindings reading scope active size
  | .free listExpr => expressionBindings reading scope active listExpr
  | .conditionalBranch _ _ conditionExpr =>
      expressionBindings reading scope active conditionExpr
  | .misplacedExpression expression => expressionBindings reading scope active expression
  | .goto _ | .returnStatement | .finish | .breakStatement | .brk | .loop | .endcase
  | .labelTarget _ => .empty

/-- The bindings of statements; a `LET` is in scope after it. -/
def statementsBindings (reading : Reading) (scope active : List String) :
    List Statement -> Bindings
  | [] => .empty
  | statement :: rest =>
      .both (statementBindings reading scope active statement)
        (statementsBindings reading (letNames statement ++ scope) active rest)

def statementPtrBindings (reading : Reading) (scope active : List String) :
    Option Statement -> Bindings
  | none => .empty
  | some statement => statementBindings reading scope active statement

def casesBindings (reading : Reading) (scope active : List String) :
    List CaseStatement -> Bindings
  | [] => .empty
  | .mk constantExpr _ command :: rest =>
      .both
        (.both (expressionBindings reading scope active constantExpr)
          (statementBindings reading scope active command))
        (casesBindings reading scope active rest)

def declarationsBindings (reading : Reading) (scope active : List String) :
    List Declaration -> Bindings
  | [] => .empty
  | .manifestDeclaration _ _ :: rest => declarationsBindings reading scope active rest
  | .staticDeclaration _ initializer :: rest =>
      .both (expressionBindings reading scope active initializer)
        (declarationsBindings reading scope active rest)
  | .globalDeclaration _ :: rest => declarationsBindings reading scope active rest

end

/-- The names that the declarations of a program declare. -/
def programNames : List Passes.ProgramDeclaration -> List String
  | [] => []
  | .manifestDeclaration name _ :: rest => name :: programNames rest
  | .staticDeclaration name _ :: rest => name :: programNames rest
  | .globalDeclaration globals :: rest => globals.map Prod.fst ++ programNames rest
  | .globalVariableDeclaration names _ :: rest => names ++ programNames rest
  | .functionDeclaration name _ _ :: rest => name :: programNames rest
  | .routineDeclaration name _ _ :: rest => name :: programNames rest

/-- The bindings of a declaration of a program. -/
def programDeclarationBindings (reading : Reading) (globals : List String) :
    Passes.ProgramDeclaration -> Bindings
  | .staticDeclaration _ initializer => expressionBindings reading globals [] initializer
  | .globalVariableDeclaration _ initializers =>
      expressionsBindings reading globals [] initializers
  | .functionDeclaration _ parameters body =>
      expressionBindings reading (parameters ++ globals) [] body
  | .routineDeclaration _ parameters body =>
      statementBindings reading (parameters ++ globals) [] body
  | _ => .empty

def programDeclarationsBindings (reading : Reading) (globals : List String) :
    List Passes.ProgramDeclaration -> Bindings
  | [] => .empty
  | declaration :: rest =>
      .both (programDeclarationBindings reading globals declaration)
        (programDeclarationsBindings reading globals rest)

/-- The bindings of a program. -/
def programBindings (reading : Reading) (program : Passes.Program) : Bindings :=
  let globals := programNames program.declarations
  .both (programDeclarationsBindings reading globals program.declarations)
    (statementsBindings reading globals [] program.statements)

/-! ## The loops of the source -/

/-- The variables of FOR loops that were met in a function, each with its number among
those of the program, and the next number. -/
structure Numbering where
  met : List (String × Nat)
  next : Nat
  deriving DecidableEq, Repr

namespace Numbering

/-- Nothing was met. -/
def start : Numbering :=
  { met := [], next := 0 }

/-- The name of a variable: a loop variable that was met is called after its number. -/
def nameOf (numbering : Numbering) (name : String) : String :=
  match numbering.met.lookup name with
  | some number => AnalyzerState.forVariableName name number
  | none => name

/-- A loop over the variable is met. -/
def meet (numbering : Numbering) (loopVariable : String) : String × Numbering :=
  match numbering.met.lookup loopVariable with
  | some number => (AnalyzerState.forVariableName loopVariable number, numbering)
  | none =>
      (AnalyzerState.forVariableName loopVariable numbering.next,
        { met := (loopVariable, numbering.next) :: numbering.met
          next := numbering.next + 1 })

/-- A function begins. -/
def enterFunction (numbering : Numbering) : Numbering :=
  { numbering with met := [] }

end Numbering

/-- The names by the numbers of the loop variables. -/
def numbered : Renamer Numbering where
  getEffectiveVariableName := Numbering.nameOf
  enterFor := Numbering.meet
  leaveFor := id
  enterFunction := Numbering.enterFunction

/-- Two traversals after one another: the names of the first are renamed again, and the
loops have the names of the second. -/
def Renamer.andThen {First Second : Type} (first : Renamer First)
    (second : Renamer Second) : Renamer (First × Second) where
  getEffectiveVariableName state name :=
    second.getEffectiveVariableName state.2 (first.getEffectiveVariableName state.1 name)
  enterFor state loopVariable :=
    ((second.enterFor state.2 loopVariable).1,
      (first.enterFor state.1 loopVariable).2, (second.enterFor state.2 loopVariable).2)
  leaveFor state := (first.leaveFor state.1, second.leaveFor state.2)
  enterFunction state := (first.enterFunction state.1, second.enterFunction state.2)

mutual

/-- The loops that have been met after an expression. -/
def afterExpression {State : Type} (renamer : Renamer State) (state : State) :
    Expression -> State
  | .binaryOp _ left right =>
      afterExpression renamer (afterExpression renamer state left) right
  | .unaryOp _ operand => afterExpression renamer state operand
  | .vectorAccess vector index =>
      afterExpression renamer (afterExpression renamer state vector) index
  | .charIndirection string index =>
      afterExpression renamer (afterExpression renamer state string) index
  | .floatVectorIndirection vector index =>
      afterExpression renamer (afterExpression renamer state vector) index
  | .bitfieldAccess base startBit width =>
      afterExpression renamer
        (afterExpression renamer (afterExpression renamer state base) startBit) width
  | .functionCall _ arguments => afterExpressions renamer state arguments
  | .sysCall _ _ arguments => afterExpressions renamer state arguments
  | .conditional condition trueExpr falseExpr =>
      afterExpression renamer
        (afterExpression renamer (afterExpression renamer state condition) trueExpr)
        falseExpr
  | .valof body => afterStatement renamer state body
  | .floatValof body => afterStatement renamer state body
  | .vecAllocation size => afterExpression renamer state size
  | .stringAllocation size => afterExpression renamer state size
  | .list initializers _ => afterExpressions renamer state initializers
  | .integerLiteral _ | .floatLiteral _ | .stringLiteral _ | .charLiteral _
  | .booleanLiteral _ | .variableAccess _ | .fvecAllocation _ | .table _ _
  | .vecInitializer _ => state

def afterExpressions {State : Type} (renamer : Renamer State) (state : State) :
    List Expression -> State
  | [] => state
  | expression :: rest =>
      afterExpressions renamer (afterExpression renamer state expression) rest

def afterExpressionPtr {State : Type} (renamer : Renamer State) (state : State) :
    Option Expression -> State
  | none => state
  | some expression => afterExpression renamer state expression

def afterInitializers {State : Type} (renamer : Renamer State) (state : State) :
    List String -> List Expression -> State
  | _, [] => state
  | [], _ :: _ => state
  | _ :: names, expression :: rest =>
      afterInitializers renamer (afterExpression renamer state expression) names rest

/-- The loops that have been met after a statement. -/
def afterStatement {State : Type} (renamer : Renamer State) (state : State) :
    Statement -> State
  | .letDeclaration names initializers =>
      afterInitializers renamer state names initializers
  | .assignment lhs rhs =>
      afterExpressions renamer (afterExpressions renamer state rhs) lhs
  | .routineCall routine arguments =>
      if isSetType routine arguments then state
      else afterExpressions renamer state arguments
  | .ifStatement condition thenBranch =>
      afterStatement renamer (afterExpression renamer state condition) thenBranch
  | .unless condition thenBranch =>
      afterStatement renamer (afterExpression renamer state condition) thenBranch
  | .test condition thenBranch elseBranch =>
      afterStatement renamer
        (afterStatement renamer (afterExpression renamer state condition) thenBranch)
        elseBranch
  | .whileStatement condition body =>
      afterStatement renamer (afterExpression renamer state condition) body
  | .untilStatement condition body =>
      afterStatement renamer (afterExpression renamer state condition) body
  | .repeatStatement _ body condition =>
      afterExpressionPtr renamer (afterStatement renamer state body) condition
  | .forStatement loopVariable _ startExpr endExpr stepExpr body =>
      let entered := (renamer.enterFor state loopVariable).2
      let bounded := afterExpressionPtr renamer
        (afterExpression renamer (afterExpression renamer entered startExpr) endExpr) stepExpr
      renamer.leaveFor (afterStatement renamer bounded body)
  | .forEach _ _ collection body _ _ =>
      afterStatement renamer (afterExpression renamer state collection) body
  | .switchon expression cases defaultCase =>
      afterStatementPtr renamer
        (afterCases renamer (afterExpression renamer state expression) cases) defaultCase
  | .resultis expression => afterExpression renamer state expression
  | .compound statements => afterStatements renamer state statements
  | .block _ statements => afterStatements renamer state statements
  | .stringStatement size => afterExpression renamer state size
  | .free listExpr => afterExpression renamer state listExpr
  | .misplacedExpression expression => afterExpression renamer state expression
  | .goto _ | .returnStatement | .finish | .breakStatement | .brk | .loop | .endcase
  | .labelTarget _ | .conditionalBranch _ _ _ => state

def afterStatements {State : Type} (renamer : Renamer State) (state : State) :
    List Statement -> State
  | [] => state
  | statement :: rest =>
      afterStatements renamer (afterStatement renamer state statement) rest

def afterStatementPtr {State : Type} (renamer : Renamer State) (state : State) :
    Option Statement -> State
  | none => state
  | some statement => afterStatement renamer state statement

def afterCases {State : Type} (renamer : Renamer State) (state : State) :
    List CaseStatement -> State
  | [] => state
  | .mk _ _ command :: rest =>
      afterCases renamer (afterStatement renamer state command) rest

end

/-! ## When the bindings are kept -/

/-- A declaration of the source with its name after the renaming. -/
structure Declared where
  source : String
  renamed : String
  deriving DecidableEq, Repr

namespace Declared

/-- Declarations whose names stay. -/
def kept (names : List String) : List Declared :=
  names.map fun name => ⟨name, name⟩

end Declared

/-- The innermost declaration that is called `name` in the source or `newName` after the
renaming is called so in both, or there is none. -/
def resolvesAlike : List Declared -> String -> String -> Bool
  | [], _, _ => true
  | declared :: scope, name, newName =>
      if declared.source = name then declared.renamed == newName
      else declared.renamed != newName && resolvesAlike scope name newName

/-- A part of the source that is left alone denotes the same under both names of the
declarations around it. -/
def unchangedExpression (scope : List Declared) (active : List String)
    (expression : Expression) : Bool :=
  expressionBindings .source (scope.map Declared.source) [] expression ==
    expressionBindings .renamed (scope.map Declared.renamed) active expression

def unchangedExpressions (scope : List Declared) (active : List String)
    (expressions : List Expression) : Bool :=
  expressionsBindings .source (scope.map Declared.source) [] expressions ==
    expressionsBindings .renamed (scope.map Declared.renamed) active expressions

def unchangedDeclarations (scope : List Declared) (active : List String)
    (declarations : List Declaration) : Bool :=
  declarationsBindings .source (scope.map Declared.source) [] declarations ==
    declarationsBindings .renamed (scope.map Declared.renamed) active declarations

mutual

/-- No occurrence of the expression changes its declaration, and no loop has the name of
an active one. -/
def keptExpression {State : Type} (renamer : Renamer State) (state : State)
    (scope : List Declared) (active : List String) : Expression -> Bool
  | .variableAccess name =>
      resolvesAlike scope name (renamer.getEffectiveVariableName state name)
  | .binaryOp _ left right =>
      keptExpression renamer state scope active left &&
        keptExpression renamer (afterExpression renamer state left) scope active right
  | .unaryOp _ operand => keptExpression renamer state scope active operand
  | .vectorAccess vector index =>
      keptExpression renamer state scope active vector &&
        keptExpression renamer (afterExpression renamer state vector) scope active index
  | .charIndirection string index =>
      keptExpression renamer state scope active string &&
        keptExpression renamer (afterExpression renamer state string) scope active index
  | .floatVectorIndirection vector index =>
      keptExpression renamer state scope active vector &&
        keptExpression renamer (afterExpression renamer state vector) scope active index
  | .bitfieldAccess base startBit width =>
      keptExpression renamer state scope active base &&
        keptExpression renamer (afterExpression renamer state base) scope active startBit &&
        keptExpression renamer
          (afterExpression renamer (afterExpression renamer state base) startBit) scope
          active width
  | .functionCall function arguments =>
      unchangedExpression scope active function &&
        keptExpressions renamer state scope active arguments
  | .sysCall _ syscallNumber arguments =>
      unchangedExpression scope active syscallNumber &&
        keptExpressions renamer state scope active arguments
  | .conditional condition trueExpr falseExpr =>
      keptExpression renamer state scope active condition &&
        keptExpression renamer (afterExpression renamer state condition) scope active
          trueExpr &&
        keptExpression renamer
          (afterExpression renamer (afterExpression renamer state condition) trueExpr)
          scope active falseExpr
  | .valof body => keptStatement renamer state scope active body
  | .floatValof body => keptStatement renamer state scope active body
  | .vecAllocation size => keptExpression renamer state scope active size
  | .fvecAllocation size => unchangedExpression scope active size
  | .stringAllocation size => keptExpression renamer state scope active size
  | .table initializers _ => unchangedExpressions scope active initializers
  | .vecInitializer initializers => unchangedExpressions scope active initializers
  | .list initializers _ => keptExpressions renamer state scope active initializers
  | .integerLiteral _ | .floatLiteral _ | .stringLiteral _ | .charLiteral _
  | .booleanLiteral _ => true

def keptExpressions {State : Type} (renamer : Renamer State) (state : State)
    (scope : List Declared) (active : List String) : List Expression -> Bool
  | [] => true
  | expression :: rest =>
      keptExpression renamer state scope active expression &&
        keptExpressions renamer (afterExpression renamer state expression) scope active rest

def keptExpressionPtr {State : Type} (renamer : Renamer State) (state : State)
    (scope : List Declared) (active : List String) : Option Expression -> Bool
  | none => true
  | some expression => keptExpression renamer state scope active expression

def keptInitializers {State : Type} (renamer : Renamer State) (state : State)
    (scope : List Declared) (active : List String) :
    List String -> List Expression -> Bool
  | _, [] => true
  | [], expression :: rest => unchangedExpressions scope active (expression :: rest)
  | _ :: names, expression :: rest =>
      keptExpression renamer state scope active expression &&
        keptInitializers renamer (afterExpression renamer state expression) scope active
          names rest

/-- No occurrence of the statement changes its declaration, and no loop has the name of
an active one. -/
def keptStatement {State : Type} (renamer : Renamer State) (state : State)
    (scope : List Declared) (active : List String) : Statement -> Bool
  | .letDeclaration names initializers =>
      keptInitializers renamer state scope active names initializers
  | .assignment lhs rhs =>
      keptExpressions renamer (afterExpressions renamer state rhs) scope active lhs &&
        keptExpressions renamer state scope active rhs
  | .routineCall routine arguments =>
      unchangedExpression scope active routine &&
        if isSetType routine arguments then unchangedExpressions scope active arguments
        else keptExpressions renamer state scope active arguments
  | .ifStatement condition thenBranch =>
      keptExpression renamer state scope active condition &&
        keptStatement renamer (afterExpression renamer state condition) scope active
          thenBranch
  | .unless condition thenBranch =>
      keptExpression renamer state scope active condition &&
        keptStatement renamer (afterExpression renamer state condition) scope active
          thenBranch
  | .test condition thenBranch elseBranch =>
      keptExpression renamer state scope active condition &&
        keptStatement renamer (afterExpression renamer state condition) scope active
          thenBranch &&
        keptStatement renamer
          (afterStatement renamer (afterExpression renamer state condition) thenBranch)
          scope active elseBranch
  | .whileStatement condition body =>
      keptExpression renamer state scope active condition &&
        keptStatement renamer (afterExpression renamer state condition) scope active body
  | .untilStatement condition body =>
      keptExpression renamer state scope active condition &&
        keptStatement renamer (afterExpression renamer state condition) scope active body
  | .repeatStatement _ body condition =>
      keptStatement renamer state scope active body &&
        keptExpressionPtr renamer (afterStatement renamer state body) scope active
          condition
  | .forStatement loopVariable _ startExpr endExpr stepExpr body =>
      let entered := renamer.enterFor state loopVariable
      let uniqueName := entered.1
      let started := afterExpression renamer entered.2 startExpr
      let ended := afterExpression renamer started endExpr
      let stepped := afterExpressionPtr renamer ended stepExpr
      !active.contains uniqueName &&
        (keptExpression renamer entered.2 scope active startExpr &&
            keptExpression renamer started scope (uniqueName :: active) endExpr &&
          (keptExpressionPtr renamer ended scope (uniqueName :: active) stepExpr &&
            keptStatement renamer stepped (⟨loopVariable, uniqueName⟩ :: scope)
              (uniqueName :: active) body))
  | .forEach loopVariable typeVariable collection body _ _ =>
      keptExpression renamer state scope active collection &&
        keptStatement renamer (afterExpression renamer state collection)
          (Declared.kept (Passes.forEachNames loopVariable typeVariable) ++ scope) active
          body
  | .switchon expression cases defaultCase =>
      keptExpression renamer state scope active expression &&
        keptCases renamer (afterExpression renamer state expression) scope active cases &&
        keptStatementPtr renamer
          (afterCases renamer (afterExpression renamer state expression) cases) scope
          active defaultCase
  | .resultis expression => keptExpression renamer state scope active expression
  | .compound statements => keptStatements renamer state scope active statements
  | .block declarations statements =>
      unchangedDeclarations scope active declarations &&
        keptStatements renamer state (Declared.kept (declarationNames declarations) ++ scope)
          active statements
  | .stringStatement size => keptExpression renamer state scope active size
  | .free listExpr => keptExpression renamer state scope active listExpr
  | .conditionalBranch _ _ conditionExpr => unchangedExpression scope active conditionExpr
  | .misplacedExpression expression =>
      keptExpression renamer state scope active expression
  | .goto _ | .returnStatement | .finish | .breakStatement | .brk | .loop | .endcase
  | .labelTarget _ => true

def keptStatements {State : Type} (renamer : Renamer State) (state : State)
    (scope : List Declared) (active : List String) : List Statement -> Bool
  | [] => true
  | statement :: rest =>
      keptStatement renamer state scope active statement &&
        keptStatements renamer (afterStatement renamer state statement)
          (Declared.kept (letNames statement) ++ scope) active rest

def keptStatementPtr {State : Type} (renamer : Renamer State) (state : State)
    (scope : List Declared) (active : List String) : Option Statement -> Bool
  | none => true
  | some statement => keptStatement renamer state scope active statement

def keptCases {State : Type} (renamer : Renamer State) (state : State)
    (scope : List Declared) (active : List String) : List CaseStatement -> Bool
  | [] => true
  | .mk constantExpr _ command :: rest =>
      unchangedExpression scope active constantExpr &&
          keptStatement renamer state scope active command &&
        keptCases renamer (afterStatement renamer state command) scope active rest

end

/-! ## When a program keeps its bindings -/

/-- The loops that the first pass over the body of a routine meets. -/
def afterLets {State : Type} (renamer : Renamer State) (state : State) :
    List Statement -> State
  | [] => state
  | .letDeclaration names initializers :: rest =>
      afterLets renamer (afterInitializers renamer state names initializers) rest
  | _ :: rest => afterLets renamer state rest

/-- The body of a routine whose `LET`s were traversed before. -/
def keptAgain {State : Type} (renamer : Renamer State) (first second : State)
    (scope : List Declared) : List Statement -> Bool
  | [] => true
  | .letDeclaration names initializers :: rest =>
      let twice := renamer.andThen renamer
      let passed := afterInitializers twice (first, second) names initializers
      keptInitializers twice (first, second) scope [] names initializers &&
        keptAgain renamer passed.1 passed.2 (Declared.kept names ++ scope) rest
  | statement :: rest =>
      keptStatement renamer second scope [] statement &&
        keptAgain renamer first (afterStatement renamer second statement) scope rest

/-- The loops that have been met after the body of a routine whose `LET`s were traversed
before. -/
def afterAgain {State : Type} (renamer : Renamer State) (first second : State) :
    List Statement -> State
  | [] => second
  | .letDeclaration names initializers :: rest =>
      let twice := renamer.andThen renamer
      let passed := afterInitializers twice (first, second) names initializers
      afterAgain renamer passed.1 passed.2 rest
  | statement :: rest =>
      afterAgain renamer first (afterStatement renamer second statement) rest

/-- No occurrence of the body of a routine changes its declaration. -/
def keptRoutineBody {State : Type} (renamer : Renamer State) (state : State)
    (scope : List Declared) : Statement -> Bool
  | .compound statements =>
      keptAgain renamer state (afterLets renamer state statements) scope statements
  | body => keptStatement renamer state scope [] body

/-- The loops that have been met after the body of a routine. -/
def afterRoutineBody {State : Type} (renamer : Renamer State) (state : State) :
    Statement -> State
  | .compound statements =>
      afterAgain renamer state (afterLets renamer state statements) statements
  | body => afterStatement renamer state body

/-- The loops that have been met after a declaration of the program. -/
def afterProgramDeclaration {State : Type} (renamer : Renamer State) (state : State) :
    Passes.ProgramDeclaration -> State
  | .functionDeclaration _ _ body =>
      afterExpression renamer (renamer.enterFunction state) body
  | .routineDeclaration _ _ body =>
      afterRoutineBody renamer (renamer.enterFunction state) body
  | _ => state

def afterProgramDeclarations {State : Type} (renamer : Renamer State) (state : State) :
    List Passes.ProgramDeclaration -> State
  | [] => state
  | declaration :: rest =>
      afterProgramDeclarations renamer (afterProgramDeclaration renamer state declaration)
        rest

/-- No occurrence of the declaration changes what it denotes. -/
def keptProgramDeclaration {State : Type} (renamer : Renamer State) (state : State)
    (globals : List String) : Passes.ProgramDeclaration -> Bool
  | .staticDeclaration _ initializer =>
      unchangedExpression (Declared.kept globals) [] initializer
  | .globalVariableDeclaration _ initializers =>
      unchangedExpressions (Declared.kept globals) [] initializers
  | .functionDeclaration _ parameters body =>
      keptExpression renamer (renamer.enterFunction state)
        (Declared.kept (parameters ++ globals)) [] body
  | .routineDeclaration _ parameters body =>
      keptRoutineBody renamer (renamer.enterFunction state)
        (Declared.kept (parameters ++ globals)) body
  | _ => true

def keptProgramDeclarations {State : Type} (renamer : Renamer State) (state : State)
    (globals : List String) : List Passes.ProgramDeclaration -> Bool
  | [] => true
  | declaration :: rest =>
      keptProgramDeclaration renamer state globals declaration &&
        keptProgramDeclarations renamer
          (afterProgramDeclaration renamer state declaration) globals rest

/-- No occurrence of the program changes what it denotes when the renamer renames it. -/
def keptProgram {State : Type} (renamer : Renamer State) (state : State)
    (program : Passes.Program) : Bool :=
  let globals := programNames program.declarations
  keptProgramDeclarations renamer state globals program.declarations &&
    keptStatements renamer (afterProgramDeclarations renamer state program.declarations)
      (Declared.kept globals) [] program.statements

end Analysis
end NewBcpl
