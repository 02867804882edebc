import NewBcpl.Passes.ManifestBindings

namespace NewBcpl
namespace Analysis

/-!
# The names of loop variables

The part of `ASTAnalyzer` that renames. Every FOR loop gives its variable a name of
its own, and an access to a variable takes the name of the loop it seems to belong
to. The traversal is stated over what decides the names, a `Renamer`, of which
`analyzer` is the one of the class. The metrics, types and symbols that the class also
collects decide no name and are left out, and so are the operators, types and constants
that it writes into the tree.
-/

/-- What decides the names during a traversal whose state is a `State`. -/
structure Renamer (State : Type) where
  getEffectiveVariableName : State -> String -> String
  /-- The unique name of a loop over the variable, and the state inside the loop. -/
  enterFor : State -> String -> String × State
  leaveFor : State -> State
  /-- The state at the start of a function or routine. -/
  enterFunction : State -> State

/-- `for_variable_unique_aliases_`, `active_for_loop_scopes_`, a stack of maps with one
entry each, and `for_loop_var_counter_`. -/
structure AnalyzerState where
  forVariableUniqueAliases : List (String × String)
  activeForLoopScopes : List (String × String)
  forLoopVarCounter : Nat
  deriving DecidableEq, Repr

namespace AnalyzerState

/-- The state that `visit(Program&)` starts with. -/
def start : AnalyzerState :=
  { forVariableUniqueAliases := [], activeForLoopScopes := [], forLoopVarCounter := 0 }

/-- `get_effective_variable_name`: the active loops, the innermost first, then every
loop of the function so far. -/
def getEffectiveVariableName (state : AnalyzerState) (originalName : String) : String :=
  match state.activeForLoopScopes.lookup originalName with
  | some uniqueName => uniqueName
  | none =>
      match state.forVariableUniqueAliases.lookup originalName with
      | some uniqueName => uniqueName
      | none => originalName

/-- The unique name of the loop variable that is met when the counter has a value. -/
def forVariableName (loopVariable : String) (counter : Nat) : String :=
  loopVariable ++ "_for_var_" ++ toString counter

/-- The start of `visit(ForStatement&)`: a variable that has an alias keeps it. -/
def enterFor (state : AnalyzerState) (loopVariable : String) : String × AnalyzerState :=
  match state.forVariableUniqueAliases.lookup loopVariable with
  | some uniqueName =>
      (uniqueName,
        { state with
          activeForLoopScopes := (loopVariable, uniqueName) :: state.activeForLoopScopes })
  | none =>
      let uniqueName := forVariableName loopVariable state.forLoopVarCounter
      (uniqueName,
        { forVariableUniqueAliases :=
            (loopVariable, uniqueName) :: state.forVariableUniqueAliases
          activeForLoopScopes := (loopVariable, uniqueName) :: state.activeForLoopScopes
          forLoopVarCounter := state.forLoopVarCounter + 1 })

/-- The end of `visit(ForStatement&)`. -/
def leaveFor (state : AnalyzerState) : AnalyzerState :=
  { state with activeForLoopScopes := state.activeForLoopScopes.tail }

/-- The start of `visit(FunctionDeclaration&)` and `visit(RoutineDeclaration&)`. -/
def enterFunction (state : AnalyzerState) : AnalyzerState :=
  { state with forVariableUniqueAliases := [], activeForLoopScopes := [] }

end AnalyzerState

/-- What decides the names in `ASTAnalyzer`. -/
def analyzer : Renamer AnalyzerState where
  getEffectiveVariableName := AnalyzerState.getEffectiveVariableName
  enterFor := AnalyzerState.enterFor
  leaveFor := AnalyzerState.leaveFor
  enterFunction := AnalyzerState.enterFunction

/-- The call `SETTYPE(variable, type)`, which the analyzer takes for itself. -/
def isSetType : Expression -> List Expression -> Bool
  | .variableAccess name, arguments => name == "SETTYPE" && arguments.length == 2
  | _, _ => false

/-! ## The traversal -/

mutual

/-- `visit` on the expressions. Called functions, numbers of system calls, tables and
the sizes of `FVEC` are left alone. -/
def visitExpression {State : Type} (renamer : Renamer State) (state : State) :
    Expression -> Expression × State
  | .integerLiteral value => (.integerLiteral value, state)
  | .floatLiteral value => (.floatLiteral value, state)
  | .stringLiteral value => (.stringLiteral value, state)
  | .charLiteral value => (.charLiteral value, state)
  | .booleanLiteral value => (.booleanLiteral value, state)
  | .variableAccess name =>
      (.variableAccess (renamer.getEffectiveVariableName state name), state)
  | .binaryOp operator left right =>
      let newLeft := visitExpression renamer state left
      let newRight := visitExpression renamer newLeft.2 right
      (.binaryOp operator newLeft.1 newRight.1, newRight.2)
  | .unaryOp operator operand =>
      let visited := visitExpression renamer state operand
      (.unaryOp operator visited.1, visited.2)
  | .vectorAccess vector index =>
      let newVector := visitExpression renamer state vector
      let newIndex := visitExpression renamer newVector.2 index
      (.vectorAccess newVector.1 newIndex.1, newIndex.2)
  | .charIndirection string index =>
      let newString := visitExpression renamer state string
      let newIndex := visitExpression renamer newString.2 index
      (.charIndirection newString.1 newIndex.1, newIndex.2)
  | .floatVectorIndirection vector index =>
      let newVector := visitExpression renamer state vector
      let newIndex := visitExpression renamer newVector.2 index
      (.floatVectorIndirection newVector.1 newIndex.1, newIndex.2)
  | .bitfieldAccess base startBit width =>
      let newBase := visitExpression renamer state base
      let newStartBit := visitExpression renamer newBase.2 startBit
      let newWidth := visitExpression renamer newStartBit.2 width
      (.bitfieldAccess newBase.1 newStartBit.1 newWidth.1, newWidth.2)
  | .functionCall function arguments =>
      let visited := visitExpressions renamer state arguments
      (.functionCall function visited.1, visited.2)
  | .sysCall functionName syscallNumber arguments =>
      let visited := visitExpressions renamer state arguments
      (.sysCall functionName syscallNumber visited.1, visited.2)
  | .conditional condition trueExpr falseExpr =>
      let newCondition := visitExpression renamer state condition
      let newTrueExpr := visitExpression renamer newCondition.2 trueExpr
      let newFalseExpr := visitExpression renamer newTrueExpr.2 falseExpr
      (.conditional newCondition.1 newTrueExpr.1 newFalseExpr.1, newFalseExpr.2)
  | .valof body =>
      let visited := visitStatement renamer state body
      (.valof visited.1, visited.2)
  | .floatValof body =>
      let visited := visitStatement renamer state body
      (.floatValof visited.1, visited.2)
  | .vecAllocation size =>
      let visited := visitExpression renamer state size
      (.vecAllocation visited.1, visited.2)
  | .fvecAllocation size => (.fvecAllocation size, state)
  | .stringAllocation size =>
      let visited := visitExpression renamer state size
      (.stringAllocation visited.1, visited.2)
  | .table initializers isFloatTable => (.table initializers isFloatTable, state)
  | .vecInitializer initializers => (.vecInitializer initializers, state)
  | .list initializers isManifest =>
      let visited := visitExpressions renamer state initializers
      (.list visited.1 isManifest, visited.2)

def visitExpressions {State : Type} (renamer : Renamer State) (state : State) :
    List Expression -> List Expression × State
  | [] => ([], state)
  | expression :: rest =>
      let first := visitExpression renamer state expression
      let others := visitExpressions renamer first.2 rest
      (first.1 :: others.1, others.2)

def visitExpressionPtr {State : Type} (renamer : Renamer State) (state : State) :
    Option Expression -> Option Expression × State
  | none => (none, state)
  | some expression =>
      let visited := visitExpression renamer state expression
      (some visited.1, visited.2)

/-- The initializers of a `LET`, one for each name. -/
def visitInitializers {State : Type} (renamer : Renamer State) (state : State) :
    List String -> List Expression -> List Expression × State
  | _, [] => ([], state)
  | [], expression :: rest => (expression :: rest, state)
  | _ :: names, expression :: rest =>
      let first := visitExpression renamer state expression
      let others := visitInitializers renamer first.2 names rest
      (first.1 :: others.1, others.2)

/-- `visit` on the statements. The variable of a loop is named before its bounds are
visited. -/
def visitStatement {State : Type} (renamer : Renamer State) (state : State) :
    Statement -> Statement × State
  | .letDeclaration names initializers =>
      let visited := visitInitializers renamer state names initializers
      (.letDeclaration names visited.1, visited.2)
  | .assignment lhs rhs =>
      let newRhs := visitExpressions renamer state rhs
      let newLhs := visitExpressions renamer newRhs.2 lhs
      (.assignment newLhs.1 newRhs.1, newLhs.2)
  | .routineCall routine arguments =>
      if isSetType routine arguments then (.routineCall routine arguments, state)
      else
        let visited := visitExpressions renamer state arguments
        (.routineCall routine visited.1, visited.2)
  | .ifStatement condition thenBranch =>
      let newCondition := visitExpression renamer state condition
      let newThenBranch := visitStatement renamer newCondition.2 thenBranch
      (.ifStatement newCondition.1 newThenBranch.1, newThenBranch.2)
  | .unless condition thenBranch =>
      let newCondition := visitExpression renamer state condition
      let newThenBranch := visitStatement renamer newCondition.2 thenBranch
      (.unless newCondition.1 newThenBranch.1, newThenBranch.2)
  | .test condition thenBranch elseBranch =>
      let newCondition := visitExpression renamer state condition
      let newThenBranch := visitStatement renamer newCondition.2 thenBranch
      let newElseBranch := visitStatement renamer newThenBranch.2 elseBranch
      (.test newCondition.1 newThenBranch.1 newElseBranch.1, newElseBranch.2)
  | .whileStatement condition body =>
      let newCondition := visitExpression renamer state condition
      let newBody := visitStatement renamer newCondition.2 body
      (.whileStatement newCondition.1 newBody.1, newBody.2)
  | .untilStatement condition body =>
      let newCondition := visitExpression renamer state condition
      let newBody := visitStatement renamer newCondition.2 body
      (.untilStatement newCondition.1 newBody.1, newBody.2)
  | .repeatStatement loopType body condition =>
      let newBody := visitStatement renamer state body
      let newCondition := visitExpressionPtr renamer newBody.2 condition
      (.repeatStatement loopType newBody.1 newCondition.1, newCondition.2)
  | .forStatement loopVariable _ startExpr endExpr stepExpr body =>
      let entered := renamer.enterFor state loopVariable
      let start := visitExpression renamer entered.2 startExpr
      let end_ := visitExpression renamer start.2 endExpr
      let step := visitExpressionPtr renamer end_.2 stepExpr
      let visited := visitStatement renamer step.2 body
      (.forStatement loopVariable entered.1 start.1 end_.1 step.1 visited.1,
        renamer.leaveFor visited.2)
  | .forEach loopVariable typeVariable collection body filterType elementType =>
      let newCollection := visitExpression renamer state collection
      let newBody := visitStatement renamer newCollection.2 body
      (.forEach loopVariable typeVariable newCollection.1 newBody.1 filterType elementType,
        newBody.2)
  | .switchon expression cases defaultCase =>
      let newExpression := visitExpression renamer state expression
      let newCases := visitCases renamer newExpression.2 cases
      let newDefaultCase := visitStatementPtr renamer newCases.2 defaultCase
      (.switchon newExpression.1 newCases.1 newDefaultCase.1, newDefaultCase.2)
  | .goto label => (.goto label, state)
  | .returnStatement => (.returnStatement, state)
  | .finish => (.finish, state)
  | .breakStatement => (.breakStatement, state)
  | .brk => (.brk, state)
  | .loop => (.loop, state)
  | .endcase => (.endcase, state)
  | .resultis expression =>
      let visited := visitExpression renamer state expression
      (.resultis visited.1, visited.2)
  | .compound statements =>
      let visited := visitStatements renamer state statements
      (.compound visited.1, visited.2)
  | .block declarations statements =>
      let visited := visitStatements renamer state statements
      (.block declarations visited.1, visited.2)
  | .stringStatement size =>
      let visited := visitExpression renamer state size
      (.stringStatement visited.1, visited.2)
  | .free listExpr =>
      let visited := visitExpression renamer state listExpr
      (.free visited.1, visited.2)
  | .labelTarget labelName => (.labelTarget labelName, state)
  | .conditionalBranch condition targetLabel conditionExpr =>
      (.conditionalBranch condition targetLabel conditionExpr, state)
  | .misplacedExpression expression =>
      let visited := visitExpression renamer state expression
      (.misplacedExpression visited.1, visited.2)

def visitStatements {State : Type} (renamer : Renamer State) (state : State) :
    List Statement -> List Statement × State
  | [] => ([], state)
  | statement :: rest =>
      let first := visitStatement renamer state statement
      let others := visitStatements renamer first.2 rest
      (first.1 :: others.1, others.2)

def visitStatementPtr {State : Type} (renamer : Renamer State) (state : State) :
    Option Statement -> Option Statement × State
  | none => (none, state)
  | some statement =>
      let visited := visitStatement renamer state statement
      (some visited.1, visited.2)

/-- The cases of a `SWITCHON`, of which only the commands are visited. -/
def visitCases {State : Type} (renamer : Renamer State) (state : State) :
    List CaseStatement -> List CaseStatement × State
  | [] => ([], state)
  | .mk constantExpr resolvedConstantValue command :: rest =>
      let first := visitStatement renamer state command
      let others := visitCases renamer first.2 rest
      (.mk constantExpr resolvedConstantValue first.1 :: others.1, others.2)

end

/-! ## Functions, routines and programs -/

/-- The first pass of `visit(RoutineDeclaration&)` over the statements of the body: it
visits the `LET`s. -/
def visitLets {State : Type} (renamer : Renamer State) (state : State) :
    List Statement -> List Statement × State
  | [] => ([], state)
  | .letDeclaration names initializers :: rest =>
      let first := visitStatement renamer state (.letDeclaration names initializers)
      let others := visitLets renamer first.2 rest
      (first.1 :: others.1, others.2)
  | statement :: rest =>
      let others := visitLets renamer state rest
      (statement :: others.1, others.2)

/-- The two passes over the body of a routine; the first is made over a
`CompoundStatement` only. -/
def visitRoutineBody {State : Type} (renamer : Renamer State) (state : State) :
    Statement -> Statement × State
  | .compound statements =>
      let lets := visitLets renamer state statements
      visitStatement renamer lets.2 (.compound lets.1)
  | body => visitStatement renamer state body

/-- `visit` on the declarations of a program. -/
def visitProgramDeclaration {State : Type} (renamer : Renamer State) (state : State) :
    Passes.ProgramDeclaration -> Passes.ProgramDeclaration × State
  | .functionDeclaration name parameters body =>
      let visited := visitExpression renamer (renamer.enterFunction state) body
      (.functionDeclaration name parameters visited.1, visited.2)
  | .routineDeclaration name parameters body =>
      let visited := visitRoutineBody renamer (renamer.enterFunction state) body
      (.routineDeclaration name parameters visited.1, visited.2)
  | declaration => (declaration, state)

def visitProgramDeclarations {State : Type} (renamer : Renamer State) (state : State) :
    List Passes.ProgramDeclaration -> List Passes.ProgramDeclaration × State
  | [] => ([], state)
  | declaration :: rest =>
      let first := visitProgramDeclaration renamer state declaration
      let others := visitProgramDeclarations renamer first.2 rest
      (first.1 :: others.1, others.2)

/-- A program as a renamer leaves it. -/
def renameProgram {State : Type} (renamer : Renamer State) (state : State)
    (program : Passes.Program) : Passes.Program :=
  let declarations := visitProgramDeclarations renamer state program.declarations
  { declarations := declarations.1
    statements := (visitStatements renamer declarations.2 program.statements).1 }

/-- `visit(Program&)`. -/
def visitProgram (program : Passes.Program) : Passes.Program :=
  renameProgram analyzer AnalyzerState.start program

end Analysis
end NewBcpl
