import NewBcpl.ControlFlow.TargetStacks

namespace NewBcpl
namespace ControlFlow

/-!
# The execution of statements and of graphs

The code generator emits the code of the statements of a block in turn and then, in
`generate_block_epilogue`, the branches to the successors; the visitors of the statements that
decide between successors, and of the jumps, emit nothing themselves. What the emitted code of
a statement or an expression does to a state of the machine is a parameter. Beside the
execution of a graph stands the meaning of the structured statements, by their structure: fuel
bounds the rounds of their loops.
-/

/-- What the code of the statements, the expressions and the loads of variables does. -/
structure Meaning (State : Type) where
  perform : Statement -> State -> State
  evaluate : Expression -> State -> Word × State
  load : String -> State -> Word

/-- The visitors that emit no code. -/
def emitsNothing : Statement -> Bool
  | .ifStatement _ _ | .forStatement _ _ _ _ _ _ | .switchon _ _ _
  | .conditionalBranch _ _ _ | .goto _ | .breakStatement | .loop | .endcase => true
  | _ => false

/-- What `create_cmp_imm` compares with for a case constant: the constant becomes an `int`, and
an immediate that does not fit into 12 bits is an error. -/
def comparedWith (constant : Word) : Option Word :=
  let immediate := constant.setWidth 32
  if immediate.ult 4096#32 then some (immediate.setWidth 64) else none

/-- The comparisons with the case constants in turn, and the last branch. -/
def chooseCase (value : Word) (cases : List CaseStatement) (hasDefault : Bool)
    (successors : List Nat) : Option Nat := do
  let constants <- cases.mapM fun branch => branch.resolvedConstantValue.bind comparedWith
  match constants.findIdx? (· == value) with
  | some index => successors[index]?
  | none => if hasDefault then successors[cases.length]? else successors.getLast?

namespace Meaning

variable {State : Type} (meaning : Meaning State)

/-- The code of a statement of a block. -/
def effect (statement : Statement) (state : State) : State :=
  if emitsNothing statement then state else meaning.perform statement state

/-- `generate_block_epilogue`: the successor that is branched to and the state there. There is
none without successors, or where the code generator gives up. -/
def leaveBlock (block : BasicBlock) (state : State) : Option (Nat × State) :=
  match block.successors with
  | [] => none
  | [successor] => some (successor, state)
  | [first, second] =>
      match block.statements.getLast? with
      | some (.ifStatement condition _) =>
          let tested := meaning.evaluate condition state
          some (if tested.1 = 0#64 then second else first, tested.2)
      | some (.conditionalBranch condition _ expression) =>
          let tested := meaning.evaluate expression state
          some (if (tested.1 == 0#64) == (condition == "EQ") then second else first, tested.2)
      | some (.forStatement _ uniqueName _ endExpr _ _) =>
          let limit := meaning.evaluate endExpr state
          some (if limit.1.slt (meaning.load uniqueName state) then second else first, limit.2)
      | some (.switchon expression cases defaultCase) =>
          let tested := meaning.evaluate expression state
          (chooseCase tested.1 cases defaultCase.isSome [first, second]).map (·, tested.2)
      | _ => none
  | successors =>
      match block.statements.getLast? with
      | some (.switchon expression cases defaultCase) =>
          let tested := meaning.evaluate expression state
          (chooseCase tested.1 cases defaultCase.isSome successors).map (·, tested.2)
      | _ => none

end Meaning

/-- A place in the code: in front of a statement of a block, or of its epilogue. -/
structure Point where
  block : Nat
  index : Nat
  deriving DecidableEq

namespace Point

/-- The head of a block. -/
def head (block : Nat) : Point :=
  { block := block, index := 0 }

end Point

namespace Meaning

variable {State : Type} (meaning : Meaning State)

/-- One statement of a block, or its epilogue. -/
def step (graph : Nat -> BasicBlock) (config : Point × State) : Option (Point × State) :=
  match (graph config.1.block).statements[config.1.index]? with
  | some statement =>
      some (⟨config.1.block, config.1.index + 1⟩, meaning.effect statement config.2)
  | none =>
      (meaning.leaveBlock (graph config.1.block) config.2).map fun next =>
        (Point.head next.1, next.2)

end Meaning

/-! ## Structured statements -/

/-- How a structured statement ends. -/
inductive Outcome where
  | normal | broken | looped | endcased | left | finished

namespace Outcome

/-- The outcome of a `SWITCHON`, of which an `ENDCASE` is the end. -/
def ofCase : Outcome -> Outcome
  | endcased => normal
  | outcome => outcome

end Outcome

/-- The assignments of a `LET`. -/
def initializations (names : List String) (initializers : List Expression) :
    List Statement :=
  (names.zip initializers).map fun pair => assignVariable pair.1 pair.2

/-- The assignment in front of the rounds of a `FOR` but the first. -/
def increment (uniqueName : String) (stepExpr : Option Expression) : Statement :=
  assignVariable uniqueName (.binaryOp .add (.variableAccess uniqueName)
    (stepExpr.getD (.integerLiteral 1#64)))

namespace Meaning

variable {State : Type} (meaning : Meaning State)

/-- Statements without branches in turn. -/
def performAll (statements : List Statement) (state : State) : State :=
  statements.foldl (fun current statement => meaning.perform statement current) state

/-- The rounds of a `FOR`: it goes on while its variable is at most its limit, whatever the
sign of its step. -/
def runRounds (uniqueName : String) (endExpr : Expression) (stepExpr : Option Expression)
    (body : State -> Option (Outcome × State)) : Nat -> State -> Option (Outcome × State)
  | 0, _ => none
  | rounds + 1, state =>
      let limit := meaning.evaluate endExpr state
      if limit.1.slt (meaning.load uniqueName state) then some (.normal, limit.2)
      else
        match body limit.2 with
        | some (.normal, after) | some (.looped, after) =>
            runRounds uniqueName endExpr stepExpr body rounds
              (meaning.perform (increment uniqueName stepExpr) after)
        | some (.broken, after) => some (.normal, after)
        | other => other

mutual

/-- The meaning of a structured statement; there is none when the fuel is used up. -/
def run (fuel : Nat) : Statement -> State -> Option (Outcome × State)
  | .letDeclaration names initializers, state =>
      some (.normal, meaning.performAll (initializations names initializers) state)
  | .ifStatement condition thenBranch, state =>
      let tested := meaning.evaluate condition state
      if tested.1 = 0#64 then some (.normal, tested.2) else run fuel thenBranch tested.2
  | .forStatement _ uniqueName startExpr endExpr stepExpr body, state =>
      meaning.runRounds uniqueName endExpr stepExpr (fun state => run fuel body state) fuel
        (meaning.perform (assignVariable uniqueName startExpr) state)
  | .switchon _ [] none, state => some (.normal, state)
  | .switchon expression cases none, state =>
      let tested := meaning.evaluate expression state
      (runCases fuel tested.1 (fun state => some (.normal, state)) cases tested.2).map
        fun result => (result.1.ofCase, result.2)
  | .switchon expression cases (some defaultCase), state =>
      let tested := meaning.evaluate expression state
      (runCases fuel tested.1 (fun state => run fuel defaultCase state) cases tested.2).map
        fun result => (result.1.ofCase, result.2)
  | .breakStatement, state => some (.broken, state)
  | .loop, state => some (.looped, state)
  | .endcase, state => some (.endcased, state)
  | .returnStatement, state => some (.left, meaning.perform .returnStatement state)
  | .resultis expression, state => some (.left, meaning.perform (.resultis expression) state)
  | .finish, state => some (.finished, meaning.perform .finish state)
  | .compound statements, state => runAll fuel statements state
  | .block _ statements, state => runAll fuel statements state
  | statement, state => some (.normal, meaning.perform statement state)

/-- Statements in turn, up to one that does not end normally. -/
def runAll (fuel : Nat) : List Statement -> State -> Option (Outcome × State)
  | [], state => some (.normal, state)
  | first :: rest, state =>
      match run fuel first state with
      | some (.normal, after) => runAll fuel rest after
      | other => other

/-- The command of the first case with a value; there is no way from one case into the next. -/
def runCases (fuel : Nat) (value : Word) (otherwise : State -> Option (Outcome × State)) :
    List CaseStatement -> State -> Option (Outcome × State)
  | [], state => otherwise state
  | .mk _ constant command :: rest, state =>
      if constant = some value then run fuel command state
      else runCases fuel value otherwise rest state

end

end Meaning

/-- A case constant that the comparisons can be made with. -/
def isComparable (branch : CaseStatement) : Bool :=
  branch.resolvedConstantValue.any fun constant => constant.ult 4096#64

mutual

/-- The statements that the builder lowers without a `VALOF` to visit, a label or a `GOTO`: of
the jumps there are those out of the construct around them. The visits of the other statements
add nothing to the graph, and `FOREACH` does not restore the targets. -/
def isStructured (inLoop inSwitch : Bool) : Statement -> Bool
  | .letDeclaration _ initializers => allHaveNoValof initializers
  | .assignment lhs rhs => allHaveNoValof lhs && allHaveNoValof rhs
  | .routineCall routine arguments => hasNoValof routine && allHaveNoValof arguments
  | .stringStatement size => hasNoValof size
  | .brk | .returnStatement | .resultis _ | .finish => true
  | .breakStatement | .loop => inLoop
  | .endcase => inSwitch
  | .ifStatement condition thenBranch =>
      hasNoValof condition && isStructured inLoop inSwitch thenBranch
  | .forStatement _ _ startExpr _ _ body =>
      hasNoValof startExpr && isStructured true inSwitch body
  | .switchon _ cases none => areStructuredCases inLoop cases
  | .switchon _ cases (some defaultCase) =>
      areStructuredCases inLoop cases && isStructured inLoop true defaultCase
  | .compound statements => areStructured inLoop inSwitch statements
  | .block declarations statements =>
      declarations.all declarationHasNoValof && areStructured inLoop inSwitch statements
  | _ => false

/-- Structured statements in turn. -/
def areStructured (inLoop inSwitch : Bool) : List Statement -> Bool
  | [] => true
  | first :: rest => isStructured inLoop inSwitch first && areStructured inLoop inSwitch rest

/-- Structured cases whose constants can be compared with. -/
def areStructuredCases (inLoop : Bool) : List CaseStatement -> Bool
  | [] => true
  | .mk constantExpr constant command :: rest =>
      isComparable (.mk constantExpr constant command) && isStructured inLoop true command &&
        areStructuredCases inLoop rest

end

end ControlFlow
end NewBcpl
