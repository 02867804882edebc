import NewBcpl.ControlFlow.ControlFlowGraph
import NewBcpl.Foundations.EventPaths

namespace NewBcpl
namespace Liveness

open ControlFlow
open Foundations.EventPaths

/-!
# The reads and assignments on the paths of a graph

What the generated code reads and assigns when it takes a path through a control-flow
graph. A statement at the end of a block that stands for a whole construct, whose parts
are in blocks of their own, only tests there: an `IF` its condition, a `FOR` its variable
against the end, a `SWITCHON` its expression. The body of a `VALOF` is run in place; a
jump out of it ends it.
-/

/-- How a statement inside a `VALOF` is left. -/
inductive Completion where
  | normal | looped | broken | endcased | ended
  deriving DecidableEq

/-- The ways to each completion. -/
abbrev Outcomes : Type := Completion -> Paths String

/-- Only the normal completion. -/
def proceed (paths : Paths String) : Outcomes
  | .normal => paths
  | _ => ∅

/-- Only a jump. -/
def jump (completion : Completion) (paths : Paths String) : Outcomes :=
  fun other => if other = completion then paths else ∅

/-- One statement after another. -/
def andThen (first second : Outcomes) : Outcomes :=
  fun completion =>
    sequence (first .normal) (second completion) ∪
      if completion = .normal then ∅ else first completion

/-- Either statement. -/
def either (first second : Outcomes) : Outcomes :=
  fun completion => first completion ∪ second completion

/-- A loop: rounds, and then the exit, or from the body of one more round a jump. -/
def rounds (once exit before : Paths String) (body : Outcomes) : Outcomes
  | .normal => sequence (repeated once) (exit ∪ sequence before (body .broken))
  | .endcased => sequence (repeated once) (sequence before (body .endcased))
  | .ended => sequence (repeated once) (sequence before (body .ended))
  | _ => ∅

/-- The ways on which a body comes to the next round of its loop. -/
def continues (body : Outcomes) : Paths String :=
  body .normal ∪ body .looped

/-- Assignments to variables. -/
def assigns : List String -> Paths String
  | [] => idle
  | name :: rest => sequence (single (.assign name)) (assigns rest)

mutual

/-- The ways through an expression. -/
def expressionPaths : Expression -> Paths String
  | .variableAccess name => single (.read name)
  | .binaryOp _ left right => sequence (expressionPaths left) (expressionPaths right)
  | .unaryOp _ operand => expressionPaths operand
  | .vectorAccess vector index => sequence (expressionPaths vector) (expressionPaths index)
  | .charIndirection string index =>
      sequence (expressionPaths string) (expressionPaths index)
  | .floatVectorIndirection vector index =>
      sequence (expressionPaths vector) (expressionPaths index)
  | .bitfieldAccess base startBit width =>
      sequence (expressionPaths base)
        (sequence (expressionPaths startBit) (expressionPaths width))
  | .functionCall function arguments =>
      sequence (expressionsPaths arguments) (expressionPaths function)
  | .sysCall _ syscallNumber arguments =>
      sequence (expressionPaths syscallNumber) (expressionsPaths arguments)
  | .conditional condition trueExpr falseExpr =>
      sequence (expressionPaths condition)
        (expressionPaths trueExpr ∪ expressionPaths falseExpr)
  | .valof body => {events | exists completion, events ∈ statementPaths body completion}
  | .floatValof body => {events | exists completion, events ∈ statementPaths body completion}
  | .vecAllocation size => expressionPaths size
  | .fvecAllocation size => expressionPaths size
  | .stringAllocation size => expressionPaths size
  | .table initializers _ => expressionsPaths initializers
  | .vecInitializer initializers => expressionsPaths initializers
  | .list initializers _ => expressionsPaths initializers
  | .integerLiteral _ | .floatLiteral _ | .stringLiteral _ | .charLiteral _
  | .booleanLiteral _ => idle

def expressionsPaths : List Expression -> Paths String
  | [] => idle
  | expression :: rest => sequence (expressionPaths expression) (expressionsPaths rest)

def expressionPtrPaths : Option Expression -> Paths String
  | none => idle
  | some expression => expressionPaths expression

/-- The targets of an assignment in turn: a variable is assigned, a bitfield of a
variable reads it before, and of anything else the address is read. -/
def targetsPaths : List Expression -> Paths String
  | [] => idle
  | .variableAccess name :: rest => sequence (single (.assign name)) (targetsPaths rest)
  | .bitfieldAccess (.variableAccess name) startBit width :: rest =>
      sequence
        (sequence (single (.read name))
          (sequence (expressionPaths startBit) (expressionPaths width)))
        (sequence (single (.assign name)) (targetsPaths rest))
  | target :: rest => sequence (expressionPaths target) (targetsPaths rest)

/-- The initializers of a `LET`, each followed by the assignment of its name. -/
def initializersPaths : List String -> List Expression -> Paths String
  | name :: names, initializer :: rest =>
      sequence (expressionPaths initializer)
        (sequence (single (.assign name)) (initializersPaths names rest))
  | _, _ => idle

/-- The ways through a statement. -/
def statementPaths : Statement -> Outcomes
  | .letDeclaration names initializers => proceed (initializersPaths names initializers)
  | .assignment lhs rhs => proceed (sequence (expressionsPaths rhs) (targetsPaths lhs))
  | .routineCall routine arguments =>
      proceed (sequence (expressionsPaths arguments) (expressionPaths routine))
  | .ifStatement condition thenBranch =>
      andThen (proceed (expressionPaths condition))
        (either (statementPaths thenBranch) (proceed idle))
  | .unless condition thenBranch =>
      andThen (proceed (expressionPaths condition))
        (either (statementPaths thenBranch) (proceed idle))
  | .test condition thenBranch elseBranch =>
      andThen (proceed (expressionPaths condition))
        (either (statementPaths thenBranch) (statementPaths elseBranch))
  | .whileStatement condition body =>
      let test := expressionPaths condition
      rounds (sequence test (continues (statementPaths body))) test test (statementPaths body)
  | .untilStatement condition body =>
      let test := expressionPaths condition
      rounds (sequence test (continues (statementPaths body))) test test (statementPaths body)
  | .repeatStatement .repeatForever body _ =>
      -- A path may be looked at after any round, so the endless loop is left there.
      rounds (continues (statementPaths body)) idle idle (statementPaths body)
  | .repeatStatement _ body condition =>
      let once := sequence (continues (statementPaths body)) (expressionPtrPaths condition)
      rounds once once idle (statementPaths body)
  | .forStatement _ uniqueName startExpr endExpr stepExpr body =>
      let test := sequence (single (.read uniqueName)) (expressionPaths endExpr)
      let advance := sequence (single (.read uniqueName))
        (sequence (expressionPtrPaths stepExpr) (single (.assign uniqueName)))
      andThen (proceed (sequence (expressionPaths startExpr) (single (.assign uniqueName))))
        (rounds (sequence test (sequence (continues (statementPaths body)) advance)) test test
          (statementPaths body))
  | .forEach loopVariableName typeVariableName collection body _ _ =>
      let element := assigns
        (if typeVariableName = "" then [loopVariableName]
          else [typeVariableName, loopVariableName])
      andThen (proceed (expressionPaths collection))
        (rounds (sequence element (continues (statementPaths body))) idle element
          (statementPaths body))
  | .switchon expression cases defaultCase =>
      let chosen := either (casesPaths cases)
        (match defaultCase with
          | some command => statementPaths command
          | none => proceed idle)
      andThen (proceed (expressionPaths expression)) fun completion =>
        match completion with
        | .normal => chosen .normal ∪ chosen .endcased
        | .endcased => ∅
        | other => chosen other
  | .resultis expression => jump .ended (expressionPaths expression)
  | .goto _ | .returnStatement | .finish => jump .ended idle
  | .breakStatement => jump .broken idle
  | .loop => jump .looped idle
  | .endcase => jump .endcased idle
  | .compound statements => statementsPaths statements
  | .block _ statements => statementsPaths statements
  | .stringStatement size => proceed (expressionPaths size)
  | .free listExpr => proceed (expressionPaths listExpr)
  | .conditionalBranch _ _ conditionExpr => proceed (expressionPaths conditionExpr)
  | .misplacedExpression expression => proceed (expressionPaths expression)
  | .brk | .labelTarget _ => proceed idle

def statementsPaths : List Statement -> Outcomes
  | [] => proceed idle
  | statement :: rest => andThen (statementPaths statement) (statementsPaths rest)

def casesPaths : List CaseStatement -> Outcomes
  | [] => fun _ => ∅
  | .mk _ _ command :: rest => either (statementPaths command) (casesPaths rest)

end

/-! ## Paths through a graph -/

/-- What a statement of a block does there. -/
def stepPaths : Statement -> Paths String
  | .ifStatement condition _ => expressionPaths condition
  | .forStatement _ uniqueName _ endExpr _ _ =>
      sequence (single (.read uniqueName)) (expressionPaths endExpr)
  | .switchon expression _ _ => expressionPaths expression
  | statement => {events | exists completion, events ∈ statementPaths statement completion}

/-- The ways through the statements of a block. -/
def blockPaths : List Statement -> Paths String
  | [] => idle
  | statement :: rest => sequence (stepPaths statement) (blockPaths rest)

/-- The paths that start at a block of a graph. -/
inductive PathFrom (cfg : Builder) : Nat -> List (Event String) -> Prop where
  | stop {block : Nat} {events : List (Event String)}
      (here : events ∈ blockPaths (cfg.block block).statements) : PathFrom cfg block events
  | follow {block next : Nat} {events later : List (Event String)}
      (here : events ∈ blockPaths (cfg.block block).statements)
      (edge : next ∈ (cfg.block block).successors) (path : PathFrom cfg next later) :
      PathFrom cfg block (events ++ later)

/-- Some path from the block reads the variable before every point where it assigns it. -/
def ReadFromStart (cfg : Builder) (block : Nat) (name : String) : Prop :=
  exists events, PathFrom cfg block events ∧ ReadsFirst name events

/-- Some way through the block itself reads the variable before assigning it. -/
def BlockReads (cfg : Builder) (block : Nat) (name : String) : Prop :=
  exists events, events ∈ blockPaths (cfg.block block).statements ∧ ReadsFirst name events

/-- Some way through the block does not assign the variable. -/
def BlockKeeps (cfg : Builder) (block : Nat) (name : String) : Prop :=
  exists events, events ∈ blockPaths (cfg.block block).statements ∧ Keeps name events

end Liveness
end NewBcpl
