import NewBcpl.Foundations.FueledLoop
import NewBcpl.Semantics.Evaluation

namespace NewBcpl
namespace Semantics

open Foundations.PartialState Foundations.FueledLoop

/-!
# The execution of a body

Assignments, conditionals, loops, compound statements and routine calls over
integer variables, in the structured meaning that the source gives them: the
right-hand sides of an assignment are evaluated before any target changes, and a
`FOR` evaluates its bounds once and works on a variable of its own. Other
statements have no meaning here.
-/

/-- The variable names of a list of assignment targets. -/
def targetNames : List Expression -> Option (List String)
  | [] => some []
  | .variableAccess name :: rest => (targetNames rest).map (name :: ·)
  | _ :: _ => none

namespace State

/-- Assigning several variables, from left to right. -/
def assignAll (state : State) (names : List String) (values : List Word) : State :=
  match names, values with
  | name :: names, value :: values => (state.assign name value).assignAll names values
  | _, _ => state

end State

/-- The truth of a condition, or of its negation. -/
def testing (evaluation : Evaluation) (expected : Bool) : Computation State Bool :=
  andThen evaluation fun value => give ((value != 0#64) == expected)

/-- The choice of a branch by a condition. -/
def branch (condition : Evaluation) (whenTrue whenFalse : Command State) :
    Command State :=
  computing condition fun value => if value = 0#64 then whenFalse else whenTrue

/-- The loop variable has not passed the end in the direction of the step. -/
def withinBound (value last step : Word) : Bool :=
  if step.slt 0#64 then last.sle value else value.sle last

/-- The test of a `FOR` before each round. -/
def boundTest (name : String) (last step : Word) : Computation State Bool :=
  fun state => some (withinBound (state.environment name) last step, state)

/-- One round of a `FOR`: the body and the step of the loop variable. -/
def forRound (name : String) (step : Word) (body : Command State) : Command State :=
  sequence body fun state =>
    .finished (state.assign name (state.environment name + step))

/-- The rounds of a `FOR` over a variable of its own, whose value the variable of
the same name outside the loop does not share. -/
def forRounds (fuel : Nat) (name : String) (first last step : Word)
    (body : Command State) : Command State :=
  fun state =>
    sequence (iterate (boundTest name last step) (forRound name step body) fuel)
      (fun final => .finished (final.assign name (state.environment name)))
      (state.assign name first)

mutual

/-- The execution of a statement with the given fuel for each of its loops. -/
def execute (meaning : OperatorMeaning) (callee : Callee) (fuel : Nat) :
    Statement -> State -> Outcome State
  | .assignment lhs rhs, state =>
      match targetNames lhs with
      | none => .stuck
      | some names =>
          computing (evaluateArguments meaning callee rhs)
            (fun values middle => .finished (middle.assignAll names values)) state
  | .routineCall (.variableAccess name) arguments, state =>
      computing (evaluateArguments meaning callee arguments)
        (fun values middle => .finished (callee.call name values middle).2) state
  | .ifStatement condition thenBranch, state =>
      branch (evaluate meaning callee condition)
        (execute meaning callee fuel thenBranch) .finished state
  | .unless condition thenBranch, state =>
      branch (evaluate meaning callee condition) .finished
        (execute meaning callee fuel thenBranch) state
  | .test condition thenBranch elseBranch, state =>
      branch (evaluate meaning callee condition)
        (execute meaning callee fuel thenBranch)
        (execute meaning callee fuel elseBranch) state
  | .whileStatement condition body, state =>
      iterate (testing (evaluate meaning callee condition) true)
        (execute meaning callee fuel body) fuel state
  | .untilStatement condition body, state =>
      iterate (testing (evaluate meaning callee condition) false)
        (execute meaning callee fuel body) fuel state
  | .repeatStatement .repeatForever body _, state =>
      iterate (give true) (execute meaning callee fuel body) fuel state
  | .repeatStatement .repeatWhile body (some condition), state =>
      sequence (execute meaning callee fuel body)
        (iterate (testing (evaluate meaning callee condition) true)
          (execute meaning callee fuel body) fuel) state
  | .repeatStatement .repeatUntil body (some condition), state =>
      sequence (execute meaning callee fuel body)
        (iterate (testing (evaluate meaning callee condition) false)
          (execute meaning callee fuel body) fuel) state
  | .forStatement name _ startExpr endExpr none body, state =>
      computing (evaluate meaning callee startExpr)
        (fun first => computing (evaluate meaning callee endExpr)
          fun last => forRounds fuel name first last 1#64
            (execute meaning callee fuel body)) state
  | .forStatement name _ startExpr endExpr (some stepExpr) body, state =>
      computing (evaluate meaning callee startExpr)
        (fun first => computing (evaluate meaning callee endExpr)
          fun last => computing (evaluate meaning callee stepExpr)
            fun step => forRounds fuel name first last step
              (execute meaning callee fuel body)) state
  | .compound statements, state => executeAll meaning callee fuel statements state
  | _, _ => .stuck

/-- The execution of statements in turn. -/
def executeAll (meaning : OperatorMeaning) (callee : Callee) (fuel : Nat) :
    List Statement -> State -> Outcome State
  | [], state => .finished state
  | first :: rest, state =>
      sequence (execute meaning callee fuel first)
        (executeAll meaning callee fuel rest) state

end

attribute [simp] execute executeAll

end Semantics
end NewBcpl
