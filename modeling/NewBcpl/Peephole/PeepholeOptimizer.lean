import NewBcpl.Foundations.FueledLoop
import NewBcpl.Peephole.PeepholePatterns

namespace NewBcpl
namespace Peephole

open Foundations

/-!
# One pass of the optimizer

The pass keeps a position in the list of instructions. At each position it
tries the registered patterns in order; the first one that matches, and whose
window carries no label reference, replaces its window, and the position stays
where it is. Otherwise the position moves on.
-/

/-- What a pass reads and writes. -/
structure PassState where
  instructions : List Instruction
  pos : Nat
  anyChanges : Bool
  optimizationsApplied : Nat
  patternMatches : String -> Nat

namespace PassState

/-- The state at the beginning of a pass. -/
def start (instructions : List Instruction) (optimizationsApplied : Nat)
    (patternMatches : String -> Nat) : PassState :=
  { instructions := instructions, pos := 0, anyChanges := false,
    optimizationsApplied := optimizationsApplied, patternMatches := patternMatches }

/-- Moving on to the next instruction. -/
def advance (state : PassState) : PassState :=
  { state with pos := state.pos + 1 }

end PassState

/-- Whether an instruction of a window refers to a label. -/
def wouldBreakLabelReferences (instructions : List Instruction) (startPos count : Nat)
    (_replacements : List Instruction) : Bool :=
  ((instructions.drop startPos).take count).any fun instr => !(instr.targetLabel == "")

/-- The window that a pattern replaces. -/
structure Rewrite where
  description : String
  length : Nat
  replacements : List Instruction
  deriving DecidableEq, Repr

/-- The first pattern that may be applied at a position; nothing is computed if
the transformation of a matching pattern throws. -/
def firstRewrite (instructions : List Instruction) (pos : Nat) :
    List InstructionPattern -> Option (Option Rewrite)
  | [] => some none
  | pattern :: patterns =>
      let result := pattern.matcher instructions pos
      if result.matched then
        match pattern.transformer instructions pos with
        | none => none
        | some replacements =>
            if wouldBreakLabelReferences instructions pos result.length replacements then
              firstRewrite instructions pos patterns
            else
              some (some
                { description := pattern.description
                  length := result.length
                  replacements := replacements })
      else firstRewrite instructions pos patterns

/-- Erasing a window and inserting its replacements. -/
def PassState.replace (state : PassState) (rewrite : Rewrite) : PassState :=
  { instructions := state.instructions.take state.pos ++
      (rewrite.replacements ++ state.instructions.drop (state.pos + rewrite.length))
    pos := state.pos
    anyChanges := true
    optimizationsApplied := state.optimizationsApplied + 1
    patternMatches := fun description =>
      if description = rewrite.description then state.patternMatches description + 1
      else state.patternMatches description }

/-- What the pass does at a position that holds an instruction. -/
def rewriteAt (state : PassState) (instr : Instruction) : Option (Option Rewrite) :=
  if instr.segment ≠ .code then some none
  else if isSpecialInstruction instr then some none
  else firstRewrite state.instructions state.pos registeredPatterns

/-- One round of the loop. -/
def round : FueledLoop.Command PassState := fun state =>
  match state.instructions[state.pos]? with
  | none => .stuck
  | some instr =>
      match rewriteAt state instr with
      | none => .stuck
      | some none => .finished state.advance
      | some (some rewrite) => .finished (state.replace rewrite)

/-- The test of the loop. -/
def inside : PartialState.Computation PassState Bool := fun state =>
  some (decide (state.pos < state.instructions.length), state)

/-- A pass; the fuel bounds the rounds, and a pass that throws is stuck. -/
def applyOptimizationPass (fuel : Nat) : FueledLoop.Command PassState :=
  FueledLoop.iterate inside round fuel

end Peephole
end NewBcpl
