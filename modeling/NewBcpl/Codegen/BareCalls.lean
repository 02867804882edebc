import NewBcpl.Codegen.CallShapes

namespace NewBcpl
namespace Codegen

open ManagedRegister
open Foundations.SequentialMoves

/-!
# Calls with bare variables

The smallest arguments are variables that live in registers, as the parameters in X0 to X7 do:
they need no code and their registers are where they live. An argument that lives in the
register of an earlier one is lost.
-/

variable {Rest : Type}

/-- `get_variable_register` for a variable that has a register: there is nothing to emit. -/
def bareVariable (home : Fin 31) : Generated Unit :=
  { code := some, result := .x home }

/-- The visitors of a program whose expressions are variables in registers. The names of
`routines` are those of its own routines. -/
def bareVisitors (homes : String -> Option (Fin 31)) (routines : String -> Bool) :
    Visitors Unit Rest :=
  { generateExpressionCode := fun expression state =>
      match expression with
      | .variableAccess name => (homes name).map fun home => (bareVariable home, state)
      | _ => none
    symbols := fun _ => none
    returnTypes := fun _ => none
    functionMetrics := routines
    inferExpressionType := fun _ => .integer
    runtime := fun _ => none
    currentAddress := fun _ => 0 }

variable {homes : String -> Option (Fin 31)} {routines : String -> Bool}
  {state : GeneratorState Rest}

/-! ## Calls that fail -/

/-- The parameters a and b of a routine live in X0 and X1. -/
def parameterHome : String -> Option (Fin 31)
  | "a" => some 0
  | "b" => some 1
  | _ => none

/-- The state of the generator in a function without acquired registers. -/
def freshState : GeneratorState Unit :=
  { manager := RegisterManager.resetForNewFunction
    pooled := ⟨fun _ member => (nomatch member), fun _ _ isMapped => (nomatch isMapped)⟩
    rest := () }

/-- The parameters a and b hold 1 and 2. -/
def parameterStore : CallMachine Unit :=
  { registers := fun register =>
      match register with
      | x 0 => 1#64
      | x 1 => 2#64
      | _ => 0#64
    memory := fun _ => 0#64
    world := () }

/-- The processor with conversions and addresses that the calls here do not use. -/
def parameterPlatform : Platform :=
  { scvtf := id, fcvtzs := id, labelAddress := fun _ => 0#64, spillOffset := fun _ => 0#64 }

/-- `f(a, b)`, whose arguments are in their registers already. -/
def orderedCall : CallNode :=
  .routineCall (.variableAccess "f") [.variableAccess "a", .variableAccess "b"]

end Codegen
end NewBcpl
