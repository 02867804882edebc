import NewBcpl.Foundations.StateTransport
import NewBcpl.LocalOptimization.LocalOptimizationPass
import NewBcpl.LocalOptimization.MentionedNames

namespace NewBcpl
namespace LocalOptimization

open Foundations.PartialState

/-!
# The execution of a basic block

The meaning of assignments, `LET`s and routine calls over arbitrary expressions. What
the operators compute, how the heap is laid out and what the rest of the program does
when it is asked for something are a parameter, a `Language`. The rest of the program
sees the memory and the variables that it shares with the block, and nothing else.
-/

/-- A value in a register: its bits, and whether they are a double in a D register. -/
structure Value where
  isReal : Bool
  bits : Word
  deriving DecidableEq, Repr

/-- What a call goes to. -/
inductive Target where
  | routine (address : Word)
  | system (functionName : String) (syscallNumber : Word)
  deriving DecidableEq, Repr

/-- A call with its arguments. -/
structure Call where
  target : Target
  arguments : List Value
  deriving DecidableEq, Repr

/-- The expressions that allocate. -/
inductive Allocation where
  | vec | fvec | string | vecInitializer | list
  deriving DecidableEq, Repr

/-- The accesses to an element. -/
inductive Access where
  | vector | char | floatVector
  deriving DecidableEq, Repr

/-- The assignable places outside the variables. -/
inductive Place where
  | indirection
  | element (access : Access)
  deriving DecidableEq, Repr

/-- What a block asks of the rest of the program: a call, room on the heap, the removal
of a list's head, a store through a pointer, and the execution of a statement inside an
expression or of a statement of another kind. -/
inductive Request where
  | call (call : Call)
  | allocate (allocation : Allocation) (operands : List Value)
  | removeHead (list : Value)
  | store (place : Place) (operands : List Value) (value : Value)
  | body (statement : Statement)

namespace Request

/-- The call that a request is. -/
def calls : Request -> List Call
  | call made => [made]
  | _ => []

end Request

/-- The variables, the memory and the calls made so far. -/
structure State where
  environment : String -> Word
  memory : Word -> Word
  calls : List Call

/-- An answer of the rest of the program: a value, new contents of the variables it
sees and of the memory, and the further calls it made. -/
structure Reply where
  value : Value
  environment : String -> Word
  memory : Word -> Word
  calls : List Call

/-- The meaning of the constructs: the variables that other code can see, the variables
held as doubles, the conversions between integers and doubles, the literals and
addresses, the operators, and the rest of the program. Operators without a meaning for
their operands, and code that does not return, have no result. -/
structure Language where
  shared : String -> Bool
  isRealVariable : String -> Bool
  toReal : Word -> Word
  toInteger : Word -> Word
  floatBits : Float -> Word
  stringAddress : String -> Word
  tableAddress : List Expression -> Bool -> Word
  variableAddress : String -> Word
  boolean : Bool -> Word
  binary : BinaryOperator -> Value -> Value -> Option Value
  unary : UnaryOperator -> Value -> (Word -> Word) -> Option Value
  access : Access -> Value -> Value -> (Word -> Word) -> Option Value
  bitfield : Value -> Value -> Value -> Option Value
  insertBits : Value -> Value -> Value -> Value -> Option Value
  respond : Request -> State -> Option Reply

/-- A computation over the state of a running block. -/
abbrev Run (Result : Type) : Type := Computation State Result

namespace State

/-- Assigning a variable. -/
def assign (state : State) (name : String) (bits : Word) : State :=
  { state with
    environment := fun other => if other = name then bits else state.environment other }

/-- What code sees that knows only the visible variables. -/
def restrict (visible : String -> Bool) (state : State) : State :=
  { state with
    environment := fun name => if visible name then state.environment name else 0#64 }

/-- The state after an answer to a request. -/
def after (visible : String -> Bool) (request : Request) (reply : Reply)
    (state : State) : State :=
  { environment := fun name =>
      if visible name then reply.environment name else state.environment name
    memory := reply.memory
    calls := state.calls ++ request.calls ++ reply.calls }

end State

namespace Value

/-- An integer in an X register. -/
def integer (bits : Word) : Value := { isReal := false, bits := bits }

/-- A double in a D register. -/
def real (bits : Word) : Value := { isReal := true, bits := bits }

/-- The truth of a condition. -/
def truth (value : Value) : Bool := value.bits != 0#64

end Value

/-- A value that depends on the memory. -/
def look (read : (Word -> Word) -> Option Value) : Run Value := fun state =>
  (read state.memory).map fun value => (value, state)

namespace Language

variable (language : Language)

/-- The bits that a variable of one kind gets from a value: `handle_variable_assignment`
converts between integers and doubles. -/
def convert (toReal : Bool) (value : Value) : Word :=
  if value.isReal = toReal then value.bits
  else if toReal then language.toReal value.bits
  else language.toInteger value.bits

/-- A request to the code that sees the given variables. -/
def ask (visible : String -> Bool) (request : Request) : Run Value := fun state =>
  (language.respond request (state.restrict visible)).map fun reply =>
    (reply.value, state.after visible request reply)

/-- The variables that a statement inside the block can see. -/
def sees (statement : Statement) (name : String) : Bool :=
  language.shared name || (statementNames statement).contains name

/-- Reading a variable. -/
def load (name : String) : Run Value := fun state =>
  some ({ isReal := language.isRealVariable name, bits := state.environment name }, state)

/-- Assigning a value to a variable. -/
def assign (name : String) (value : Value) : Run Unit := fun state =>
  some ((), state.assign name (language.convert (language.isRealVariable name) value))

/-- A connective: the right operand is evaluated only when the truth of the left one is not
`decisive`. -/
def connect (decisive : Bool) (left right : Run Value) : Run Value :=
  andThen left fun leftValue =>
    if leftValue.truth = decisive then give (Value.integer (language.boolean decisive))
    else andThen right fun rightValue =>
      give (Value.integer (language.boolean rightValue.truth))

/-- An operator whose operands are both evaluated, the right one first. -/
def strict (operator : BinaryOperator) (left right : Run Value) : Run Value :=
  andThen right fun rightValue => andThen left fun leftValue =>
    lift (language.binary operator leftValue rightValue)

/-- A binary operator. -/
def binaryOp (operator : BinaryOperator) (left right : Run Value) : Run Value :=
  match operator with
  | .logicalAnd => language.connect false left right
  | .logicalOr => language.connect true left right
  | _ => language.strict operator left right

/-- The access to an element: the base first. -/
def element (access : Access) (base index : Run Value) : Run Value :=
  andThen base fun baseValue => andThen index fun indexValue =>
    look (language.access access baseValue indexValue)

mutual

/-- The value of an expression. -/
def evaluate : Expression -> Run Value
  | .integerLiteral value => give (.integer value)
  | .floatLiteral value => give (.real (language.floatBits value))
  | .stringLiteral value => give (.integer (language.stringAddress value))
  | .charLiteral value => give (.integer (value.setWidth 64))
  | .booleanLiteral value => give (.integer (language.boolean value))
  | .variableAccess name => language.load name
  | .binaryOp operator left right =>
      language.binaryOp operator (evaluate left) (evaluate right)
  | .unaryOp .addressOf (.variableAccess name) =>
      give (.integer (language.variableAddress name))
  | .unaryOp .addressOf _ => lift none
  | .unaryOp .tailOf operand =>
      andThen (evaluate operand) fun list =>
        language.ask language.shared (.removeHead list)
  | .unaryOp operator operand =>
      andThen (evaluate operand) fun value => look (language.unary operator value)
  | .vectorAccess vector index =>
      language.element .vector (evaluate vector) (evaluate index)
  | .charIndirection string index =>
      language.element .char (evaluate string) (evaluate index)
  | .floatVectorIndirection vector index =>
      language.element .floatVector (evaluate vector) (evaluate index)
  | .bitfieldAccess base startBit width =>
      andThen (evaluate base) fun baseValue =>
        andThen (evaluate startBit) fun startValue =>
          andThen (evaluate width) fun widthValue =>
            lift (language.bitfield baseValue startValue widthValue)
  | .functionCall function arguments =>
      andThen (evaluateAll arguments) fun values =>
        andThen (evaluate function) fun address =>
          language.ask language.shared (.call ⟨.routine address.bits, values⟩)
  | .sysCall functionName syscallNumber arguments =>
      andThen (evaluateAll arguments) fun values =>
        andThen (evaluate syscallNumber) fun number =>
          language.ask language.shared (.call ⟨.system functionName number.bits, values⟩)
  | .conditional condition trueExpr falseExpr =>
      andThen (evaluate condition) fun value =>
        if value.truth then evaluate trueExpr else evaluate falseExpr
  | .valof body => language.ask (language.sees body) (.body body)
  | .floatValof body => language.ask (language.sees body) (.body body)
  | .vecAllocation size =>
      andThen (evaluate size) fun value =>
        language.ask language.shared (.allocate .vec [value])
  | .fvecAllocation size =>
      andThen (evaluate size) fun value =>
        language.ask language.shared (.allocate .fvec [value])
  | .stringAllocation size =>
      andThen (evaluate size) fun value =>
        language.ask language.shared (.allocate .string [value])
  | .table initializers isFloatTable =>
      give (.integer (language.tableAddress initializers isFloatTable))
  | .vecInitializer initializers =>
      andThen (evaluateAll initializers) fun values =>
        language.ask language.shared (.allocate .vecInitializer values)
  | .list initializers _ =>
      andThen (evaluateAll initializers) fun values =>
        language.ask language.shared (.allocate .list values)

/-- The values of expressions from left to right. -/
def evaluateAll : List Expression -> Run (List Value)
  | [] => give []
  | first :: rest =>
      andThen (evaluate first) fun value =>
        andThen (evaluateAll rest) fun values => give (value :: values)

end

/-- A store through an address that two operands give. -/
def storeElement (access : Access) (base index : Expression) (value : Value) : Run Unit :=
  andThen (language.evaluate base) fun baseValue =>
    andThen (language.evaluate index) fun indexValue =>
      andThen (language.ask language.shared
        (.store (.element access) [baseValue, indexValue] value)) fun _ => give ()

/-- One target of an assignment receives its value. The base of a bitfield has to be a
variable. -/
def store : Expression -> Value -> Run Unit
  | .variableAccess name, value => language.assign name value
  | .bitfieldAccess (.variableAccess name) startBit width, value =>
      andThen (language.load name) fun word =>
        andThen (language.evaluate startBit) fun startValue =>
          andThen (language.evaluate width) fun widthValue =>
            andThen (lift (language.insertBits word startValue widthValue value)) fun result =>
              language.assign name result
  | .vectorAccess vector index, value => language.storeElement .vector vector index value
  | .charIndirection string index, value => language.storeElement .char string index value
  | .floatVectorIndirection vector index, value =>
      language.storeElement .floatVector vector index value
  | .unaryOp .indirection operand, value =>
      andThen (language.evaluate operand) fun address =>
        andThen (language.ask language.shared (.store .indirection [address] value))
          fun _ => give ()
  | _, _ => lift none

/-- The targets of an assignment receive their values from left to right. There has to
be a value for every target. -/
def storeAll : List Expression -> List Value -> Run Unit
  | [], [] => give ()
  | target :: targets, value :: values =>
      andThen (language.store target value) fun _ => storeAll targets values
  | _, _ => lift none

/-- The execution of a statement of a block. A `LET` is the assignment to its names;
statements of other kinds are left to the rest of the program. -/
def execute : Statement -> Run Unit
  | .letDeclaration names initializers =>
      andThen (language.evaluateAll initializers) fun values =>
        language.storeAll (names.map .variableAccess) values
  | .assignment lhs rhs =>
      andThen (language.evaluateAll rhs) fun values => language.storeAll lhs values
  | .routineCall routine arguments =>
      andThen (language.evaluateAll arguments) fun values =>
        andThen (language.evaluate routine) fun address =>
          andThen (language.ask language.shared (.call ⟨.routine address.bits, values⟩))
            fun _ => give ()
  | statement =>
      andThen (language.ask (language.sees statement) (.body statement)) fun _ => give ()

/-- The execution of a block. -/
def executeAll : List Statement -> Run Unit
  | [] => give ()
  | first :: rest => andThen (language.execute first) fun _ => executeAll rest

/-- The language once the temporaries of a block are declared with their types. -/
def declare (symbols : List (String × VarType)) : Language :=
  { language with
    isRealVariable := fun name =>
      match symbols.lookup name with
      | some type => decide (type = .float)
      | none => language.isRealVariable name }

end Language

/-- Two states with the same values of the given variables, the same memory and the same
calls. -/
structure SameFor (names : List String) (original optimized : State) : Prop where
  environment : forall name, name ∈ names ->
    optimized.environment name = original.environment name
  memory : optimized.memory = original.memory
  calls : optimized.calls = original.calls

/-- From every state, the rewritten block does what the original does to the variables
of the original, to the memory and in its calls. -/
def Preserves (floatText : Float -> String) (language : Language)
    (statements : List Statement) : Prop :=
  let optimized := optimizeBasicBlock floatText statements
  forall state,
    EndsAlike (SameFor (statementsNames statements)) (language.executeAll statements state)
      ((language.declare optimized.2.symbols).executeAll optimized.1 state)

end LocalOptimization
end NewBcpl
