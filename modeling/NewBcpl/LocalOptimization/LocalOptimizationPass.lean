import Mathlib.Data.List.Infix
import NewBcpl.Ast

namespace NewBcpl
namespace LocalOptimization

/-!
# The local optimization pass

`LocalOptimizationPass` on the statements of one basic block: the occurrences of
binary operators are counted by their strings, an assigned expression whose string
occurs again is computed into a temporary in front of its assignment, and later
assigned expressions with the same string are replaced by that temporary until a
variable of the string is assigned. The counts, the available expressions and the
counter of the temporaries start afresh in every block.
-/

/-- The operators whose operand strings are put in order. -/
def isCommutative : BinaryOperator -> Bool
  | .add | .multiply | .logicalAnd | .logicalOr | .equal | .notEqual => true
  | _ => false

/-- The operators on doubles. -/
def isFloatOperator : BinaryOperator -> Bool
  | .floatAdd | .floatSubtract | .floatMultiply | .floatDivide
  | .floatEqual | .floatNotEqual | .floatLess | .floatLessEqual | .floatGreater
  | .floatGreaterEqual => true
  | _ => false

/-- Whether an expression is a binary operator node. -/
def isBinaryOp : Expression -> Bool
  | .binaryOp _ _ _ => true
  | _ => false

/-- `infer_expression_type` of the pass: a variable or a call counts as an integer. -/
def inferExpressionType : Expression -> VarType
  | .binaryOp operator left right =>
      if isFloatOperator operator then .float
      else if inferExpressionType left = .float ∨ inferExpressionType right = .float then .float
      else .integer
  | .unaryOp .floatConvert _ => .float
  | .floatLiteral _ => .float
  | _ => .integer

section Strings

-- The parameter is `std::to_string` on doubles.
variable (floatText : Float -> String)

/-- `expression_to_string`: the string under which an expression is counted and found
again. Every node without a case of its own gives the same string. -/
def expressionToString : Expression -> String
  | .binaryOp operator left right =>
      let leftText := expressionToString left
      let rightText := expressionToString right
      let operands :=
        if isCommutative operator = true ∧ rightText < leftText then
          rightText ++ " " ++ leftText
        else leftText ++ " " ++ rightText
      "(BIN_OP " ++ toString operator.ctorIdx ++ " " ++ operands ++ ")"
  | .variableAccess name => "(VAR " ++ name ++ ")"
  | .integerLiteral value => "(INT " ++ toString value.toInt ++ ")"
  | .floatLiteral value => "(FLOAT " ++ floatText value ++ ")"
  | .stringLiteral value => "(STR \"" ++ value ++ "\")"
  | .charLiteral value => "(CHAR " ++ toString value.toInt ++ ")"
  | .booleanLiteral value => if value then "(BOOL 1)" else "(BOOL 0)"
  | _ => "(EXPR)"

mutual

/-- The strings that `count_subexpressions` counts in an expression. -/
def countedInExpression : Expression -> List String
  | .binaryOp operator left right =>
      expressionToString floatText (.binaryOp operator left right) ::
        (countedInExpression left ++ countedInExpression right)
  | .unaryOp _ operand => countedInExpression operand
  | .functionCall function arguments =>
      countedInExpression function ++ countedInExpressions arguments
  | _ => []

/-- The strings counted in a list of expressions. -/
def countedInExpressions : List Expression -> List String
  | [] => []
  | first :: rest => countedInExpression first ++ countedInExpressions rest

end

mutual

/-- The strings that `count_subexpressions` counts in a statement. -/
def countedInStatement : Statement -> List String
  | .letDeclaration _ initializers => countedInExpressions floatText initializers
  | .assignment _ rhs => countedInExpressions floatText rhs
  | .block _ statements => countedInStatements statements
  | .compound statements => countedInStatements statements
  | .ifStatement condition thenBranch =>
      countedInExpression floatText condition ++ countedInStatement thenBranch
  | _ => []

/-- The strings counted in a list of statements. -/
def countedInStatements : List Statement -> List String
  | [] => []
  | first :: rest => countedInStatement first ++ countedInStatements rest

end

/-- `expr_counts_` after the analysis of a block. -/
def exprCounts (statements : List Statement) (text : String) : Nat :=
  (countedInStatements floatText statements).count text

end Strings

/-- The name `generate_temp_var_name` makes from the counter. -/
def tempVarName (counter : Nat) : String := "_cse_temp_" ++ toString counter

/-- The text of `invalidate_expressions_with_var` occurs in a string. -/
def mentionsVariable (text name : String) : Bool :=
  decide (("(VAR " ++ name ++ ")").toList <:+: text.toList)

/-- What the pass keeps while it rewrites a block: the available expressions with
their temporaries, the counter, and the temporaries it has declared with their types
in the symbol table and in the metrics of the function. -/
structure PassState where
  availableExpressions : List (String × String)
  tempVarCounter : Nat
  symbols : List (String × VarType)

namespace PassState

/-- The state in which a block begins. -/
def start : PassState :=
  { availableExpressions := [], tempVarCounter := 0, symbols := [] }

/-- `invalidate_expressions_with_var`. -/
def invalidate (state : PassState) (name : String) : PassState :=
  { state with
    availableExpressions :=
      state.availableExpressions.filter fun entry => !mentionsVariable entry.1 name }

/-- The invalidation after an assignment: only the targets that are variables count. -/
def invalidateTargets (state : PassState) : List Expression -> PassState
  | [] => state
  | .variableAccess name :: rest => (state.invalidate name).invalidateTargets rest
  | _ :: rest => state.invalidateTargets rest

/-- The state after an expression was hoisted under a string. -/
def hoist (state : PassState) (text : String) (type : VarType) : PassState :=
  { availableExpressions :=
      (text, tempVarName state.tempVarCounter) :: state.availableExpressions
    tempVarCounter := state.tempVarCounter + 1
    symbols := state.symbols ++ [(tempVarName state.tempVarCounter, type)] }

end PassState

/-- The outcome of the rewriting of an item: the declarations to insert in front, the
item in its place, and the state of the pass. -/
structure Rewritten (Item : Type) where
  inserted : List Statement
  item : Item
  state : PassState

section Rewriting

-- The parameters are `std::to_string` on doubles and the counts of the block.
variable (floatText : Float -> String) (counts : String -> Nat)

/-- The pass hoists the expression when it is not available. -/
def isCommon (expression : Expression) : Bool :=
  isBinaryOp expression && decide (1 < counts (expressionToString floatText expression))

/-- One right-hand side in `optimize_assignment`. -/
def optimizeExpression (state : PassState) (expression : Expression) :
    Rewritten Expression :=
  let text := expressionToString floatText expression
  match state.availableExpressions.lookup text with
  | some temporary =>
      { inserted := [], item := .variableAccess temporary, state := state }
  | none =>
      if isCommon floatText counts expression then
        let temporary := tempVarName state.tempVarCounter
        { inserted := [.letDeclaration [temporary] [expression]]
          item := .variableAccess temporary
          state := state.hoist text (inferExpressionType expression) }
      else { inserted := [], item := expression, state := state }

/-- The right-hand sides of an assignment in turn. -/
def optimizeExpressions (state : PassState) : List Expression -> Rewritten (List Expression)
  | [] => { inserted := [], item := [], state := state }
  | first :: rest =>
      let one := optimizeExpression floatText counts state first
      let others := optimizeExpressions one.state rest
      { inserted := one.inserted ++ others.inserted
        item := one.item :: others.item
        state := others.state }

/-- `optimize_assignment`, which leaves every other statement alone. -/
def optimizeStatement (state : PassState) : Statement -> Rewritten Statement
  | .assignment lhs rhs =>
      let rewritten := optimizeExpressions floatText counts state rhs
      { inserted := rewritten.inserted
        item := .assignment lhs rewritten.item
        state := rewritten.state.invalidateTargets lhs }
  | statement => { inserted := [], item := statement, state := state }

/-- `optimize_basic_block`. -/
def optimizeStatements (state : PassState) : List Statement -> List Statement × PassState
  | [] => ([], state)
  | first :: rest =>
      let one := optimizeStatement floatText counts state first
      let others := optimizeStatements one.state rest
      (one.inserted ++ one.item :: others.1, others.2)

end Rewriting

/-- The two passes of `run` over one block: its new statements and the state of the
pass after them. -/
def optimizeBasicBlock (floatText : Float -> String) (statements : List Statement) :
    List Statement × PassState :=
  optimizeStatements floatText (exprCounts floatText statements) .start statements

end LocalOptimization
end NewBcpl
