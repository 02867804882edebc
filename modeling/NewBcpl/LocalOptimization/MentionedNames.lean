import NewBcpl.Ast

namespace NewBcpl
namespace LocalOptimization

/-!
# The names in a tree

Every name that an expression or a statement reads, assigns or declares, at any
depth.
-/

mutual

/-- The names in an expression. -/
def expressionNames : Expression -> List String
  | .integerLiteral _ | .floatLiteral _ | .stringLiteral _ | .charLiteral _
  | .booleanLiteral _ => []
  | .variableAccess name => [name]
  | .binaryOp _ left right => expressionNames left ++ expressionNames right
  | .unaryOp _ operand => expressionNames operand
  | .vectorAccess vector index => expressionNames vector ++ expressionNames index
  | .charIndirection string index => expressionNames string ++ expressionNames index
  | .floatVectorIndirection vector index =>
      expressionNames vector ++ expressionNames index
  | .bitfieldAccess base startBit width =>
      expressionNames base ++ expressionNames startBit ++ expressionNames width
  | .functionCall function arguments =>
      expressionNames function ++ expressionsNames arguments
  | .sysCall _ syscallNumber arguments =>
      expressionNames syscallNumber ++ expressionsNames arguments
  | .conditional condition trueExpr falseExpr =>
      expressionNames condition ++ expressionNames trueExpr ++ expressionNames falseExpr
  | .valof body => statementNames body
  | .floatValof body => statementNames body
  | .vecAllocation size => expressionNames size
  | .fvecAllocation size => expressionNames size
  | .stringAllocation size => expressionNames size
  | .table initializers _ => expressionsNames initializers
  | .vecInitializer initializers => expressionsNames initializers
  | .list initializers _ => expressionsNames initializers

/-- The names in a list of expressions. -/
def expressionsNames : List Expression -> List String
  | [] => []
  | first :: rest => expressionNames first ++ expressionsNames rest

/-- The names in an expression that may be missing. -/
def expressionPtrNames : Option Expression -> List String
  | none => []
  | some expression => expressionNames expression

/-- The names in a statement. -/
def statementNames : Statement -> List String
  | .letDeclaration names initializers => names ++ expressionsNames initializers
  | .assignment lhs rhs => expressionsNames lhs ++ expressionsNames rhs
  | .routineCall routine arguments =>
      expressionNames routine ++ expressionsNames arguments
  | .ifStatement condition thenBranch =>
      expressionNames condition ++ statementNames thenBranch
  | .unless condition thenBranch =>
      expressionNames condition ++ statementNames thenBranch
  | .test condition thenBranch elseBranch =>
      expressionNames condition ++ statementNames thenBranch ++ statementNames elseBranch
  | .whileStatement condition body => expressionNames condition ++ statementNames body
  | .untilStatement condition body => expressionNames condition ++ statementNames body
  | .repeatStatement _ body condition =>
      statementNames body ++ expressionPtrNames condition
  | .forStatement loopVariable uniqueLoopVariableName startExpr endExpr stepExpr body =>
      loopVariable :: uniqueLoopVariableName ::
        (expressionNames startExpr ++ expressionNames endExpr ++
          expressionPtrNames stepExpr ++ statementNames body)
  | .forEach loopVariableName typeVariableName collection body _ _ =>
      loopVariableName :: typeVariableName ::
        (expressionNames collection ++ statementNames body)
  | .switchon expression cases defaultCase =>
      expressionNames expression ++ casesNames cases ++ statementPtrNames defaultCase
  | .goto label => expressionNames label
  | .resultis expression => expressionNames expression
  | .compound statements => statementsNames statements
  | .block declarations statements =>
      declarationsNames declarations ++ statementsNames statements
  | .stringStatement size => expressionNames size
  | .free listExpr => expressionNames listExpr
  | .conditionalBranch _ _ conditionExpr => expressionNames conditionExpr
  | .misplacedExpression expression => expressionNames expression
  | .returnStatement | .finish | .breakStatement | .brk | .loop | .endcase
  | .labelTarget _ => []

/-- The names in a list of statements. -/
def statementsNames : List Statement -> List String
  | [] => []
  | first :: rest => statementNames first ++ statementsNames rest

/-- The names in a statement that may be missing. -/
def statementPtrNames : Option Statement -> List String
  | none => []
  | some statement => statementNames statement

/-- The names in the cases of a SWITCHON. -/
def casesNames : List CaseStatement -> List String
  | [] => []
  | .mk constantExpr _ command :: rest =>
      expressionNames constantExpr ++ statementNames command ++ casesNames rest

/-- The names in the declarations of a block. -/
def declarationsNames : List Declaration -> List String
  | [] => []
  | .manifestDeclaration name _ :: rest => name :: declarationsNames rest
  | .staticDeclaration name initializer :: rest =>
      name :: (expressionNames initializer ++ declarationsNames rest)
  | .globalDeclaration globals :: rest => globals.map Prod.fst ++ declarationsNames rest

end

end LocalOptimization
end NewBcpl
