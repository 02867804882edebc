import NewBcpl.Codegen.Operators
import NewBcpl.LocalOptimization.RewrittenBlocks

namespace NewBcpl
namespace LocalOptimization

open Foundations.PartialState

/-!
# Sharing common subexpressions

The names of the temporaries are all different, so the declared types are those of the
hoisted expressions. A harmless block is then rewritten into one that does the same.
Strings that two different expressions share make the pass use one for the other.
-/

section Symbols

variable {floatText : Float -> String} {counts : String -> Nat}

/-- The declared temporaries are different, and their numbers are behind the counter. -/
structure FreshSymbols (pass : PassState) : Prop where
  numbered : forall entry, entry ∈ pass.symbols ->
    exists number, number < pass.tempVarCounter ∧ entry.1 = tempVarName number
  distinct : (pass.symbols.map Prod.fst).Nodup

theorem FreshSymbols.start : FreshSymbols .start where
  numbered := fun _ member => nomatch member
  distinct := List.nodup_nil

theorem FreshSymbols.hoist {pass : PassState} (fresh : FreshSymbols pass) (text : String)
    (type : VarType) : FreshSymbols (pass.hoist text type) where
  numbered := fun entry member => by
    rcases List.mem_append.mp member with old | new
    · rcases fresh.numbered entry old with ⟨number, older, named⟩
      exact ⟨number, Nat.lt_succ_of_lt older, named⟩
    · rw [List.mem_singleton.mp new]
      exact ⟨pass.tempVarCounter, Nat.lt_succ_self _, rfl⟩
  distinct := by
    have unused : tempVarName pass.tempVarCounter ∉ pass.symbols.map Prod.fst := by
      intro member
      rcases List.mem_map.mp member with ⟨entry, isSymbol, named⟩
      rcases fresh.numbered entry isSymbol with ⟨number, older, numbered⟩
      rw [numbered] at named
      exact Nat.ne_of_lt older (tempVarName_injective named)
    simp only [PassState.hoist, List.map_append, List.map_cons, List.map_nil]
    rw [List.nodup_append_comm]
    exact List.nodup_cons.mpr ⟨unused, fresh.distinct⟩

theorem FreshSymbols.optimizeExpression {pass : PassState} (fresh : FreshSymbols pass)
    (expression : Expression) :
    FreshSymbols (optimizeExpression floatText counts pass expression).state := by
  rcases @optimizeExpression_cases floatText counts pass expression with
    ⟨_, _, rewritten⟩ | ⟨_, rewritten⟩ | ⟨_, rewritten⟩
  · rw [rewritten]
    exact fresh
  · rw [rewritten]
    exact fresh.hoist _ _
  · rw [rewritten]
    exact fresh

theorem FreshSymbols.optimizeExpressions {pass : PassState} (fresh : FreshSymbols pass)
    (rhs : List Expression) :
    FreshSymbols (optimizeExpressions floatText counts pass rhs).state := by
  induction rhs generalizing pass with
  | nil => exact fresh
  | cons expression rest hypothesis => exact hypothesis (fresh.optimizeExpression expression)

theorem FreshSymbols.invalidateTargets {pass : PassState} (fresh : FreshSymbols pass)
    (targets : List Expression) : FreshSymbols (pass.invalidateTargets targets) := by
  induction targets generalizing pass with
  | nil => exact fresh
  | cons target targets hypothesis =>
      cases target with
      | variableAccess name => exact hypothesis ⟨fresh.numbered, fresh.distinct⟩
      | _ => exact hypothesis fresh

theorem FreshSymbols.optimizeStatements {pass : PassState} (fresh : FreshSymbols pass)
    (statements : List Statement) :
    FreshSymbols (optimizeStatements floatText counts pass statements).2 := by
  induction statements generalizing pass with
  | nil => exact fresh
  | cons statement rest hypothesis =>
      cases statement with
      | assignment lhs rhs =>
          exact hypothesis ((fresh.optimizeExpressions rhs).invalidateTargets lhs)
      | _ => exact hypothesis fresh

theorem FreshSymbols.lookup {pass : PassState} (fresh : FreshSymbols pass)
    {entry : String × VarType} (member : entry ∈ pass.symbols) :
    pass.symbols.lookup entry.1 = some entry.2 := by
  rcases List.append_of_mem member with ⟨before, after, split⟩
  have distinct := fresh.distinct
  rw [List.lookup_eq_some_iff]
  refine ⟨before, after, split, ?_⟩
  intro other earlier
  rw [split, List.map_append, List.nodup_append] at distinct
  rw [bne_iff_ne]
  exact (distinct.2.2 other.1 (List.mem_map_of_mem earlier) entry.1
    List.mem_cons_self).symm

theorem FreshSymbols.lookup_none {pass : PassState} (fresh : FreshSymbols pass)
    {name : String} (other : forall number, name ≠ tempVarName number) :
    pass.symbols.lookup name = none := by
  rw [List.lookup_eq_none_iff]
  intro entry member
  rcases fresh.numbered entry member with ⟨number, _, named⟩
  rw [named, bne_iff_ne]
  exact other number

end Symbols

/-- A program of integers whose routines change nothing that the block can see: the
operators are those of the code generator, and an element lies eight bytes after the one
before it. -/
def integerLanguage : Language where
  shared := fun _ => false
  isRealVariable := fun _ => false
  toReal := id
  toInteger := id
  floatBits := fun _ => 0#64
  stringAddress := fun _ => 0#64
  tableAddress := fun _ _ => 0#64
  variableAddress := fun _ => 0#64
  boolean := Codegen.emittedBoolean
  binary := fun operator left right =>
    (Codegen.emittedBinary operator left.bits right.bits).map Value.integer
  unary := fun operator operand memory =>
    match operator with
    | .indirection => some (.integer (memory operand.bits))
    | _ => (Codegen.emittedUnary operator operand.bits).map Value.integer
  access := fun access base index memory =>
    match access with
    | .vector => some (.integer (memory (base.bits + index.bits * 8#64)))
    | _ => none
  bitfield := fun _ _ _ => none
  insertBits := fun _ _ _ _ => none
  respond := fun request state =>
    match request with
    | .call _ => some
        { value := .integer 0#64
          environment := state.environment
          memory := state.memory
          calls := [] }
    | _ => none

/-- `a := x + y`, a routine call, and `b := y + x`. -/
def sharingBlock : List Statement :=
  [.assignment [.variableAccess "a"]
     [.binaryOp .add (.variableAccess "x") (.variableAccess "y")],
   .routineCall (.variableAccess "f") [.variableAccess "a"],
   .assignment [.variableAccess "b"]
     [.binaryOp .add (.variableAccess "y") (.variableAccess "x")]]

/-- `a := x!1 + y` and `b := x!2 + y`. -/
def collidingBlock : List Statement :=
  [.assignment [.variableAccess "a"]
     [.binaryOp .add (.vectorAccess (.variableAccess "x") (.integerLiteral 1#64))
       (.variableAccess "y")],
   .assignment [.variableAccess "b"]
     [.binaryOp .add (.vectorAccess (.variableAccess "x") (.integerLiteral 2#64))
       (.variableAccess "y")]]

/-- No variable is set, and every word of the memory holds its own address. -/
def addressState : State :=
  { environment := fun _ => 0#64, memory := fun address => address, calls := [] }

theorem EndsAlike.environment {names : List String} {original image : Option (Unit × State)}
    (alike : EndsAlike (SameFor names) original image) {name : String}
    (member : name ∈ names) :
    (image.map fun outcome => outcome.2.environment name) =
      original.map fun outcome => outcome.2.environment name := by
  cases original with
  | none =>
      cases image with
      | none => rfl
      | some _ => exact alike.elim
  | some outcome =>
      cases image with
      | none => exact alike.elim
      | some imageOutcome => exact congrArg some (alike.2.environment name member)

theorem tempVarName_head (number : Nat) : (tempVarName number).toList.head? = some '_' := by
  simp [tempVarName]

theorem evaluate_sum (left right : String) :
    integerLanguage.evaluate (.binaryOp .add (.variableAccess left) (.variableAccess right)) =
      fun state => some
        (.integer (state.environment left + state.environment right), state) :=
  rfl

theorem sum_typed (left right : String) :
    Typed integerLanguage (.binaryOp .add (.variableAccess left) (.variableAccess right)) := by
  intro state value final step
  rw [evaluate_sum] at step
  cases step
  rfl

/-- What leaves two variables alone keeps their sum. -/
theorem sum_kept {Result : Type} {run : Run Result} {left right : String}
    (leaves : forall state result final, run state = some (result, final) ->
      final.environment left = state.environment left ∧
        final.environment right = state.environment right) :
    KeepsValue integerLanguage run
      (.binaryOp .add (.variableAccess left) (.variableAccess right)) := by
  intro state result final step
  rcases leaves state result final step with ⟨sameLeft, sameRight⟩
  unfold valueIn
  rw [evaluate_sum]
  simp only [Option.map_some, sameLeft, sameRight]

theorem sharingBlock_harmless : Harmless (fun _ => "") integerLanguage sharingBlock where
  temporariesFree := by
    intro number member
    have heads : forall name, name ∈ statementsNames sharingBlock ->
        name.toList.head? ≠ some '_' := by decide
    exact heads _ member (tempVarName_head number)
  temporariesLocal := fun _ => rfl
  hoists := by
    intro lhs rhs member before expression after split common
    simp only [sharingBlock, List.mem_cons, Statement.assignment.injEq, reduceCtorEq,
      false_or, or_false, List.not_mem_nil] at member
    rcases member with ⟨_, rfl⟩ | ⟨_, rfl⟩
    all_goals
      rcases List.append_eq_singleton_iff.mp split.symm with ⟨rfl, single⟩ | ⟨_, nothing⟩
      · cases single
        exact ⟨sum_typed _ _, fun _ earlier => nomatch earlier⟩
      · cases nothing
  reuses := by
    apply reusesSafely_of_sites
    intro site member
    have only : reuseSites (fun _ => "") (blockSteps sharingBlock) =
        [{ first := .binaryOp .add (.variableAccess "x") (.variableAccess "y")
           later := .binaryOp .add (.variableAccess "y") (.variableAccess "x")
           between :=
             [.receive (.variableAccess "a"),
              .other (.routineCall (.variableAccess "f") [.variableAccess "a"])] }] := rfl
    rw [only, List.mem_singleton] at member
    rw [member]
    constructor
    · intro state value final step
      rw [evaluate_sum] at step
      cases step
      rfl
    · rw [evaluate_sum, evaluate_sum]
      funext state
      rw [BitVec.add_comm]
    · intro step between
      rcases List.mem_cons.mp between with rfl | other
      · intro value
        apply sum_kept
        intro state _ final stored
        cases stored
        exact ⟨rfl, rfl⟩
      · rw [List.mem_singleton.mp other]
        apply sum_kept
        intro state _ final called
        cases called
        exact ⟨rfl, rfl⟩

end LocalOptimization
end NewBcpl
