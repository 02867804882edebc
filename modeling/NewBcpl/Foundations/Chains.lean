import Mathlib.Data.List.Basic
import Mathlib.Data.List.Nodup
import Mathlib.Logic.Function.Basic

namespace Foundations
namespace Chains

/-!
# Singly linked records

A chain is the list of the records that a pointer reaches through a link field
before it reaches null. The link is a total map on addresses; a chain only
depends on its values at the records of the chain, it is determined by the map
and the pointer, and no record occurs twice in it.
-/

universe u

variable {Address : Type u}

/-- The records behind a pointer. -/
def Chain (next : Address -> Option Address) : Option Address -> List Address -> Prop
  | pointer, [] => pointer = none
  | pointer, record :: rest => pointer = some record ∧ Chain next (next record) rest

variable {next next' : Address -> Option Address} {pointer : Option Address}
  {records : List Address}

@[simp] theorem chain_nil : Chain next pointer [] <-> pointer = none := Iff.rfl

theorem Chain.pointer_eq (chain : Chain next pointer records) : pointer = records.head? := by
  cases records with
  | nil => exact chain
  | cons record rest => exact chain.1

/-- A chain is determined by its pointer. -/
theorem Chain.unique {others : List Address} (chain : Chain next pointer records)
    (other : Chain next pointer others) : records = others := by
  induction records generalizing pointer others with
  | nil =>
      cases others with
      | nil => rfl
      | cons record rest =>
          have null := other.1
          rw [chain_nil.mp chain] at null
          cases null
  | cons record rest ih =>
      cases others with
      | nil =>
          have null := chain.1
          rw [chain_nil.mp other] at null
          cases null
      | cons otherRecord otherRest =>
          have same := chain.1.symm.trans other.1
          cases same
          rw [ih chain.2 other.2]

/-- A chain only depends on the links of its records. -/
theorem Chain.congr (chain : Chain next pointer records)
    (agree : forall record, record ∈ records -> next' record = next record) :
    Chain next' pointer records := by
  induction records generalizing pointer with
  | nil => exact chain
  | cons record rest ih =>
      refine ⟨chain.1, ?_⟩
      rw [agree record List.mem_cons_self]
      exact ih chain.2 fun other member => agree other (List.mem_cons_of_mem _ member)

/-- The end of a chain is a chain. -/
theorem Chain.suffix {before : List Address} {record : Address} {after : List Address}
    (chain : Chain next pointer (before ++ record :: after)) :
    Chain next (some record) (record :: after) := by
  induction before generalizing pointer with
  | nil => exact ⟨rfl, chain.2⟩
  | cons first rest ih => exact ih chain.2

/-- No record occurs twice in a chain. -/
theorem Chain.nodup (chain : Chain next pointer records) : records.Nodup := by
  induction records generalizing pointer with
  | nil => exact List.nodup_nil
  | cons record rest ih =>
      rw [List.nodup_cons]
      refine ⟨?_, ih chain.2⟩
      intro member
      rcases List.append_of_mem member with ⟨before, after, split⟩
      have whole : Chain next (some record) (record :: rest) := ⟨rfl, chain.2⟩
      have later : Chain next (some record) (record :: after) := by
        apply @Chain.suffix _ next (next record) before record after
        rw [<- split]
        exact chain.2
      have same := whole.unique later
      have lengths := congrArg List.length same
      rw [split] at lengths
      simp only [List.length_cons, List.length_append] at lengths
      omega

/-- A record in front of a chain. -/
theorem Chain.prepend [DecidableEq Address] (chain : Chain next pointer records)
    {record : Address} (new : record ∉ records) :
    Chain (Function.update next record pointer) (some record) (record :: records) := by
  refine ⟨rfl, ?_⟩
  rw [Function.update_self]
  apply chain.congr
  intro other member
  apply Function.update_of_ne
  rintro rfl
  exact new member

/-- A record behind the last one of a chain. -/
theorem Chain.append [DecidableEq Address] {last record : Address}
    (chain : Chain next pointer (records ++ [last])) (new : record ∉ records ++ [last])
    (ends : next record = none) :
    Chain (Function.update next last (some record)) pointer (records ++ [last] ++ [record]) := by
  have nodup := chain.nodup
  induction records generalizing pointer with
  | nil =>
      refine ⟨chain.1, ?_⟩
      rw [Function.update_self]
      refine ⟨rfl, ?_⟩
      have different : record ≠ last := by
        rintro rfl
        exact new List.mem_cons_self
      rw [Function.update_of_ne different]
      exact ends
  | cons first rest ih =>
      have different : first ≠ last := by
        rintro rfl
        rw [List.cons_append, List.nodup_cons] at nodup
        exact nodup.1 (List.mem_append_right _ List.mem_cons_self)
      refine ⟨chain.1, ?_⟩
      rw [Function.update_of_ne different]
      apply ih
      · exact chain.2
      · exact fun member => new (List.mem_cons_of_mem _ member)
      · exact (List.nodup_cons.mp nodup).2

/-- Records in a row, each linked to the one behind it, in front of a chain. -/
theorem chain_consecutive {next : Nat -> Option Nat} {pointer : Option Nat} {rest : List Nat}
    (chain : Chain next pointer rest) (count start : Nat)
    (links : forall record, start <= record -> record < start + count ->
      next record = some (record + 1))
    (last : next (start + count) = pointer) :
    Chain next (some start) (List.range' start (count + 1) ++ rest) := by
  induction count generalizing start with
  | zero =>
      refine ⟨rfl, ?_⟩
      rw [Nat.add_zero] at last
      rw [last]
      exact chain
  | succ count ih =>
      rw [List.range'_succ]
      refine ⟨rfl, ?_⟩
      rw [links start (Nat.le_refl start) (by omega)]
      apply ih (start + 1)
      · intro record above below
        exact links record (by omega) (by omega)
      · rw [<- last]
        congr 1
        omega

section Walks

variable {State : Type u}

/-- A loop along a link field that the body may read and write: the next record is read
behind the body. The fuel counts the records. -/
def walk (next : State -> Address -> Option Address) (body : State -> Address -> Option State) :
    Nat -> State -> Option Address -> Option State
  | _, state, none => some state
  | 0, _, some _ => none
  | fuel + 1, state, some record =>
      match body state record with
      | none => none
      | some after => walk next body fuel after (next after record)

variable {link : State -> Address -> Option Address} {body : State -> Address -> Option State}

/-- More fuel gives the same result, also where the body needs fuel of its own. -/
theorem walk_mono {further : State -> Address -> Option State} {fuel more : Nat}
    (enough : fuel <= more) (agrees : forall state record after,
      body state record = some after -> further state record = some after)
    {state after : State} {pointer : Option Address}
    (walks : walk link body fuel state pointer = some after) :
    walk link further more state pointer = some after := by
  induction fuel generalizing more state pointer with
  | zero =>
      cases pointer with
      | none =>
          cases more <;> exact walks
      | some record => cases walks
  | succ fuel ih =>
      cases more with
      | zero => exact absurd enough (Nat.not_succ_le_zero fuel)
      | succ more =>
          cases pointer with
          | none => exact walks
          | some record =>
              rw [walk] at walks ⊢
              cases performs : body state record with
              | none =>
                  rw [performs] at walks
                  cases walks
              | some middle =>
                  rw [performs] at walks
                  rw [agrees state record middle performs]
                  exact ih (Nat.le_of_succ_le_succ enough) walks

/-- A relation that the body keeps, whatever the link is. -/
theorem walk_keeps {Kept : State -> State -> Prop} (same : forall state, Kept state state)
    (trans : forall first second third, Kept first second -> Kept second third ->
      Kept first third)
    (keeps : forall state record after, body state record = some after -> Kept state after)
    {fuel : Nat} {state after : State} {pointer : Option Address}
    (walks : walk link body fuel state pointer = some after) : Kept state after := by
  induction fuel generalizing state pointer with
  | zero =>
      cases pointer with
      | none =>
          cases walks
          exact same after
      | some record => cases walks
  | succ fuel ih =>
      cases pointer with
      | none =>
          cases walks
          exact same after
      | some record =>
          rw [walk] at walks
          cases performs : body state record with
          | none =>
              rw [performs] at walks
              cases walks
          | some middle =>
              rw [performs] at walks
              exact trans state middle after (keeps state record middle performs) (ih walks)

/-- A body that takes an invariant of the records passed from each record to the next,
and leaves the rest of the chain where it is, takes it through the whole chain. -/
theorem walk_invariant {Invariant : List Address -> State -> Prop} {records : List Address}
    (step : forall passed record rest state, records = passed ++ record :: rest ->
      Invariant passed state -> exists after, body state record = some after ∧
        Invariant (passed ++ [record]) after ∧ link after record = rest.head?)
    {fuel : Nat} (enough : records.length <= fuel) {state : State}
    (starts : Invariant [] state) :
    exists after, walk link body fuel state records.head? = some after ∧
      Invariant records after := by
  have general (rest : List Address) : forall passed state fuel,
      records = passed ++ rest -> Invariant passed state -> rest.length <= fuel ->
      exists after, walk link body fuel state rest.head? = some after ∧
        Invariant records after := by
    induction rest with
    | nil =>
        intro passed state fuel split holds _
        rw [List.append_nil] at split
        refine ⟨state, ?_, split ▸ holds⟩
        cases fuel <;> rfl
    | cons record rest ih =>
        intro passed state fuel split holds enough
        rcases step passed record rest state split holds with
          ⟨middle, performs, middleHolds, follows⟩
        cases fuel with
        | zero => exact absurd enough (Nat.not_succ_le_zero _)
        | succ fuel =>
            rcases ih (passed ++ [record]) middle fuel (by rw [split]; simp) middleHolds
              (Nat.le_of_succ_le_succ enough) with ⟨after, walks, afterHolds⟩
            refine ⟨after, ?_, afterHolds⟩
            rw [List.head?_cons, walk, performs]
            dsimp only
            rw [follows]
            exact walks
  exact general records [] state fuel rfl starts enough

end Walks

end Chains
end Foundations
