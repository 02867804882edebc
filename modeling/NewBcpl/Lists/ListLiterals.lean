import Mathlib.Logic.Function.Basic
import NewBcpl.Lists.LiteralKeys

namespace NewBcpl
namespace Lists

open Foundations

/-!
# List literals in the data generator

The collect phase of a list literal: a literal whose key is known gets the label of the
known one, and any other gets a new label after its strings and inner lists have been
added. A call that throws keeps what it has added so far.
-/

/-- `StringLiteralInfo`. -/
structure StringLiteralInfo where
  label : String
  value : List (BitVec 32)

/-- `ListLiteralNode`. -/
structure ListLiteralNode where
  nodeLabel : String
  typeTag : Nat
  valueBits : Word
  valuePtrLabel : String
  valueIsPtr : Bool
  nextNodeLabel : String

/-- `ListLiteralInfo`. -/
structure ListLiteralInfo where
  headerLabel : String
  nodes : List ListLiteralNode
  length : Nat

/-- The fields of `DataGenerator` that strings and lists read and change. -/
structure DataGenerator where
  nextStringId : Nat := 0
  stringLiteralMap : List Char -> Option String := fun _ => none
  stringLiterals : List StringLiteralInfo := []
  nextListId : Nat := 0
  listLiteralLabelMap : List Char -> Option String := fun _ => none
  listLiterals : List ListLiteralInfo := []

section Strings

/-! ## Strings -/

/-- The byte that a character of a C++ string is. -/
def byteOf (char : Char) : BitVec 32 := BitVec.ofNat 32 (char.toNat % 256)

/-- A byte behind the current one; the one at the end of a string is zero, and there are
none behind it. -/
def byteAt (rest : List Char) (place : Nat) : Option (BitVec 32) :=
  match rest[place]? with
  | some char => some (byteOf char)
  | none => if place = rest.length then some 0#32 else none

/-- A continuation byte at its place in a code point. -/
def continued (byte : BitVec 32) (place : Nat) : BitVec 32 := (byte &&& 0x3F#32) <<< (6 * place)

/-- `utf8_to_utf32`, from a position on, with the number of bytes that are skipped; nothing
where it throws or reads behind the end of the string. -/
def utf8ToUtf32 : Nat -> List Char -> Option (List (BitVec 32))
  | _, [] => some []
  | skip + 1, _ :: rest => utf8ToUtf32 skip rest
  | 0, char :: rest =>
      let byte := byteOf char
      if byte ≤ 0x7F#32 then do
        let others <- utf8ToUtf32 0 rest
        some (byte :: others)
      else if byte &&& 0xE0#32 = 0xC0#32 then do
        let second <- byteAt rest 0
        let others <- utf8ToUtf32 1 rest
        some (((byte &&& 0x1F#32) <<< 6 ||| continued second 0) :: others)
      else if byte &&& 0xF0#32 = 0xE0#32 then do
        let second <- byteAt rest 0
        let third <- byteAt rest 1
        let others <- utf8ToUtf32 2 rest
        some (((byte &&& 0x0F#32) <<< 12 ||| continued second 1 ||| continued third 0) :: others)
      else if byte &&& 0xF8#32 = 0xF0#32 then do
        let second <- byteAt rest 0
        let third <- byteAt rest 1
        let fourth <- byteAt rest 2
        let others <- utf8ToUtf32 3 rest
        some (((byte &&& 0x07#32) <<< 18 ||| continued second 2 ||| continued third 1 |||
          continued fourth 0) :: others)
      else none

/-- `add_string_literal`; the label is in the map before the conversion can throw. -/
def addStringLiteral (generator : DataGenerator) (value : List Char) :
    DataGenerator × Option String :=
  match generator.stringLiteralMap value with
  | some label => (generator, some label)
  | none =>
      let label := "L_str" ++ toString generator.nextStringId
      let known :=
        { generator with
          nextStringId := generator.nextStringId + 1
          stringLiteralMap := Function.update generator.stringLiteralMap value (some label) }
      match utf8ToUtf32 0 value with
      | none => (known, none)
      | some characters =>
          ({ known with
             stringLiterals := known.stringLiterals ++
               [{ label := label, value := characters ++ [0#32, 0#32] }] }, some label)

end Strings

section Lists

/-! ## Lists -/

/-- The label of a header. -/
def headerLabel (number : Nat) : String := "L_list" ++ toString number ++ "_header"

/-- The label of a node. -/
def nodeLabel (number index : Nat) : String :=
  "L_list" ++ toString number ++ "_node_" ++ toString index

/-- The fields of a node that depend on its initializer. -/
structure NodeValue where
  typeTag : Nat
  valueBits : Word
  valuePtrLabel : String
  valueIsPtr : Bool

/-- A list literal, with how its nodes are collected under a new number. -/
def shareList (generator : DataGenerator) (initializers : List Initializer)
    (collect : Nat -> DataGenerator -> DataGenerator × Option (List ListLiteralNode)) :
    DataGenerator × Option String :=
  match generator.listLiteralLabelMap (generateListKey initializers) with
  | some label => (generator, some label)
  | none =>
      match collect generator.nextListId
          { generator with nextListId := generator.nextListId + 1 } with
      | (after, none) => (after, none)
      | (after, some nodes) =>
          let label := headerLabel generator.nextListId
          ({ after with
             listLiteralLabelMap := Function.update after.listLiteralLabelMap
               (generateListKey initializers) (some label)
             listLiterals := after.listLiterals ++
               [{ headerLabel := label, nodes := nodes, length := initializers.length }] },
            some label)

mutual

/-- The value of a node: a tag with bits, or with the label of a string or a list. -/
def addInitializer (generator : DataGenerator) :
    Initializer -> DataGenerator × Option NodeValue
  | .int value => (generator, some ⟨1, value, "", false⟩)
  | .float bits => (generator, some ⟨2, bits, "", false⟩)
  | .string value =>
      match addStringLiteral generator value with
      | (after, none) => (after, none)
      | (after, some label) => (after, some ⟨3, 0#64, label, true⟩)
  | .list initializers =>
      match shareList generator initializers fun number begun =>
          addNodes number initializers.length begun 0 initializers with
      | (after, none) => (after, none)
      | (after, some label) => (after, some ⟨4, 0#64, label, true⟩)
  | .unknown => (generator, none)

/-- The nodes of a list, from an index on. -/
def addNodes (number count : Nat) (generator : DataGenerator) (index : Nat) :
    List Initializer -> DataGenerator × Option (List ListLiteralNode)
  | [] => (generator, some [])
  | initializer :: rest =>
      match addInitializer generator initializer with
      | (after, none) => (after, none)
      | (after, some value) =>
          match addNodes number count after (index + 1) rest with
          | (final, none) => (final, none)
          | (final, some nodes) =>
              (final, some
                ({ nodeLabel := nodeLabel number index
                   typeTag := value.typeTag
                   valueBits := value.valueBits
                   valuePtrLabel := value.valuePtrLabel
                   valueIsPtr := value.valueIsPtr
                   nextNodeLabel :=
                     if index + 1 < count then nodeLabel number (index + 1) else "" } :: nodes))

end

/-- `add_list_literal`: a label, or nothing where it throws. -/
def addListLiteral (generator : DataGenerator) (initializers : List Initializer) :
    DataGenerator × Option String :=
  shareList generator initializers fun number begun =>
    addNodes number initializers.length begun 0 initializers

/-- The states of a generator, after calls for strings and lists that return or throw. -/
inductive Reached (initial : DataGenerator) : DataGenerator -> Prop
  | start : Reached initial initial
  | string {generator : DataGenerator} (value : List Char) (before : Reached initial generator) :
      Reached initial (addStringLiteral generator value).1
  | list {generator : DataGenerator} (initializers : List Initializer)
      (before : Reached initial generator) :
      Reached initial (addListLiteral generator initializers).1

end Lists

section Sharing

/-! ## The labels of known keys -/

theorem headerLabel_injective {first second : Nat}
    (same : headerLabel first = headerLabel second) : first = second := by
  have texts := congrArg String.toList same
  simp only [headerLabel, String.toList_append, List.append_assoc] at texts
  exact Digits.digits_injective
    (List.append_cancel_right (List.append_cancel_left texts))

/-- Every known key has a label of its own, with a number below the counter. -/
structure Sharing (generator : DataGenerator) : Prop where
  numbered : forall key label, generator.listLiteralLabelMap key = some label ->
    exists number, number < generator.nextListId ∧ label = headerLabel number
  distinct : forall key other label, generator.listLiteralLabelMap key = some label ->
    generator.listLiteralLabelMap other = some label -> key = other

/-- Known keys stay known, and labels that come have numbers from the counter on. -/
structure Grows (before after : DataGenerator) : Prop where
  counts : before.nextListId ≤ after.nextListId
  keeps : forall key label, before.listLiteralLabelMap key = some label ->
    after.listLiteralLabelMap key = some label
  comes : forall key label, after.listLiteralLabelMap key = some label ->
    before.listLiteralLabelMap key = some label ∨
      exists number, before.nextListId ≤ number ∧ number < after.nextListId ∧
        label = headerLabel number

theorem Grows.refl (generator : DataGenerator) : Grows generator generator :=
  ⟨Nat.le_refl _, fun _ _ known => known, fun _ _ known => Or.inl known⟩

theorem Grows.trans {first second third : DataGenerator} (grows : Grows first second)
    (next : Grows second third) : Grows first third := by
  refine ⟨Nat.le_trans grows.counts next.counts, ?_, ?_⟩
  · intro key label known
    exact next.keeps key label (grows.keeps key label known)
  · intro key label known
    rcases next.comes key label known with known | ⟨number, above, below, isLabel⟩
    · rcases grows.comes key label known with known | ⟨number, above, below, isLabel⟩
      · exact Or.inl known
      · exact Or.inr ⟨number, above, Nat.lt_of_lt_of_le below next.counts, isLabel⟩
    · exact Or.inr ⟨number, Nat.le_trans grows.counts above, below, isLabel⟩

/-- What a call keeps and adds. -/
structure Extends (before after : DataGenerator) : Prop where
  sharing : Sharing after
  grows : Grows before after

theorem Extends.refl {generator : DataGenerator} (sharing : Sharing generator) :
    Extends generator generator :=
  ⟨sharing, .refl generator⟩

theorem Extends.trans {first second third : DataGenerator} (before : Extends first second)
    (after : Extends second third) : Extends first third :=
  ⟨after.sharing, before.grows.trans after.grows⟩

/-- Strings leave the lists alone. -/
theorem addStringLiteral_extends {generator : DataGenerator} (sharing : Sharing generator)
    (value : List Char) : Extends generator (addStringLiteral generator value).1 := by
  have same : (addStringLiteral generator value).1.listLiteralLabelMap =
        generator.listLiteralLabelMap ∧
      (addStringLiteral generator value).1.nextListId = generator.nextListId := by
    unfold addStringLiteral
    cases generator.stringLiteralMap value with
    | some label => exact ⟨rfl, rfl⟩
    | none =>
        cases utf8ToUtf32 0 value with
        | none => exact ⟨rfl, rfl⟩
        | some characters => exact ⟨rfl, rfl⟩
  rcases same with ⟨sameMap, sameCount⟩
  constructor
  · constructor
    · rw [sameMap, sameCount]
      exact sharing.numbered
    · rw [sameMap]
      exact sharing.distinct
  · refine ⟨Nat.le_of_eq sameCount.symm, ?_, ?_⟩
    · rw [sameMap]
      exact fun _ _ known => known
    · rw [sameMap]
      exact fun _ _ known => Or.inl known

/-- A key becomes known under a label that is not in use. -/
theorem Sharing.memoize {generator : DataGenerator} (sharing : Sharing generator)
    (key : List Char) {number : Nat} (below : number < generator.nextListId)
    (unused : forall other, generator.listLiteralLabelMap other ≠ some (headerLabel number))
    (literals : List ListLiteralInfo) :
    Sharing
      { generator with
        listLiteralLabelMap := Function.update generator.listLiteralLabelMap key
          (some (headerLabel number))
        listLiterals := literals } := by
  constructor
  · intro other label found
    dsimp only at found
    by_cases isKey : other = key
    · rw [isKey, Function.update_self, Option.some.injEq] at found
      exact ⟨number, below, found.symm⟩
    · rw [Function.update_of_ne isKey] at found
      exact sharing.numbered other label found
  · intro first second label found foundOther
    dsimp only at found foundOther
    by_cases isKey : first = key
    · by_cases isOther : second = key
      · exact isKey.trans isOther.symm
      · rw [isKey, Function.update_self, Option.some.injEq] at found
        rw [Function.update_of_ne isOther, <- found] at foundOther
        exact absurd foundOther (unused second)
    · rw [Function.update_of_ne isKey] at found
      by_cases isOther : second = key
      · rw [isOther, Function.update_self, Option.some.injEq] at foundOther
        rw [<- foundOther] at found
        exact absurd found (unused first)
      · rw [Function.update_of_ne isOther] at foundOther
        exact sharing.distinct first second label found foundOther

/-- A key that was not known at the start becomes known. -/
theorem Grows.memoize {before after : DataGenerator} (grows : Grows before after)
    {key : List Char} (unknown : before.listLiteralLabelMap key = none)
    (below : before.nextListId < after.nextListId) (literals : List ListLiteralInfo) :
    Grows before
      { after with
        listLiteralLabelMap := Function.update after.listLiteralLabelMap key
          (some (headerLabel before.nextListId))
        listLiterals := literals } := by
  refine ⟨grows.counts, ?_, ?_⟩
  · intro other label found
    have notKey : other ≠ key := by
      rintro rfl
      rw [unknown] at found
      cases found
    dsimp only
    rw [Function.update_of_ne notKey]
    exact grows.keeps other label found
  · intro other label found
    dsimp only at found
    by_cases isKey : other = key
    · rw [isKey, Function.update_self, Option.some.injEq] at found
      exact Or.inr ⟨before.nextListId, Nat.le_refl _, below, found.symm⟩
    · rw [Function.update_of_ne isKey] at found
      exact grows.comes other label found

/-- A shared list ends with its key known under the label that is returned, if its nodes
are collected without harm to other keys. -/
theorem shareList_extends {generator : DataGenerator} (sharing : Sharing generator)
    (initializers : List Initializer)
    {collect : Nat -> DataGenerator -> DataGenerator × Option (List ListLiteralNode)}
    (collects : forall number begun, Sharing begun -> Extends begun (collect number begun).1) :
    Extends generator (shareList generator initializers collect).1 ∧
      forall label, (shareList generator initializers collect).2 = some label ->
        (shareList generator initializers collect).1.listLiteralLabelMap
          (generateListKey initializers) = some label := by
  unfold shareList
  cases known : generator.listLiteralLabelMap (generateListKey initializers) with
  | some label =>
      refine ⟨.refl sharing, ?_⟩
      intro other same
      injection same with same
      rw [<- same]
      exact known
  | none =>
      have begunSharing : Sharing
          { generator with nextListId := generator.nextListId + 1 } := by
        refine ⟨?_, sharing.distinct⟩
        intro key label found
        rcases sharing.numbered key label found with ⟨number, below, isLabel⟩
        exact ⟨number, Nat.lt_succ_of_lt below, isLabel⟩
      have begunGrows : Grows generator
          { generator with nextListId := generator.nextListId + 1 } :=
        ⟨Nat.le_succ _, fun _ _ found => found, fun _ _ found => Or.inl found⟩
      have collected := collects generator.nextListId _ begunSharing
      generalize collect generator.nextListId
        { generator with nextListId := generator.nextListId + 1 } = outcome at collected ⊢
      rcases outcome with ⟨after, _ | nodes⟩
      · refine ⟨⟨collected.sharing, begunGrows.trans collected.grows⟩, ?_⟩
        intro label absent
        cases absent
      · dsimp only at collected ⊢
        have below : generator.nextListId < after.nextListId := collected.grows.counts
        have grows := begunGrows.trans collected.grows
        -- The new label is not in use: labels before it have smaller numbers, and those
        -- of inner lists have larger ones.
        have unused (key : List Char) :
            after.listLiteralLabelMap key ≠ some (headerLabel generator.nextListId) := by
          intro found
          rcases collected.grows.comes key _ found with old | ⟨number, above, _, isLabel⟩
          · rcases sharing.numbered key _ old with ⟨number, small, isLabel⟩
            have same := headerLabel_injective isLabel
            omega
          · have same := headerLabel_injective isLabel
            dsimp only at above
            omega
        refine ⟨⟨collected.sharing.memoize _ below unused _,
          grows.memoize known below _⟩, ?_⟩
        intro label same
        exact (Function.update_self _ _ _).trans same

mutual

theorem addInitializer_extends : forall (initializer : Initializer) {generator : DataGenerator},
    Sharing generator -> Extends generator (addInitializer generator initializer).1
  | .int _, _, sharing => .refl sharing
  | .float _, _, sharing => .refl sharing
  | .unknown, _, sharing => .refl sharing
  | .string value, generator, sharing => by
      have extends_ := addStringLiteral_extends sharing value
      rw [addInitializer]
      generalize addStringLiteral generator value = outcome at extends_ ⊢
      rcases outcome with ⟨after, _ | label⟩
      · exact extends_
      · exact extends_
  | .list initializers, generator, sharing => by
      have extends_ := (shareList_extends sharing initializers fun number begun sharing =>
        addNodes_extends initializers number initializers.length 0 sharing).1
      rw [addInitializer]
      generalize (shareList generator initializers fun number begun =>
        addNodes number initializers.length begun 0 initializers) = outcome at extends_ ⊢
      rcases outcome with ⟨after, _ | label⟩
      · exact extends_
      · exact extends_

theorem addNodes_extends : forall (initializers : List Initializer) (number count index : Nat)
    {generator : DataGenerator}, Sharing generator ->
      Extends generator (addNodes number count generator index initializers).1
  | [], _, _, _, _, sharing => .refl sharing
  | initializer :: rest, number, count, index, generator, sharing => by
      have first := addInitializer_extends initializer sharing
      rw [addNodes]
      generalize addInitializer generator initializer = outcome at first ⊢
      rcases outcome with ⟨after, _ | value⟩
      · exact first
      · have others := addNodes_extends rest number count (index + 1) first.sharing
        dsimp only at others ⊢
        generalize addNodes number count after (index + 1) rest = outcome at others ⊢
        rcases outcome with ⟨final, _ | nodes⟩
        · exact first.trans others
        · exact first.trans others

end

/-- A call for a list keeps what is shared, and its key is known under its label. -/
theorem addListLiteral_extends {generator : DataGenerator} (sharing : Sharing generator)
    (initializers : List Initializer) :
    Extends generator (addListLiteral generator initializers).1 ∧
      forall label, (addListLiteral generator initializers).2 = some label ->
        (addListLiteral generator initializers).1.listLiteralLabelMap
          (generateListKey initializers) = some label :=
  shareList_extends sharing initializers fun number _ sharing =>
    addNodes_extends initializers number initializers.length 0 sharing

theorem Reached.extends_ {initial generator : DataGenerator}
    (reached : Reached initial generator) (sharing : Sharing initial) :
    Extends initial generator := by
  induction reached with
  | start => exact .refl sharing
  | string value _ before => exact before.trans (addStringLiteral_extends before.sharing value)
  | list initializers _ before =>
      exact before.trans (addListLiteral_extends before.sharing initializers).1

/-- Nothing is shared at the start. -/
theorem start_sharing : Sharing {} := by
  constructor
  · intro key label known
    cases known
  · intro key other label known
    cases known

end Sharing

section Results

/-! ## Two calls of one run -/

/-- Two calls for lists in one run, the second one at any time after the first, and the
labels that they return. -/
structure TwoCalls where
  first : List Initializer
  second : List Initializer
  before : DataGenerator
  between : DataGenerator
  firstLabel : String
  secondLabel : String
  begun : Reached {} before
  firstCall : (addListLiteral before first).2 = some firstLabel
  later : Reached (addListLiteral before first).1 between
  secondCall : (addListLiteral between second).2 = some secondLabel

/-- The two calls return one label if and only if the lists have one key. -/
theorem TwoCalls.label_eq_iff (calls : TwoCalls) :
    calls.firstLabel = calls.secondLabel <->
      generateListKey calls.first = generateListKey calls.second := by
  have sharing := (calls.begun.extends_ start_sharing).sharing
  rcases addListLiteral_extends sharing calls.first with ⟨extendsFirst, known⟩
  have later := calls.later.extends_ extendsFirst.sharing
  rcases addListLiteral_extends later.sharing calls.second with ⟨extendsSecond, knownSecond⟩
  have isFirst := extendsSecond.grows.keeps _ _
    (later.grows.keeps _ _ (known _ calls.firstCall))
  have isSecond := knownSecond _ calls.secondCall
  constructor
  · intro same
    rw [<- same] at isSecond
    exact extendsSecond.sharing.distinct _ _ _ isFirst isSecond
  · intro same
    rw [same, isSecond] at isFirst
    exact Option.some.inj isFirst.symm

/-- Two calls return one label exactly for equal lists if and only if the lists are equal or
their keys differ; and keys of different lists differ, if no string has a closing bracket,
unless the lists are printed alike. -/
theorem addListLiteral_shares_iff (calls : TwoCalls) :
    ((calls.firstLabel = calls.secondLabel <-> calls.first = calls.second) <->
      (calls.first = calls.second ∨
        generateListKey calls.first ≠ generateListKey calls.second)) ∧
    (allClosed calls.first = true -> allClosed calls.second = true ->
      (generateListKey calls.first ≠ generateListKey calls.second <->
        ¬ PrintAllAlike calls.first calls.second)) := by
  constructor
  · rw [calls.label_eq_iff]
    constructor
    · intro meets
      by_cases same : calls.first = calls.second
      · exact Or.inl same
      · exact Or.inr fun sameKey => same (meets.mp sameKey)
    · rintro (same | different)
      · exact iff_of_true (congrArg generateListKey same) same
      · exact iff_of_false different fun same => different (congrArg generateListKey same)
  · intro closed closedSecond
    exact not_congr (generateListKey_eq_iff closed closedSecond)

/-- A list with a known key gets the known label. -/
theorem addListLiteral_known {generator : DataGenerator} {initializers : List Initializer}
    {label : String}
    (known : generator.listLiteralLabelMap (generateListKey initializers) = some label) :
    (addListLiteral generator initializers).2 = some label := by
  simp only [addListLiteral, shareList, known]

/-- The first two calls of a run, for lists with one key. -/
def TwoCalls.ofStart {first second : List Initializer} {label : String}
    (firstCall : (addListLiteral {} first).2 = some label)
    (sameKey : generateListKey first = generateListKey second) : TwoCalls :=
  { first := first
    second := second
    before := {}
    between := (addListLiteral {} first).1
    firstLabel := label
    secondLabel := label
    begun := .start
    firstCall := firstCall
    later := .start
    secondCall := addListLiteral_known
      (sameKey ▸ (addListLiteral_extends start_sharing first).2 label firstCall) }

/-- One string with brackets in it. -/
def oneString : List Initializer := [.string "a),string(b".toList]

/-- Two strings. -/
def twoStrings : List Initializer := [.string "a".toList, .string "b".toList]

/-- The double next to a tenth, and the next one. -/
def closeFloats : List Initializer × List Initializer :=
  ([.float 0x3FB999999999999A#64], [.float 0x3FB999999999999B#64])

/-- A list of one string and a list of two get one label, and so do two different floats. -/
theorem differentLists_share :
    (exists calls : TwoCalls, calls.first = oneString ∧ calls.second = twoStrings ∧
        calls.firstLabel = calls.secondLabel ∧ calls.first ≠ calls.second) ∧
      exists calls : TwoCalls, calls.first = closeFloats.1 ∧ calls.second = closeFloats.2 ∧
        calls.firstLabel = calls.secondLabel ∧ calls.first ≠ calls.second := by
  have stringsCall : (addListLiteral {} oneString).2 = some "L_list0_header" := rfl
  have stringsKey : generateListKey oneString = generateListKey twoStrings := by decide
  have floatsCall : (addListLiteral {} closeFloats.1).2 = some "L_list0_header" := rfl
  have floatsKey : generateListKey closeFloats.1 = generateListKey closeFloats.2 := by decide
  constructor
  · refine ⟨.ofStart stringsCall stringsKey, rfl, rfl, rfl, ?_⟩
    intro same
    have lengths : oneString.length = twoStrings.length := congrArg List.length same
    cases lengths
  · refine ⟨.ofStart floatsCall floatsKey, rfl, rfl, rfl, ?_⟩
    intro same
    injection same with same _
    injection same with same
    exact absurd same (by decide)

end Results

end Lists
end NewBcpl
