import NewBcpl.Lists.ListLiterals
import NewBcpl.Literals.Utf8Conversion

namespace NewBcpl
namespace Literals

open Foundations
open Utf8
open NewBcpl.Lists (DataGenerator Initializer ListLiteralNode NodeValue addInitializer
  addListLiteral addNodes addStringLiteral byteAt byteOf shareList)

/-!
# The strings that the data generator stores

A call for a literal returns the label of an entry with the code points of the literal and
two zeros. Nothing calls the generator again after a call that throws: the compiler ends with
its error.
-/

section Conversion

/-! ## The conversion of a C++ string -/

/-- The bytes of a literal as the characters of a C++ string. -/
def asChars (value : List (BitVec 8)) : List Char := value.map fun byte => Char.ofNat byte.toNat

theorem byteOf_ofNat (byte : BitVec 8) : byteOf (Char.ofNat byte.toNat) = byte.setWidth 32 := by
  have below : byte.toNat < 256 := byte.isLt
  have valid : byte.toNat.isValidChar := Or.inl (by omega)
  have same : (Char.ofNat byte.toNat).toNat = byte.toNat := by
    rw [Char.ofNat, dif_pos valid]
    rfl
  rw [byteOf, same, Nat.mod_eq_of_lt below, BitVec.ofNat_toNat]

/-- A byte behind a place of a string. -/
theorem byteAt_drop {value : List (BitVec 8)} {start : Nat} (inside : start ≤ value.length)
    (place : Nat) :
    byteAt (asChars (value.drop start)) place =
      (stringOf value (start + place)).map (BitVec.setWidth 32) := by
  have found : (asChars (value.drop start))[place]? =
      value[start + place]?.map fun byte => Char.ofNat byte.toNat := by
    rw [asChars, List.getElem?_map, List.getElem?_drop]
  have size : (asChars (value.drop start)).length = value.length - start := by
    rw [asChars, List.length_map, List.length_drop]
  unfold byteAt stringOf
  rw [found, size]
  by_cases below : start + place < value.length
  · rw [List.getElem?_append_left below, List.getElem?_eq_getElem below]
    exact congrArg some (byteOf_ofNat _)
  · have above : value.length ≤ start + place := Nat.le_of_not_lt below
    rw [List.getElem?_eq_none above, List.getElem?_append_right above]
    by_cases atEnd : start + place = value.length
    · rw [atEnd, Nat.sub_self, Option.map_none]
      exact if_pos (by omega)
    · rw [List.getElem?_eq_none (by rw [List.length_singleton]; omega), Option.map_none]
      exact if_neg (by omega)

/-- Skipped bytes. -/
theorem utf8ToUtf32_skip (skip : Nat) (rest : List Char) :
    Lists.utf8ToUtf32 skip rest = Lists.utf8ToUtf32 0 (rest.drop skip) := by
  induction skip generalizing rest with
  | zero => rfl
  | succ skip same =>
      cases rest with
      | nil => rfl
      | cons char rest =>
          rw [List.drop_succ_cons, <- same]
          rfl

/-- The last byte of a group is not shifted. -/
theorem continued_last (byte : BitVec 8) :
    Lists.continued (byte.setWidth 32) 0 = continued byte := BitVec.shiftLeft_zero _

theorem joined (codePoint : BitVec 32) (others : Option (List (BitVec 32))) :
    (others.bind fun result => some (codePoint :: result)) =
      others.map fun result => codePoint :: result := by
  cases others <;> rfl

/-- One round on the characters is one round on what can be read of a string. -/
theorem utf8ToUtf32_round {value : List (BitVec 8)} {i : Nat} (inside : i < value.length) :
    Lists.utf8ToUtf32 0 (asChars (value.drop i)) =
      match codePointIn (stringOf value) i with
      | some (some (codePoint, extraBytes)) =>
          (Lists.utf8ToUtf32 0 (asChars (value.drop (i + 1 + extraBytes)))).map
            fun others => codePoint :: others
      | _ => none := by
  have skipped (skip : Nat) : Lists.utf8ToUtf32 skip (asChars (value.drop (i + 1))) =
      Lists.utf8ToUtf32 0 (asChars (value.drop (i + 1 + skip))) := by
    rw [utf8ToUtf32_skip, asChars, <- List.map_drop, List.drop_drop]
    rfl
  have found : stringOf value i = some value[i] := by
    rw [stringOf_has value i inside, List.getElem?_eq_getElem inside]
  have here : asChars (value.drop i) =
      Char.ofNat value[i].toNat :: asChars (value.drop (i + 1)) := by
    rw [List.drop_eq_getElem_cons inside]
    rfl
  have behind (place : Nat) := byteAt_drop (Nat.succ_le_of_lt inside) place
  rw [here, Lists.utf8ToUtf32, codePointIn, found]
  simp only [byteOf_ofNat, behind, skipped, Option.bind_eq_bind, Option.bind_some]
  by_cases ascii : value[i].setWidth 32 ≤ 0x7F#32
  · rw [if_pos ascii, if_pos ascii]
    exact joined _ _
  rw [if_neg ascii, if_neg ascii]
  by_cases isTwo : value[i].setWidth 32 &&& 0xE0#32 = 0xC0#32
  · rw [if_pos isTwo, if_pos isTwo]
    cases stringOf value (i + 1) with
    | none => rfl
    | some second =>
        simp only [Option.map_some, Option.bind_some, continued_last]
        exact joined _ _
  rw [if_neg isTwo, if_neg isTwo]
  by_cases isThree : value[i].setWidth 32 &&& 0xF0#32 = 0xE0#32
  · rw [if_pos isThree, if_pos isThree]
    cases stringOf value (i + 1) with
    | none => rfl
    | some second =>
        cases stringOf value (i + 2) with
        | none => rfl
        | some third =>
            simp only [Option.map_some, Option.bind_some, continued_last]
            exact joined _ _
  rw [if_neg isThree, if_neg isThree]
  by_cases isFour : value[i].setWidth 32 &&& 0xF8#32 = 0xF0#32
  · rw [if_pos isFour, if_pos isFour]
    cases stringOf value (i + 1) with
    | none => rfl
    | some second =>
        cases stringOf value (i + 2) with
        | none => rfl
        | some third =>
            cases stringOf value (i + 3) with
            | none => rfl
            | some fourth =>
                simp only [Option.map_some, Option.bind_some, continued_last]
                exact joined _ _
  rw [if_neg isFour, if_neg isFour]

/-- The conversion of a string can read its bytes and the zero behind them. -/
theorem utf8ToUtf32_asChars (value : List (BitVec 8)) (i : Nat) :
    Lists.utf8ToUtf32 0 (asChars (value.drop i)) =
      (utf8ToUtf32In (stringOf value) value.length i).join := by
  induction left : value.length - i using Nat.strongRecOn generalizing i with
  | ind left converts =>
      rw [utf8ToUtf32In]
      by_cases inside : i < value.length
      · rw [if_pos inside, utf8ToUtf32_round inside]
        rcases codePointIn (stringOf value) i with _ | _ | ⟨codePoint, extraBytes⟩
        · rfl
        · rfl
        · dsimp only
          rw [converts _ (by omega) _ rfl]
          rcases utf8ToUtf32In (stringOf value) value.length (i + 1 + extraBytes) with _ | _ | _
          all_goals rfl
      · rw [if_neg inside, List.drop_eq_nil_of_le (Nat.le_of_not_lt inside)]
        rfl

end Conversion

section Collecting

/-! ## Calls that return -/

/-- The states of a generator while its calls for strings and lists return. -/
inductive Collected : DataGenerator -> Prop
  | start : Collected {}
  | string {generator after : DataGenerator} {label : String} (value : List Char)
      (before : Collected generator)
      (returns : addStringLiteral generator value = (after, some label)) : Collected after
  | list {generator after : DataGenerator} {label : String} (initializers : List Initializer)
      (before : Collected generator)
      (returns : addListLiteral generator initializers = (after, some label)) : Collected after

/-- The label of a string. -/
def stringLabel (number : Nat) : String := "L_str" ++ toString number

theorem stringLabel_injective {first second : Nat}
    (same : stringLabel first = stringLabel second) : first = second := by
  have texts := congrArg String.toList same
  simp only [stringLabel, String.toList_append] at texts
  exact Digits.digits_injective (List.append_cancel_left texts)

/-- Under a label there are these characters with two zeros behind them, and nothing else. -/
def Holds (generator : DataGenerator) (label : String) (characters : List (BitVec 32)) : Prop :=
  (exists info, info ∈ generator.stringLiterals ∧ info.label = label) ∧
    forall info, info ∈ generator.stringLiterals -> info.label = label ->
      info.value = characters ++ [0#32, 0#32]

/-- Every known string has been converted and stored, under a label with a number below the
counter. -/
structure Stored (generator : DataGenerator) : Prop where
  numbered : forall info, info ∈ generator.stringLiterals ->
    exists number, number < generator.nextStringId ∧ info.label = stringLabel number
  converted : forall value label, generator.stringLiteralMap value = some label ->
    exists characters, Lists.utf8ToUtf32 0 value = some characters ∧
      Holds generator label characters

theorem start_stored : Stored {} := by
  constructor
  · intro info member
    cases member
  · intro value label known
    cases known

/-- A new entry does not share a label with the entries that are there. -/
theorem Stored.unused {generator : DataGenerator} (stored : Stored generator) :
    forall info, info ∈ generator.stringLiterals ->
      info.label ≠ stringLabel generator.nextStringId := by
  intro info member same
  rcases stored.numbered info member with ⟨number, below, isLabel⟩
  have isNext := stringLabel_injective (isLabel.symm.trans same)
  omega

/-- A call for a string that returns has stored what the conversion gives. -/
theorem addStringLiteral_stored {generator after : DataGenerator} (stored : Stored generator)
    {value : List Char} {label : String}
    (returns : addStringLiteral generator value = (after, some label)) :
    Stored after ∧ exists characters, Lists.utf8ToUtf32 0 value = some characters ∧
      Holds after label characters := by
  unfold addStringLiteral at returns
  cases known : generator.stringLiteralMap value with
  | some old =>
      rw [known] at returns
      injection returns with isAfter isLabel
      injection isLabel with isLabel
      rw [<- isAfter, <- isLabel]
      exact ⟨stored, stored.converted value old known⟩
  | none =>
      rw [known] at returns
      dsimp only at returns
      cases conversion : Lists.utf8ToUtf32 0 value with
      | none =>
          rw [conversion] at returns
          injection returns with _ absent
          cases absent
      | some characters =>
          rw [conversion] at returns
          injection returns with isAfter isLabel
          injection isLabel with isLabel
          subst isAfter isLabel
          have holds : Holds
              { generator with
                nextStringId := generator.nextStringId + 1
                stringLiteralMap := Function.update generator.stringLiteralMap value
                  (some (stringLabel generator.nextStringId))
                stringLiterals := generator.stringLiterals ++
                  [{ label := stringLabel generator.nextStringId
                     value := characters ++ [0#32, 0#32] }] }
              (stringLabel generator.nextStringId) characters := by
            refine ⟨⟨_, List.mem_append_right _ List.mem_cons_self, rfl⟩, ?_⟩
            intro info member isLabel
            rcases List.mem_append.mp member with old | new
            · exact absurd isLabel (stored.unused info old)
            · rw [List.mem_singleton.mp new]
          refine ⟨⟨?_, ?_⟩, characters, rfl, holds⟩
          · intro info member
            rcases List.mem_append.mp member with old | new
            · rcases stored.numbered info old with ⟨number, below, isLabel⟩
              exact ⟨number, Nat.lt_succ_of_lt below, isLabel⟩
            · rw [List.mem_singleton.mp new]
              exact ⟨generator.nextStringId, Nat.lt_succ_self _, rfl⟩
          · intro other otherLabel found
            dsimp only at found
            by_cases isValue : other = value
            · rw [isValue, Function.update_self, Option.some.injEq] at found
              rw [isValue, <- found]
              exact ⟨characters, conversion, holds⟩
            · rw [Function.update_of_ne isValue] at found
              rcases stored.converted other otherLabel found with
                ⟨others, isConversion, ⟨info, member, isLabel⟩, unique⟩
              refine ⟨others, isConversion, ⟨info, List.mem_append_left _ member, isLabel⟩, ?_⟩
              intro entry inEntries entryLabel
              rcases List.mem_append.mp inEntries with old | new
              · exact unique entry old entryLabel
              · rw [List.mem_singleton.mp new] at entryLabel
                exact absurd (isLabel.trans entryLabel.symm) (stored.unused info member)

/-- What is stored does not depend on the lists. -/
theorem Stored.withLists {generator : DataGenerator} (stored : Stored generator)
    (number : Nat) (labels : List Char -> Option String) (lists : List Lists.ListLiteralInfo) :
    Stored
      { generator with
        nextListId := number, listLiteralLabelMap := labels, listLiterals := lists } :=
  ⟨stored.numbered, stored.converted⟩

/-- A shared list that returns keeps what is stored, if its nodes do. -/
theorem shareList_stored {generator after : DataGenerator} (stored : Stored generator)
    {initializers : List Initializer} {label : String}
    {collect : Nat -> DataGenerator -> DataGenerator × Option (List ListLiteralNode)}
    (collects : forall number begun final nodes, Stored begun ->
      collect number begun = (final, some nodes) -> Stored final)
    (returns : shareList generator initializers collect = (after, some label)) :
    Stored after := by
  unfold shareList at returns
  cases known : generator.listLiteralLabelMap (Lists.generateListKey initializers) with
  | some old =>
      rw [known] at returns
      injection returns with isAfter
      rwa [<- isAfter]
  | none =>
      rw [known] at returns
      dsimp only at returns
      have begun := stored.withLists (generator.nextListId + 1) generator.listLiteralLabelMap
        generator.listLiterals
      cases outcome : collect generator.nextListId
          { generator with nextListId := generator.nextListId + 1 } with
      | mk final result =>
          rw [outcome] at returns
          cases result with
          | none =>
              injection returns with _ absent
              cases absent
          | some nodes =>
              injection returns with isAfter
              rw [<- isAfter]
              exact (collects _ _ _ _ begun outcome).withLists _ _ _

mutual

theorem addInitializer_stored : forall (initializer : Initializer)
    {generator after : DataGenerator} {value : NodeValue}, Stored generator ->
      addInitializer generator initializer = (after, some value) -> Stored after
  | .int _, generator, after, value, stored, returns => by
      rw [addInitializer] at returns
      injection returns with isAfter
      rwa [<- isAfter]
  | .float _, generator, after, value, stored, returns => by
      rw [addInitializer] at returns
      injection returns with isAfter
      rwa [<- isAfter]
  | .unknown, generator, after, value, stored, returns => by
      rw [addInitializer] at returns
      injection returns with isAfter
      rwa [<- isAfter]
  | .string text, generator, after, value, stored, returns => by
      rw [addInitializer] at returns
      cases call : addStringLiteral generator text with
      | mk final result =>
          rw [call] at returns
          cases result with
          | none =>
              injection returns with _ absent
              cases absent
          | some label =>
              injection returns with isAfter
              rw [<- isAfter]
              exact (addStringLiteral_stored stored call).1
  | .list initializers, generator, after, value, stored, returns => by
      rw [addInitializer] at returns
      cases call : shareList generator initializers fun number begun =>
          addNodes number initializers.length begun 0 initializers with
      | mk final result =>
          rw [call] at returns
          cases result with
          | none =>
              injection returns with _ absent
              cases absent
          | some label =>
              injection returns with isAfter
              rw [<- isAfter]
              exact shareList_stored stored
                (fun number begun last nodes begunStored collected =>
                  addNodes_stored initializers number initializers.length 0 begunStored collected)
                call

theorem addNodes_stored : forall (initializers : List Initializer) (number count index : Nat)
    {generator after : DataGenerator} {nodes : List ListLiteralNode}, Stored generator ->
      addNodes number count generator index initializers = (after, some nodes) -> Stored after
  | [], _, _, _, generator, after, nodes, stored, returns => by
      rw [addNodes] at returns
      injection returns with isAfter
      rwa [<- isAfter]
  | initializer :: rest, number, count, index, generator, after, nodes, stored, returns => by
      rw [addNodes] at returns
      cases first : addInitializer generator initializer with
      | mk middle result =>
          rw [first] at returns
          cases result with
          | none =>
              injection returns with _ absent
              cases absent
          | some value =>
              have middleStored := addInitializer_stored initializer stored first
              dsimp only at returns
              cases others : addNodes number count middle (index + 1) rest with
              | mk final tail =>
                  rw [others] at returns
                  cases tail with
                  | none =>
                      injection returns with _ absent
                      cases absent
                  | some tailNodes =>
                      injection returns with isAfter
                      rw [<- isAfter]
                      exact addNodes_stored rest number count (index + 1) middleStored others

end

/-- As long as calls return, every known string is stored. -/
theorem Collected.stored {generator : DataGenerator} (collected : Collected generator) :
    Stored generator := by
  induction collected with
  | start => exact start_stored
  | string value _ returns stored => exact (addStringLiteral_stored stored returns).1
  | list initializers _ returns stored =>
      exact shareList_stored stored
        (fun number begun last nodes begunStored nodesReturn =>
          addNodes_stored initializers number initializers.length 0 begunStored nodesReturn)
        returns

end Collecting

section Results

/-! ## Literals of a compilation -/

/-- A call for a string throws if and only if the conversion has no result. -/
theorem addStringLiteral_throws_iff {generator : DataGenerator} (stored : Stored generator)
    (value : List Char) :
    (addStringLiteral generator value).2 = none <-> Lists.utf8ToUtf32 0 value = none := by
  constructor
  · intro throws
    unfold addStringLiteral at throws
    cases known : generator.stringLiteralMap value with
    | some label =>
        rw [known] at throws
        cases throws
    | none =>
        rw [known] at throws
        dsimp only at throws
        cases conversion : Lists.utf8ToUtf32 0 value with
        | none => rfl
        | some characters =>
            rw [conversion] at throws
            cases throws
  · intro absent
    cases call : addStringLiteral generator value with
    | mk after result =>
        cases result with
        | none => rfl
        | some label =>
            rcases (addStringLiteral_stored stored call).2 with ⟨characters, conversion, _⟩
            rw [absent] at conversion
            cases conversion

/-- A call for a literal, at any time of a compilation. -/
structure LiteralCall where
  generator : DataGenerator
  value : List (BitVec 8)
  collected : Collected generator

/-- The call returns the label of these characters. -/
def LiteralCall.Stores (call : LiteralCall) (characters : List (BitVec 32)) : Prop :=
  exists after label,
    addStringLiteral call.generator (asChars call.value) = (after, some label) ∧
      Holds after label characters

/-- The call throws, and the conversion reads nothing behind the literal. -/
def LiteralCall.Rejects (call : LiteralCall) : Prop :=
  (addStringLiteral call.generator (asChars call.value)).2 = none ∧
    utf8ToUtf32In (bytesOf call.value) call.value.length 0 ≠ none

/-- The scalars of a well-formed literal are stored, and put out they are the literal. All
other literals are rejected. -/
structure LiteralCall.Meets (call : LiteralCall) : Prop where
  scalars : forall codePoints : List Nat,
    (forall codePoint, codePoint ∈ codePoints -> IsScalar codePoint) ->
      numbersOf call.value = codePoints.flatMap encoded ->
        call.Stores (codePoints.map (BitVec.ofNat 32)) ∧
          written (codePoints.map (BitVec.ofNat 32)) = call.value
  others : ¬ IsWellFormed (numbersOf call.value) -> call.Rejects

/-- The result of the conversion in a call. -/
theorem LiteralCall.conversion (call : LiteralCall) :
    Lists.utf8ToUtf32 0 (asChars call.value) =
      (utf8ToUtf32In (stringOf call.value) call.value.length 0).join :=
  utf8ToUtf32_asChars call.value 0

/-- Characters that the conversion gives are stored. -/
theorem LiteralCall.stores (call : LiteralCall) {characters : List (BitVec 32)}
    (converts : Lists.utf8ToUtf32 0 (asChars call.value) = some characters) :
    call.Stores characters := by
  cases outcome : addStringLiteral call.generator (asChars call.value) with
  | mk after result =>
      cases result with
      | none =>
          have throws := (addStringLiteral_throws_iff call.collected.stored _).mp
            (congrArg Prod.snd outcome)
          rw [converts] at throws
          cases throws
      | some label =>
          rcases (addStringLiteral_stored call.collected.stored outcome).2 with
            ⟨found, conversion, holds⟩
          rw [converts] at conversion
          injection conversion with same
          exact ⟨after, label, outcome, same ▸ holds⟩

/-- A row of groups is stored, whatever the bytes in the groups are. -/
theorem LiteralCall.stores_groups (call : LiteralCall) {groups : List (List Nat)}
    (areGroups : forall group, group ∈ groups -> IsGroup group)
    (whole : numbersOf call.value = groups.flatten) :
    call.Stores (groups.map fun group => BitVec.ofNat 32 (groupNumber group)) := by
  apply call.stores
  rw [call.conversion, convert_grouped (stringOf_has call.value) areGroups whole]
  rfl

theorem LiteralCall.stores_scalars (call : LiteralCall) {codePoints : List Nat}
    (scalars : forall codePoint, codePoint ∈ codePoints -> IsScalar codePoint)
    (whole : numbersOf call.value = codePoints.flatMap encoded) :
    call.Stores (codePoints.map (BitVec.ofNat 32)) ∧
      written (codePoints.map (BitVec.ofNat 32)) = call.value := by
  rcases flatMap_encoded_groups scalars with ⟨areGroups, numbers⟩
  constructor
  · have stores := call.stores_groups areGroups (whole.trans (List.flatMap_def ..))
    have same : (codePoints.map encoded).map (fun group => BitVec.ofNat 32 (groupNumber group)) =
        codePoints.map (BitVec.ofNat 32) := by
      have composed := congrArg (List.map (BitVec.ofNat 32)) numbers
      rw [List.map_map, List.map_map] at composed
      rw [List.map_map]
      exact composed
    rwa [same] at stores
  · exact List.map_injective_iff.mpr (fun _ _ => BitVec.eq_of_toNat_eq)
      ((written_scalars scalars).trans whole.symm)

/-- A call meets what is expected of it if and only if its literal is well formed, or behind
a row of groups it has a byte that leads no group. -/
theorem literal_meets_iff (call : LiteralCall) :
    call.Meets <->
      IsWellFormed (numbersOf call.value) ∨ BreaksOff (numbersOf call.value) := by
  constructor
  · intro meets
    by_cases wellFormed : IsWellFormed (numbersOf call.value)
    · exact Or.inl wellFormed
    rcases meets.others wellFormed with ⟨throws, readsInside⟩
    rcases grouped_cases (numbersOf call.value) with ⟨groups, areGroups, whole⟩ | breaks | cut
    · rcases call.stores_groups areGroups whole with ⟨after, label, returns, _⟩
      rw [returns] at throws
      cases throws
    · exact Or.inr breaks
    · exact absurd (convert_cutShort cut) readsInside
  · intro condition
    refine ⟨fun codePoints scalars whole => call.stores_scalars scalars whole, ?_⟩
    intro illFormed
    rcases condition with wellFormed | breaks
    · exact absurd wellFormed illFormed
    constructor
    · rw [addStringLiteral_throws_iff call.collected.stored, call.conversion,
        convert_breaksOff (stringOf_has call.value) breaks]
      rfl
    · rw [convert_breaksOff (bytesOf_has call.value) breaks]
      exact Option.some_ne_none none

/-- The first call of a compilation. -/
def firstCall (value : List (BitVec 8)) : LiteralCall := ⟨{}, value, .start⟩

/-- The overlong bytes of a zero are stored as a zero, and a lead byte at the end of a literal
is taken together with the zero behind the literal. -/
theorem illFormed_accepted :
    ¬ (firstCall [0xC0#8, 0x80#8]).Meets ∧ ¬ (firstCall [0xC3#8]).Meets := by
  constructor
  · intro meets
    have isPiece : [0xC0, 0x80] ∈ pieces [0xC0, 0x80] := by
      rw [pieces_cons]
      exact List.mem_cons_self
    have illFormed : IllFormed [0xC0, 0x80] := .overlong (by decide) (by decide)
    have rejects := meets.others (not_isWellFormed isPiece illFormed)
    exact absurd rejects.1 (by decide)
  · intro meets
    have isPiece : [0xC3] ∈ pieces [0xC3] := by
      rw [pieces_cons]
      exact List.mem_cons_self
    have illFormed : IllFormed [0xC3] := .truncated (by decide) (Nat.zero_lt_succ 0)
    have rejects := meets.others (not_isWellFormed isPiece illFormed)
    have cut : CutShort [0xC3] :=
      ⟨[], 0xC3, 1, [], fun _ member => (List.not_mem_nil member).elim, by decide, by decide, rfl⟩
    exact rejects.2 (convert_cutShort cut)

end Results

end Literals
end NewBcpl
