import NewBcpl.Runtime.JoinedStrings

namespace NewBcpl
namespace Runtime

open Foundations
open Utf8 (IsScalar)

/-!
# SPLIT and JOIN undo each other

A character comes back from its byte if it is in the range of a `char`. So a text joins to
itself again exactly if all its characters are, and it is cut at the occurrences of its
delimiter as long as no other characters have the same bytes. The joined string of any list
of strings has its length word and its zero exactly if the pointers are to length words.
-/

section Characters

/-! ## Characters as bytes -/

/-- The characters that a `char` can hold without a change. -/
def charLimit (charSigned : Bool) : Nat := if charSigned then 0x80 else 0x100

def InRange (charSigned : Bool) (characters : List (BitVec 32)) : Prop :=
  forall ch, ch ∈ characters -> ch.toNat < charLimit charSigned

def lowBytes (characters : List (BitVec 32)) : List (BitVec 8) :=
  characters.map (BitVec.setWidth 8)

/-- A byte as a character. -/
def widen (charSigned : Bool) (byte : BitVec 8) : BitVec 32 :=
  if charSigned then byte.signExtend 32 else byte.setWidth 32

theorem bcplToStdString_eq (string : BcplString) :
    bcplToStdString string.characters = lowBytes string.characters := by
  have whole : string.characters.takeWhile (fun ch => ch != 0#32) = string.characters :=
    List.takeWhile_eq_self_iff.mpr fun ch member => bne_iff_ne.mpr (string.nonzero ch member)
  rw [bcplToStdString, whole]
  rfl

theorem throughBytes_eq (charSigned : Bool) (string : BcplString) :
    throughBytes charSigned string.characters =
      (lowBytes string.characters).map (widen charSigned) := by
  rw [throughBytes, bcplToStdString_eq]
  rfl

theorem length_throughBytes (charSigned : Bool) (string : BcplString) :
    (throughBytes charSigned string.characters).length = string.characters.length := by
  rw [throughBytes_eq, lowBytes, List.length_map, List.length_map]

/-- The byte is the low byte of its character. -/
theorem setWidth_widen (charSigned : Bool) (byte : BitVec 8) :
    (widen charSigned byte).setWidth 8 = byte := by
  apply BitVec.eq_of_toNat_eq
  have below := byte.isLt
  cases charSigned with
  | true =>
      have value := @BitVec.toNat_signExtend 8 byte 32
      rw [BitVec.toNat_setWidth] at value
      change ((byte.signExtend 32).setWidth 8).toNat = byte.toNat
      rw [BitVec.toNat_setWidth, value]
      split <;> omega
  | false =>
      change ((byte.setWidth 32).setWidth 8).toNat = byte.toNat
      rw [BitVec.toNat_setWidth, BitVec.toNat_setWidth]
      omega

/-- A scalar comes back from its low byte exactly if it is in the range of a `char`. -/
theorem widen_setWidth_iff (charSigned : Bool) {ch : BitVec 32} (scalar : IsScalar ch.toNat) :
    widen charSigned (ch.setWidth 8) = ch <-> ch.toNat < charLimit charSigned := by
  have bounded := scalar.bounded
  rw [<- BitVec.toNat_inj]
  cases charSigned with
  | true =>
      have value := @BitVec.toNat_signExtend 8 (ch.setWidth 8) 32
      rw [BitVec.toNat_setWidth, BitVec.toNat_setWidth] at value
      have sign : (ch.setWidth 8).msb = decide (0x80 ≤ ch.toNat % 256) := by
        rw [BitVec.msb_eq_decide, BitVec.toNat_setWidth]
      change ((ch.setWidth 8).signExtend 32).toNat = ch.toNat <-> ch.toNat < 0x80
      rw [value, sign]
      by_cases high : 0x80 ≤ ch.toNat % 256
      · rw [if_pos (decide_eq_true high)]
        omega
      · rw [if_neg fun isHigh => high (of_decide_eq_true isHigh)]
        omega
  | false =>
      change ((ch.setWidth 8).setWidth 32).toNat = ch.toNat <-> ch.toNat < 0x100
      rw [BitVec.toNat_setWidth, BitVec.toNat_setWidth]
      omega

theorem charLimit_le (charSigned : Bool) : charLimit charSigned ≤ 0x100 := by
  cases charSigned <;> decide

/-- Characters in the range of a `char` have different low bytes. -/
theorem setWidth_injective {first second : BitVec 32} (firstBelow : first.toNat < 0x100)
    (secondBelow : second.toNat < 0x100) (same : first.setWidth 8 = second.setWidth 8) :
    first = second := by
  apply BitVec.eq_of_toNat_eq
  have values := congrArg BitVec.toNat same
  rw [BitVec.toNat_setWidth, BitVec.toNat_setWidth] at values
  omega

end Characters

section Pieces

/-! ## The pieces of a split text -/

variable (charSigned : Bool) (source delimiter : BcplString)

/-- The pieces for a delimiter that is not empty. -/
theorem splitPieces_eq (nonempty : delimiter.characters ≠ []) :
    splitPieces charSigned source.characters delimiter.characters =
      (Delimiters.pieces (lowBytes delimiter.characters) (lowBytes source.characters)).map
        (List.map (widen charSigned)) := by
  unfold splitPieces
  rw [bcplToStdString_eq, bcplToStdString_eq]
  cases bytes : lowBytes delimiter.characters with
  | nil => exact absurd (List.map_eq_nil_iff.mp bytes) nonempty
  | cons first others =>
      dsimp only
      rw [piecesFrom_eq]
      rfl

theorem splitPieces_nil (empty : delimiter.characters = []) :
    splitPieces charSigned source.characters delimiter.characters =
      ((lowBytes source.characters).map (widen charSigned)).map fun character => [character] := by
  have noBytes : bcplToStdString delimiter.characters = [] := by
    rw [bcplToStdString_eq, empty]
    rfl
  unfold splitPieces
  rw [noBytes, bcplToStdString_eq, List.map_map]
  rfl

/-- The pieces join to what the bytes of the text spell. -/
theorem intercalate_splitPieces :
    (throughBytes charSigned delimiter.characters).intercalate
        (splitPieces charSigned source.characters delimiter.characters) =
      throughBytes charSigned source.characters := by
  rw [throughBytes_eq, throughBytes_eq]
  by_cases empty : delimiter.characters = []
  · rw [splitPieces_nil charSigned source delimiter empty, empty]
    exact Delimiters.intercalate_singletons _
  · have nonempty : lowBytes delimiter.characters ≠ [] :=
      fun noBytes => empty (List.map_eq_nil_iff.mp noBytes)
    rw [splitPieces_eq charSigned source delimiter empty, <- Delimiters.map_intercalate,
      Delimiters.intercalate_pieces nonempty]

/-- No piece has the delimiter in it, whatever the characters are. -/
theorem not_infix_of_mem_splitPieces (nonempty : delimiter.characters ≠ []) {piece : List (BitVec 32)}
    (member : piece ∈ splitPieces charSigned source.characters delimiter.characters) :
    ¬ delimiter.characters <:+: piece := by
  rw [splitPieces_eq charSigned source delimiter nonempty] at member
  rcases List.mem_map.mp member with ⟨bytes, isPiece, rfl⟩
  intro inside
  have inBytes := inside.map (BitVec.setWidth 8)
  have same : (bytes.map (widen charSigned)).map (BitVec.setWidth 8) = bytes := by
    rw [List.map_map]
    exact (List.map_congr_left fun byte _ => setWidth_widen charSigned byte).trans
      (List.map_id bytes)
  rw [same] at inBytes
  have someBytes : lowBytes delimiter.characters ≠ [] :=
    fun noBytes => nonempty (List.map_eq_nil_iff.mp noBytes)
  exact Delimiters.not_infix_of_mem_pieces someBytes isPiece inBytes

theorem length_splitPieces (nonempty : delimiter.characters ≠ []) :
    (splitPieces charSigned source.characters delimiter.characters).length =
      Delimiters.occurrences (lowBytes delimiter.characters) (lowBytes source.characters) + 1 := by
  rw [splitPieces_eq charSigned source delimiter nonempty, List.length_map,
    Delimiters.length_pieces]

end Pieces

section Occurrences

/-! ## Occurrences of the bytes -/

variable {charSigned : Bool} {source delimiter : List (BitVec 32)}

/-- A text with all characters in the range has as many occurrences of the delimiter as its
bytes have of the bytes exactly if the delimiter is in the range too, or its bytes do not
occur. -/
theorem occurrences_lowBytes_iff (nonempty : delimiter ≠ []) (inRange : InRange charSigned source) :
    Delimiters.occurrences (lowBytes delimiter) (lowBytes source) =
        Delimiters.occurrences delimiter source <->
      InRange charSigned delimiter ∨ ¬ lowBytes delimiter <:+: lowBytes source := by
  have limit := charLimit_le charSigned
  have someBytes : lowBytes delimiter ≠ [] :=
    fun noBytes => nonempty (List.map_eq_nil_iff.mp noBytes)
  constructor
  · intro same
    by_cases delimiterInRange : InRange charSigned delimiter
    · exact Or.inl delimiterInRange
    · right
      have nowhere : ¬ delimiter <:+: source := by
        intro inside
        exact delimiterInRange fun ch member => inRange ch (inside.subset member)
      rw [(Delimiters.occurrences_eq_zero_iff nonempty source).mpr nowhere] at same
      exact (Delimiters.occurrences_eq_zero_iff someBytes _).mp same
  · rintro (delimiterInRange | nowhere)
    · apply Delimiters.occurrences_map
      intro first second inDelimiter inSource same
      have firstBelow := delimiterInRange first inDelimiter
      have secondBelow := inRange second inSource
      exact setWidth_injective (by omega) (by omega) same
    · have alsoNowhere : ¬ delimiter <:+: source := fun inside => nowhere (inside.map _)
      rw [(Delimiters.occurrences_eq_zero_iff someBytes _).mpr nowhere,
        (Delimiters.occurrences_eq_zero_iff nonempty _).mpr alsoNowhere]

end Occurrences

section Runs

/-! ## Runs -/

/-- The list of a route that only holds strings. -/
theorem Route.exists_stringList (image : Image) (charSigned : Bool) (before : Snapshot)
    (route : Route) (fits : route.Fits image charSigned before.store before.heap.strings)
    {strings : List (StringPlace × List (BitVec 32))}
    (isStrings : route.trees charSigned =
      strings.map fun string => Tree.string string.1 string.2) :
    (exists header after, route.Runs image charSigned before.heap header after) ∧
      forall header after, route.Runs image charSigned before.heap header after ->
        exists records, StringListAt after header records strings := by
  rcases route.exists_run image charSigned (fun _ _ live => live) fits with
    ⟨header, after, lists, runs, evaluates, depth, denotes⟩
  refine ⟨⟨header, after.heap, runs⟩, ?_⟩
  intro other others again
  rcases runs.unique again with ⟨rfl, rfl⟩
  cases depth with
  | zero => exact denotes.elim
  | succ depth =>
      rcases denotes with ⟨elements, isKnown, all⟩
      rcases after.lists other elements (evaluates.known other elements isKnown) with
        ⟨records, isOwned, represents⟩
      rw [<- represents, isStrings, List.forall₂_map_left_iff, List.forall₂_map_right_iff] at all
      exact ⟨records, isOwned.chain, all⟩

/-- The strings of a split text, behind their length words. -/
def splitStrings (charSigned : Bool) (source delimiter : List (BitVec 32)) :
    List (StringPlace × List (BitVec 32)) :=
  (splitPieces charSigned source delimiter).map fun piece => (.lengthWord, piece)

theorem splitStrings_aligned (charSigned : Bool) (source delimiter : List (BitVec 32)) :
    Aligned (splitStrings charSigned source delimiter) := by
  intro string member
  rcases List.mem_map.mp member with ⟨piece, _, rfl⟩
  rfl

/-- SPLIT ends, and its list holds the pieces. -/
theorem splits_stringList (image : Image) (charSigned : Bool) (before : Snapshot)
    (source delimiter : List (BitVec 32)) :
    (exists header after, Splits image charSigned before.heap source delimiter header after) ∧
      forall header after, Splits image charSigned before.heap source delimiter header after ->
        exists records, StringListAt after header records
          (splitStrings charSigned source delimiter) := by
  have isStrings : (Route.split source delimiter).trees charSigned =
      (splitStrings charSigned source delimiter).map fun string =>
        Tree.string string.1 string.2 := by
    rw [Route.trees, splitStrings, List.map_map]
    rfl
  simp only [splits_iff_runs]
  exact (Route.split source delimiter).exists_stringList image charSigned before trivial isStrings

theorem joinedText_splitStrings (charSigned : Bool) (source delimiter : BcplString) :
    joinedText (throughBytes charSigned delimiter.characters)
        (splitStrings charSigned source.characters delimiter.characters) =
      throughBytes charSigned source.characters := by
  have texts : (splitStrings charSigned source.characters delimiter.characters).map Prod.snd =
      splitPieces charSigned source.characters delimiter.characters := by
    rw [splitStrings, List.map_map]
    exact List.map_id _
  rw [joinedText, texts, intercalate_splitPieces]

end Runs

section Properties

/-! ## Properties and conditions -/

/-- A string of scalars, with a block that holds it. -/
structure ScalarString extends BcplString where
  scalars : forall ch, ch ∈ characters -> IsScalar ch.toNat
  inMemory : characters.length ≤ mostChars

/-- A list of strings in a heap. -/
structure StringList where
  heap : Heap
  header : Nat
  records : List Nat
  strings : List (StringPlace × List (BitVec 32))
  isList : StringListAt heap header records strings

/-- The one result of JOIN. -/
def JoinsTo (charSigned : Bool) (contents : Nat -> BitVec 32) (heap : Heap) (header : Nat)
    (delimiter : BcplString) (result : AllocatedString) : Prop :=
  forall outcome,
    Joins charSigned contents heap (some header) delimiter.characters outcome <->
      outcome = some result

/-- SPLIT ends, its list joins to the text again, and for a delimiter that is not empty the
list holds one more piece than the text has occurrences of the delimiter, each without the
delimiter in it. -/
structure SplitsAndJoins (image : Image) (charSigned : Bool) (before : Snapshot)
    (source : ScalarString) (delimiter : BcplString) : Prop where
  splits : exists header after,
    Splits image charSigned before.heap source.characters delimiter.characters header after
  roundTrip : forall header after,
    Splits image charSigned before.heap source.characters delimiter.characters header after ->
      forall contents, exists result, JoinsTo charSigned contents after header delimiter result ∧
        result.Holds source.toBcplString
  pieces : delimiter.characters ≠ [] -> forall header after,
    Splits image charSigned before.heap source.characters delimiter.characters header after ->
      exists records strings, StringListAt after header records strings ∧
        (forall string, string ∈ strings -> ¬ delimiter.characters <:+: string.2) ∧
        strings.length =
          Delimiters.occurrences delimiter.characters source.characters + 1

/-- The text is in the range of a `char`, and so is the delimiter, unless it is empty or its
bytes do not occur in those of the text. -/
structure Splittable (charSigned : Bool) (source delimiter : List (BitVec 32)) : Prop where
  inRange : InRange charSigned source
  apart : delimiter = [] ∨ InRange charSigned delimiter ∨
    ¬ lowBytes delimiter <:+: lowBytes source

/-- The length word is a count, and the first zero is so many characters behind it. -/
structure AllocatedString.EndsAt (result : AllocatedString) (count : Nat) : Prop where
  length : result.lengthWord.toNat = count
  nonzero : forall i, i < count -> result.payload i ≠ 0#32
  terminated : result.payload count = 0#32

/-- JOIN gives a string with the length of the joined text. -/
def JoinsRight (charSigned : Bool) (contents : Nat -> BitVec 32) (list : StringList)
    (delimiter : BcplString) : Prop :=
  exists result, JoinsTo charSigned contents list.heap list.header delimiter result ∧
    result.EndsAt (joinedText delimiter.characters list.strings).length

/-- All pointers are to length words, the joined text fits into a block, and no character
of it becomes a zero. -/
structure Joinable (list : StringList) (delimiter : BcplString) : Prop where
  aligned : Aligned list.strings
  room : (joinedText delimiter.characters list.strings).length ≤ mostChars
  nonzero : forall string, string ∈ list.strings -> 0#32 ∉ string.2
  bytes : 2 ≤ list.strings.length -> 0#8 ∉ lowBytes delimiter.characters

end Properties

section Results

/-! ## Results -/

theorem spelled_holds_iff (contents : Nat -> BitVec 32) {text : List (BitVec 32)}
    {string : BcplString} (size : text.length = string.characters.length) :
    (spelled contents text).Holds string <-> text = string.characters := by
  constructor
  · intro holds
    apply List.ext_getElem? 
    intro place
    by_cases inside : place < string.characters.length
    · have below : place < text.length := size.symm ▸ inside
      have word := copyWords_inside (Function.update contents text.length 0#32)
        (List.getElem?_eq_getElem below)
      have same := holds.characters place _ (List.getElem?_eq_getElem inside)
      rw [List.getElem?_eq_getElem below, List.getElem?_eq_getElem inside]
      exact congrArg some (word.symm.trans same)
    · rw [List.getElem?_eq_none (by omega), List.getElem?_eq_none (by omega)]
  · rintro rfl
    refine ⟨rfl, fun i ch isChar => copyWords_inside _ isChar, ?_⟩
    exact (copyWords_behind _ _).trans (Function.update_self _ _ _)

theorem spelled_endsAt_iff (contents : Nat -> BitVec 32) {text : List (BitVec 32)}
    (room : text.length ≤ mostChars) :
    (spelled contents text).EndsAt text.length <-> 0#32 ∉ text := by
  constructor
  · intro ends member
    rcases List.getElem?_of_mem member with ⟨place, isZero⟩
    have below : place < text.length := (List.getElem?_eq_some_iff.mp isZero).1
    exact ends.nonzero place below (copyWords_inside _ isZero)
  · intro nonzero
    unfold mostChars at room
    refine ⟨?_, ?_, (copyWords_behind _ _).trans (Function.update_self _ _ _)⟩
    · exact (BitVec.toNat_ofNat ..).trans (Nat.mod_eq_of_lt (by omega))
    · intro place below isZero
      have word := copyWords_inside (Function.update contents text.length 0#32)
        (List.getElem?_eq_getElem below)
      have same : text[place] = 0#32 := word.symm.trans isZero
      exact nonzero (same ▸ List.getElem_mem below)

/-- A text goes through bytes unchanged exactly if it is in the range of a `char`. -/
theorem throughBytes_eq_self_iff (charSigned : Bool) (source : ScalarString) :
    throughBytes charSigned source.characters = source.characters <->
      InRange charSigned source.characters := by
  rw [throughBytes_eq, lowBytes, List.map_map]
  constructor
  · intro same ch member
    have kept := List.map_eq_map_iff.mp (same.trans (List.map_id _).symm) ch member
    exact (widen_setWidth_iff charSigned (source.scalars ch member)).mp kept
  · intro inRange
    refine (List.map_congr_left ?_).trans (List.map_id _)
    intro ch member
    exact (widen_setWidth_iff charSigned (source.scalars ch member)).mpr (inRange ch member)

variable {image : Image} {charSigned : Bool} {before : Snapshot} {source : ScalarString}
  {delimiter : BcplString}

/-- What the list of a split text joins to. -/
theorem splits_joinsTo {header : Nat} {after : Heap}
    (splits : Splits image charSigned before.heap source.characters delimiter.characters header
      after) (contents : Nat -> BitVec 32) :
    JoinsTo charSigned contents after header delimiter
      (spelled contents (throughBytes charSigned source.characters)) := by
  rcases (splits_stringList image charSigned before source.characters delimiter.characters).2
    header after splits with ⟨records, isList⟩
  have text := joinedText_splitStrings charSigned source.toBcplString delimiter
  have room : (joinedText (throughBytes charSigned delimiter.characters)
      (splitStrings charSigned source.characters delimiter.characters)).length ≤ mostChars := by
    rw [text, length_throughBytes]
    exact source.inMemory
  intro outcome
  rw [joins_aligned_iff isList (splitStrings_aligned _ _ _) room, text]

theorem splitsAndJoins_iff :
    SplitsAndJoins image charSigned before source delimiter <->
      Splittable charSigned source.characters delimiter.characters := by
  have size := length_throughBytes charSigned source.toBcplString
  have runs := splits_stringList image charSigned before source.characters delimiter.characters
  constructor
  · intro meets
    rcases meets.splits with ⟨header, after, splits⟩
    rcases meets.roundTrip header after splits (fun _ => 0#32) with ⟨result, joins, holds⟩
    have isResult := (joins _).mp ((splits_joinsTo splits _ _).mpr rfl)
    injection isResult with isResult
    rw [<- isResult, spelled_holds_iff _ size, throughBytes_eq_self_iff] at holds
    refine ⟨holds, ?_⟩
    by_cases empty : delimiter.characters = []
    · exact Or.inl empty
    · right
      rcases meets.pieces empty header after splits with ⟨records, strings, isList, _, count⟩
      rcases runs.2 header after splits with ⟨others, isSplit⟩
      have same := isList.chain.unique isSplit.chain
      have counted : strings.length =
          (splitStrings charSigned source.characters delimiter.characters).length := by
        rw [<- isList.elements.length_eq, same, isSplit.elements.length_eq]
      rw [splitStrings, List.length_map,
        length_splitPieces charSigned source.toBcplString delimiter empty, count] at counted
      exact (occurrences_lowBytes_iff empty holds).mp (Nat.succ.inj counted).symm
  · intro splittable
    refine ⟨runs.1, ?_, ?_⟩
    · intro header after splits contents
      refine ⟨_, splits_joinsTo splits contents, ?_⟩
      rw [spelled_holds_iff _ size, throughBytes_eq_self_iff]
      exact splittable.inRange
    · intro nonempty header after splits
      rcases runs.2 header after splits with ⟨records, isList⟩
      refine ⟨records, _, isList, ?_, ?_⟩
      · intro string member
        rcases List.mem_map.mp member with ⟨piece, isPiece, rfl⟩
        exact not_infix_of_mem_splitPieces charSigned source.toBcplString delimiter nonempty isPiece
      · rw [splitStrings, List.length_map,
          length_splitPieces charSigned source.toBcplString delimiter nonempty]
        rcases splittable.apart with empty | condition
        · exact absurd empty nonempty
        · rw [(occurrences_lowBytes_iff nonempty splittable.inRange).mpr condition]

theorem mem_throughBytes_zero_iff (charSigned : Bool) (delimiter : BcplString) :
    0#32 ∈ throughBytes charSigned delimiter.characters <->
      0#8 ∈ lowBytes delimiter.characters := by
  rw [throughBytes_eq]
  constructor
  · intro member
    rcases List.mem_map.mp member with ⟨byte, inBytes, isZero⟩
    have low := setWidth_widen charSigned byte
    rw [isZero] at low
    have zero : byte = 0#8 := low.symm
    exact zero ▸ inBytes
  · intro member
    refine List.mem_map.mpr ⟨0#8, member, ?_⟩
    cases charSigned <;> rfl

theorem joinsRight_iff (contents : Nat -> BitVec 32) (list : StringList) :
    JoinsRight charSigned contents list delimiter <-> Joinable list delimiter := by
  have size : (joinedText delimiter.characters list.strings).length =
      (joinedText (throughBytes charSigned delimiter.characters) list.strings).length := by
    rw [length_joinedText, length_joinedText, length_throughBytes]
  have zeros : 0#32 ∉ joinedText (throughBytes charSigned delimiter.characters) list.strings <->
      (forall string, string ∈ list.strings -> 0#32 ∉ string.2) ∧
        (2 ≤ list.strings.length -> 0#8 ∉ lowBytes delimiter.characters) := by
    rw [joinedText, Delimiters.mem_intercalate_iff, mem_throughBytes_zero_iff, List.length_map,
      not_or, not_and]
    apply and_congr_left
    intro _
    constructor
    · intro nowhere string member isZero
      exact nowhere ⟨string.2, List.mem_map_of_mem member, isZero⟩
    · rintro nowhere ⟨text, inTexts, isZero⟩
      rcases List.mem_map.mp inTexts with ⟨string, member, rfl⟩
      exact nowhere string member isZero
  constructor
  · rintro ⟨result, joins, ends⟩
    rcases (joins _).mpr rfl with ⟨fuel, joinsWith⟩
    rcases aligned_of_joins list.isList joinsWith (ends.length.trans size) with ⟨aligned, room⟩
    have isResult := (joins _).mp ((joins_aligned_iff list.isList aligned room _).mpr rfl)
    injection isResult with isResult
    rw [<- isResult, size, spelled_endsAt_iff contents room, zeros] at ends
    exact ⟨aligned, size ▸ room, ends.1, ends.2⟩
  · intro joinable
    have room := joinable.room
    rw [size] at room
    refine ⟨_, joins_aligned_iff list.isList joinable.aligned room, ?_⟩
    rw [size, spelled_endsAt_iff contents room, zeros]
    exact ⟨joinable.nonzero, joinable.bytes⟩

/-- The one character U+0141. -/
def strokedLetter : ScalarString where
  characters := [0x141#32]
  nonzero ch member := by
    rw [List.mem_singleton.mp member]
    decide
  scalars ch member := by
    rw [List.mem_singleton.mp member]
    decide
  inMemory := by
    unfold mostChars
    decide

def comma : BcplString where
  characters := [0x2C#32]
  nonzero ch member := by
    rw [List.mem_singleton.mp member]
    decide

end Results

end Runtime
end NewBcpl
