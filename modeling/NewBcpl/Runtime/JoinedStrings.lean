import NewBcpl.Runtime.PackedRoundTrip
import NewBcpl.Runtime.SplitAndJoin

namespace NewBcpl
namespace Runtime

open Foundations

/-!
# Joining what was split

The tokens of SPLIT are the pieces between the occurrences of the delimiter, as bytes. JOIN
gives the text of its elements if their pointers are to the length words: from a pointer to
the first character it takes two characters for the length. So the tokens join to the text
that the bytes spell.
-/

section Tokens

/-! ## Tokens -/

theorem piecesFrom_eq (delimiter : List (BitVec 8)) (skip : Nat) (piece text : List (BitVec 8)) :
    piecesFrom delimiter skip piece text = Delimiters.piecesFrom delimiter skip piece text := by
  induction text generalizing skip piece with
  | nil => cases skip <;> rfl
  | cons character rest same =>
      cases skip with
      | succ skip => exact same skip piece
      | zero =>
          rw [piecesFrom, Delimiters.piecesFrom, same, same]
          by_cases occurs : delimiter <+: character :: rest
          · rw [if_pos occurs, if_pos (List.isPrefixOf_iff_prefix.mpr occurs)]
          · rw [if_neg occurs, if_neg fun found => occurs (List.isPrefixOf_iff_prefix.mp found)]

/-- The loop of SPLIT finds the pieces of the scan. -/
theorem tokensFrom_eq {text delimiter : List (BitVec 8)} (nonempty : delimiter ≠ []) {start : Nat}
    (inside : start ≤ text.length) :
    tokensFrom text delimiter nonempty start =
      Delimiters.piecesFrom delimiter 0 [] (text.drop start) := by
  induction left : text.length - start using Nat.strongRecOn generalizing start with
  | ind left scans =>
      have positive := List.length_pos_of_ne_nil nonempty
      have search : find text delimiter start =
          (Delimiters.firstIn delimiter (text.drop start)).map fun place => start + place :=
        if_pos inside
      rw [tokensFrom, Delimiters.piecesFrom_firstIn nonempty]
      split
      · rename_i finish found
        have bounds := find_some found
        rw [search] at found
        rcases Option.map_eq_some_iff.mp found with ⟨place, first, isFinish⟩
        rw [first, scans _ (by omega) (by omega) rfl, <- isFinish]
        dsimp only
        rw [Nat.add_sub_cancel_left, List.nil_append, List.drop_drop, Nat.add_assoc]
      · rename_i notFound
        rw [search, Option.map_eq_none_iff] at notFound
        rw [notFound, List.nil_append]

theorem splitTokens_eq (charSigned : Bool) (source delimiter : List (BitVec 32)) :
    splitTokens charSigned source delimiter = splitPieces charSigned source delimiter := by
  unfold splitTokens splitPieces
  cases bytes : bcplToStdString delimiter with
  | nil => rfl
  | cons first others =>
      dsimp only
      rw [dif_pos (List.cons_ne_nil first others), tokensFrom_eq _ (Nat.zero_le _),
        piecesFrom_eq, List.drop_zero]

/-- SPLIT is a route. -/
theorem splits_iff_runs {image : Image} {charSigned : Bool} {heap after : Heap}
    {source delimiter : List (BitVec 32)} {result : Nat} :
    Splits image charSigned heap source delimiter result after <->
      (Route.split source delimiter).Runs image charSigned heap result after := by
  rw [Splits, splitTokens_eq]
  rfl

end Tokens

section Words

/-! ## The words of a string -/

theorem copyWords_nil (payload : Nat -> BitVec 32) (position : Nat) :
    copyWords payload position [] = payload := by
  funext place
  unfold copyWords
  split <;> rfl

theorem copyWords_append (payload : Nat -> BitVec 32) (position : Nat)
    (first second : List (BitVec 32)) :
    copyWords (copyWords payload position first) (position + first.length) second =
      copyWords payload position (first ++ second) := by
  funext place
  unfold copyWords
  by_cases behind : position + first.length ≤ place
  · rw [if_pos behind, if_pos (by omega), if_pos (by omega),
      List.getElem?_append_right (by omega), Nat.sub_sub,
      @List.getElem?_eq_none _ first (place - position) (by omega)]
    rfl
  · rw [if_neg behind]
    by_cases inFirst : position ≤ place
    · rw [if_pos inFirst, if_pos inFirst, List.getElem?_append_left (by omega)]
    · rw [if_neg inFirst, if_neg inFirst]

theorem copyWords_inside (payload : Nat -> BitVec 32) {words : List (BitVec 32)} {place : Nat}
    {word : BitVec 32} (isWord : words[place]? = some word) :
    copyWords payload 0 words place = word := by
  rw [copyWords, if_pos (Nat.zero_le place), Nat.sub_zero, isWord]
  rfl

theorem copyWords_behind (payload : Nat -> BitVec 32) (words : List (BitVec 32)) :
    copyWords payload 0 words words.length = payload words.length := by
  rw [copyWords, if_pos (Nat.zero_le _), Nat.sub_zero, List.getElem?_eq_none (Nat.le_refl _)]
  rfl

/-- The two halves of a length word. -/
theorem halves_append (length : Word) :
    ((length >>> 32).setWidth 32 : BitVec 32) ++ (length.setWidth 32 : BitVec 32) = length := by
  apply BitVec.eq_of_toNat_eq
  have bounded := length.isLt
  rw [BitVec.toNat_append, BitVec.toNat_setWidth, BitVec.toNat_setWidth, BitVec.toNat_ushiftRight,
    Nat.shiftRight_eq_div_pow, Nat.shiftLeft_eq, Nat.mul_comm,
    <- Nat.two_pow_add_eq_or_of_lt (Nat.mod_lt _ (by decide))]
  omega

/-- The element of a list is a pointer to a string. -/
def HoldsString (heap : Heap) (node : Nat) (string : StringPlace × List (BitVec 32)) : Prop :=
  exists block readOnly,
    heap.element node = ⟨stringType, .string (some ⟨block, string.1⟩)⟩ ∧
      heap.strings block = some ⟨readOnly, string.2⟩

variable {heap : Heap} {node : Nat} {characters : List (BitVec 32)}

theorem HoldsString.type {string : StringPlace × List (BitVec 32)}
    (holds : HoldsString heap node string) : (heap.nodes node).type = stringType := by
  rcases holds with ⟨block, readOnly, isElement, _⟩
  exact congrArg Element.type isElement

theorem HoldsString.readElement {string : StringPlace × List (BitVec 32)}
    (holds : HoldsString heap node string) :
    heap.readElement node =
      match StringBlock.wordsFrom ⟨false, string.2⟩ string.1 with
      | low :: high :: payload => some (high ++ low, payload)
      | _ => none := by
  rcases holds with ⟨block, readOnly, isElement, present⟩
  have isValue : (heap.nodes node).value = .string (some ⟨block, string.1⟩) :=
    congrArg Element.value isElement
  rw [Heap.readElement, isValue]
  dsimp only
  rw [present]
  cases string.1 <;> rfl

/-- Through a pointer to the length word. -/
theorem readElement_lengthWord (holds : HoldsString heap node (.lengthWord, characters)) :
    heap.readElement node =
      some (BitVec.ofNat 64 characters.length, characters ++ [0#32]) := by
  rw [holds.readElement]
  exact congrArg (fun length => some (length, characters ++ [0#32])) (halves_append _)

/-- Through a pointer to the first character, two words are missing. -/
theorem readElement_firstCharacter (holds : HoldsString heap node (.firstCharacter, characters))
    {elementLen : Word} {words : List (BitVec 32)}
    (reads : heap.readElement node = some (elementLen, words)) :
    words.length + 1 = characters.length := by
  rw [holds.readElement] at reads
  cases characters with
  | nil => cases reads
  | cons first rest =>
      cases rest with
      | nil =>
          injection reads with reads
          injection reads with _ isWords
          rw [<- isWords]
          rfl
      | cons second rest =>
          injection reads with reads
          injection reads with _ isWords
          rw [<- isWords]
          exact congrArg Nat.succ List.length_append

end Words

section Passes

/-! ## The two passes -/

/-- What JOIN reads of a node. -/
def Reads (heap : Heap) (node : Nat) (view : Word × List (BitVec 32)) : Prop :=
  heap.readElement node = some view

/-- The characters that JOIN takes of an element. -/
def taken (view : Word × List (BitVec 32)) : List (BitVec 32) := view.2.take view.1.toNat

variable {heap : Heap} {pointer : Option Nat} {records : List Nat}
  {views : List (Word × List (BitVec 32))} {fuel : Nat}

theorem measure_eq (chain : Chains.Chain heap.next pointer records)
    (types : forall node, node ∈ records -> (heap.nodes node).type = stringType)
    (reads : List.Forall₂ (Reads heap) records views) (enough : records.length ≤ fuel)
    (totalLen elementCount : Word) :
    heap.measure fuel totalLen elementCount pointer =
      some (some (totalLen + (views.map Prod.fst).sum,
        elementCount + BitVec.ofNat 64 records.length)) := by
  induction reads generalizing pointer fuel totalLen elementCount with
  | nil =>
      rw [Chains.chain_nil.mp chain]
      have sums : totalLen + ([] : List Word).sum = totalLen := BitVec.add_zero totalLen
      have count : elementCount + BitVec.ofNat 64 ([] : List Nat).length = elementCount :=
        BitVec.add_zero elementCount
      rw [List.map_nil, sums, count]
      cases fuel <;> rfl
  | @cons node view records views read others counts =>
      cases fuel with
      | zero => exact absurd enough (Nat.not_succ_le_zero _)
      | succ fuel =>
          have isRead : heap.readElement node = some view := read
          rw [chain.1, Heap.measure, if_pos (types node List.mem_cons_self), isRead]
          dsimp only
          rw [counts chain.2 (fun other member => types other (List.mem_cons_of_mem _ member))
            (Nat.le_of_succ_le_succ enough), List.map_cons, List.sum_cons, List.length_cons,
            BitVec.add_assoc, BitVec.add_assoc, Nat.add_comm records.length 1, BitVec.ofNat_add]

/-- Where the first pass ends, it has read all strings. -/
theorem measure_some (chain : Chains.Chain heap.next pointer records)
    (types : forall node, node ∈ records -> (heap.nodes node).type = stringType)
    {totalLen elementCount : Word} {outcome : Option (Word × Word)}
    (measures : heap.measure fuel totalLen elementCount pointer = some outcome) :
    records.length ≤ fuel ∧ exists views, List.Forall₂ (Reads heap) records views := by
  induction records generalizing pointer fuel totalLen elementCount with
  | nil => exact ⟨Nat.zero_le fuel, [], List.Forall₂.nil⟩
  | cons node records reads =>
      rw [chain.1] at measures
      cases fuel with
      | zero => cases measures
      | succ fuel =>
          rw [Heap.measure, if_pos (types node List.mem_cons_self)] at measures
          cases isRead : heap.readElement node with
          | none =>
              rw [isRead] at measures
              cases measures
          | some view =>
              rw [isRead] at measures
              rcases reads chain.2
                (fun other member => types other (List.mem_cons_of_mem _ member)) measures with
                ⟨enough, views, others⟩
              exact ⟨Nat.succ_le_succ enough, view :: views, List.Forall₂.cons isRead others⟩

theorem next_eq_none_iff {node : Nat} (chain : Chains.Chain heap.next (heap.next node) records)
    (reads : List.Forall₂ (Reads heap) records views) :
    heap.next node = none <-> views.map taken = [] := by
  rw [chain.pointer_eq, List.head?_eq_none_iff, List.map_eq_nil_iff]
  cases reads with
  | nil => exact iff_of_true rfl rfl
  | cons read others => exact iff_of_false (List.cons_ne_nil _ _) (List.cons_ne_nil _ _)

/-- The second pass writes the joined text from its cursor on. -/
theorem copyElements_eq {delimiter : List (BitVec 32)} {size : Nat}
    (chain : Chains.Chain heap.next pointer records)
    (reads : List.Forall₂ (Reads heap) records views)
    (inside : forall view, view ∈ views -> view.1.toNat ≤ view.2.length)
    (enough : records.length ≤ fuel) (payload : Nat -> BitVec 32) (cursor : Nat)
    (room : cursor + (delimiter.intercalate (views.map taken)).length ≤ size) :
    heap.copyElements delimiter size fuel payload cursor pointer =
      some (copyWords payload cursor (delimiter.intercalate (views.map taken))) := by
  induction reads generalizing pointer fuel payload cursor with
  | nil =>
      rw [Chains.chain_nil.mp chain, List.map_nil, List.intercalate_nil, copyWords_nil]
      cases fuel <;> rfl
  | @cons node view records views read others copies =>
      cases fuel with
      | zero => exact absurd enough (Nat.not_succ_le_zero _)
      | succ fuel =>
          have isRead : heap.readElement node = some view := read
          have isLast := next_eq_none_iff chain.2 others
          rw [List.map_cons, Delimiters.intercalate_cons] at room ⊢
          rw [chain.1, Heap.copyElements, isRead]
          dsimp only
          have separator : (if heap.next node = none then [] else delimiter) =
              if views.map taken = [] then [] else delimiter := by
            by_cases last : heap.next node = none
            · rw [if_pos last, if_pos (isLast.mp last)]
            · rw [if_neg last, if_neg fun empty => last (isLast.mpr empty)]
          rw [separator]
          generalize (if views.map taken = [] then [] else delimiter) = between at room ⊢
          rw [List.length_append, List.length_append] at room
          have isTaken : view.2.take view.1.toNat = taken view := rfl
          rw [isTaken, if_pos ⟨inside view List.mem_cons_self, by omega⟩,
            copies chain.2 (fun other member => inside other (List.mem_cons_of_mem _ member))
              (Nat.le_of_succ_le_succ enough) _ _ (by omega), copyWords_append, copyWords_append]

/-- Where the second pass ends, it has read inside the strings. -/
theorem copyElements_reads {delimiter : List (BitVec 32)} {size : Nat}
    (chain : Chains.Chain heap.next pointer records)
    (reads : List.Forall₂ (Reads heap) records views) {payload written : Nat -> BitVec 32}
    {cursor : Nat}
    (copies : heap.copyElements delimiter size fuel payload cursor pointer = some written) :
    forall view, view ∈ views -> view.1.toNat ≤ view.2.length := by
  induction reads generalizing pointer fuel payload cursor with
  | nil => exact fun view member => (List.not_mem_nil member).elim
  | @cons node view records views read others inside =>
      rw [chain.1] at copies
      cases fuel with
      | zero => cases copies
      | succ fuel =>
          have isRead : heap.readElement node = some view := read
          rw [Heap.copyElements, isRead] at copies
          dsimp only at copies
          generalize (if heap.next node = none then [] else delimiter) = between at copies
          split at copies
          · rename_i passes
            intro other member
            rcases List.mem_cons.mp member with same | later
            · rw [same]
              exact passes.1
            · exact inside chain.2 copies other later
          · cases copies

end Passes

section Lengths

/-! ## The computed length -/

/-- The length that JOIN asks memory for. -/
def withDelimiters (totalLen elementCount : Word) (delimiterLen : Nat) : Word :=
  if 1#64 < elementCount then
    totalLen + BitVec.ofNat 64 delimiterLen * (elementCount - 1#64)
  else totalLen

/-- The computed length is not too large. -/
theorem withDelimiters_le (totalLen : Word) (count delimiterLen : Nat) :
    (withDelimiters totalLen (0#64 + BitVec.ofNat 64 count) delimiterLen).toNat ≤
      totalLen.toNat + delimiterLen * (count - 1) := by
  unfold withDelimiters
  rw [BitVec.zero_add]
  split
  · rename_i many
    have isCount : (BitVec.ofNat 64 count).toNat ≤ count := by
      rw [BitVec.toNat_ofNat]
      exact Nat.mod_le _ _
    rw [BitVec.lt_def, BitVec.toNat_ofNat] at many
    have one : (1#64).toNat = 1 := rfl
    have less : (BitVec.ofNat 64 count - 1#64).toNat ≤ count - 1 := by
      rw [BitVec.toNat_sub, one]
      omega
    have isLength : (BitVec.ofNat 64 delimiterLen).toNat ≤ delimiterLen := by
      rw [BitVec.toNat_ofNat]
      exact Nat.mod_le _ _
    calc (totalLen + BitVec.ofNat 64 delimiterLen * (BitVec.ofNat 64 count - 1#64)).toNat
        ≤ totalLen.toNat + (BitVec.ofNat 64 delimiterLen * (BitVec.ofNat 64 count - 1#64)).toNat := by
          rw [BitVec.toNat_add]
          exact Nat.mod_le _ _
      _ ≤ totalLen.toNat +
            (BitVec.ofNat 64 delimiterLen).toNat * (BitVec.ofNat 64 count - 1#64).toNat := by
          rw [BitVec.toNat_mul]
          exact Nat.add_le_add_left (Nat.mod_le _ _) _
      _ ≤ totalLen.toNat + delimiterLen * (count - 1) :=
          Nat.add_le_add_left (Nat.mul_le_mul isLength less) _
  · exact Nat.le_add_right _ _

/-- The computed length is exact as long as the result fits into a block. -/
theorem withDelimiters_eq {sum count delimiterLen : Nat}
    (room : sum + delimiterLen * (count - 1) ≤ mostChars) :
    withDelimiters (0#64 + BitVec.ofNat 64 sum) (0#64 + BitVec.ofNat 64 count) delimiterLen =
      BitVec.ofNat 64 (sum + delimiterLen * (count - 1)) := by
  unfold withDelimiters
  rw [BitVec.zero_add, BitVec.zero_add]
  unfold mostChars at room
  cases delimiterLen with
  | zero =>
      rw [Nat.zero_mul, Nat.add_zero, BitVec.zero_mul, BitVec.add_zero, ite_self]
  | succ length =>
      have few : count - 1 ≤ (length + 1) * (count - 1) := Nat.le_mul_of_pos_left _ (Nat.succ_pos _)
      have isCount : (BitVec.ofNat 64 count).toNat = count := by
        rw [BitVec.toNat_ofNat, Nat.mod_eq_of_lt (by omega)]
      by_cases many : 1 < count
      · have isMany : 1#64 < BitVec.ofNat 64 count := by
          rw [BitVec.lt_def, isCount]
          exact many
        have less : BitVec.ofNat 64 count - 1#64 = BitVec.ofNat 64 (count - 1) := by
          apply BitVec.eq_of_toNat_eq
          rw [BitVec.toNat_sub, isCount, BitVec.toNat_ofNat, BitVec.toNat_ofNat]
          omega
        rw [if_pos isMany, less, <- BitVec.ofNat_mul, <- BitVec.ofNat_add]
      · have notMany : ¬ 1#64 < BitVec.ofNat 64 count := by
          rw [BitVec.lt_def, isCount]
          exact many
        have none : count - 1 = 0 := by omega
        rw [if_neg notMany, none, Nat.mul_zero, Nat.add_zero]

theorem sum_toNat_le (words : List Word) : words.sum.toNat ≤ (words.map BitVec.toNat).sum := by
  induction words with
  | nil => exact Nat.le_refl 0
  | cons word words bounded =>
      rw [List.sum_cons, List.map_cons, List.sum_cons, BitVec.toNat_add]
      exact Nat.le_trans (Nat.mod_le _ _) (Nat.add_le_add_left bounded _)

end Lengths

section Lists

/-! ## JOIN of a list of strings -/

/-- A list of strings, each with the place to which its pointer points. -/
structure StringListAt (heap : Heap) (header : Nat) (records : List Nat)
    (strings : List (StringPlace × List (BitVec 32))) : Prop where
  chain : Chains.Chain heap.next (heap.headers header).head records
  elements : List.Forall₂ (HoldsString heap) records strings

/-- A string behind the conversion to bytes and back. -/
def throughBytes (charSigned : Bool) (characters : List (BitVec 32)) : List (BitVec 32) :=
  stdStringToBcpl charSigned (bcplToStdString characters)

/-- The texts of the elements with a delimiter between them. -/
def joinedText (delimiter : List (BitVec 32)) (strings : List (StringPlace × List (BitVec 32))) :
    List (BitVec 32) :=
  delimiter.intercalate (strings.map Prod.snd)

/-- All pointers are to the length words. -/
def Aligned (strings : List (StringPlace × List (BitVec 32))) : Prop :=
  forall string, string ∈ strings -> string.1 = .lengthWord

/-- A string with its length word, the zero behind it, and memory behind that. -/
def spelled (contents : Nat -> BitVec 32) (characters : List (BitVec 32)) : AllocatedString :=
  { lengthWord := BitVec.ofNat 64 characters.length
    payload := copyWords (Function.update contents characters.length 0#32) 0 characters }

/-- What JOIN reads through a pointer to the length word. -/
def alignedView (string : StringPlace × List (BitVec 32)) : Word × List (BitVec 32) :=
  (BitVec.ofNat 64 string.2.length, string.2 ++ [0#32])

variable {charSigned : Bool} {contents : Nat -> BitVec 32} {heap : Heap} {header fuel : Nat}
  {records : List Nat} {strings : List (StringPlace × List (BitVec 32))}
  {delimiter : List (BitVec 32)}

theorem StringListAt.types (isList : StringListAt heap header records strings) :
    forall node, node ∈ records -> (heap.nodes node).type = stringType := by
  have all := isList.elements
  clear isList
  induction all with
  | nil => exact fun node member => (List.not_mem_nil member).elim
  | cons holds _ others => exact List.forall_mem_cons.mpr ⟨holds.type, others⟩

theorem StringListAt.reads (isList : StringListAt heap header records strings)
    (aligned : Aligned strings) :
    List.Forall₂ (Reads heap) records (strings.map alignedView) := by
  have all := isList.elements
  clear isList
  induction all with
  | nil => exact List.Forall₂.nil
  | @cons node string records strings holds _ others =>
      rcases string with ⟨place, characters⟩
      have isPlace : place = .lengthWord := aligned _ List.mem_cons_self
      rw [isPlace] at holds
      exact List.Forall₂.cons (readElement_lengthWord holds)
        (others fun other member => aligned other (List.mem_cons_of_mem _ member))

theorem length_joinedText (delimiter : List (BitVec 32))
    (strings : List (StringPlace × List (BitVec 32))) :
    (joinedText delimiter strings).length =
      (strings.map fun string => string.2.length).sum + delimiter.length * (strings.length - 1) := by
  rw [joinedText, Delimiters.length_intercalate, List.map_map, List.length_map]
  rfl

theorem sum_alignedViews (strings : List (StringPlace × List (BitVec 32))) :
    ((strings.map alignedView).map Prod.fst).sum =
      BitVec.ofNat 64 (strings.map fun string => string.2.length).sum := by
  induction strings with
  | nil => rfl
  | cons string strings sums =>
      rw [List.map_cons, List.map_cons, List.sum_cons, sums, List.map_cons, List.sum_cons,
        BitVec.ofNat_add]
      rfl

/-- The characters of strings that fit into a block are taken as they are. -/
theorem taken_alignedViews {strings : List (StringPlace × List (BitVec 32))}
    (room : (strings.map fun string => string.2.length).sum < 2 ^ 64) :
    (strings.map alignedView).map taken = strings.map Prod.snd ∧
      forall view, view ∈ strings.map alignedView -> view.1.toNat ≤ view.2.length := by
  induction strings with
  | nil => exact ⟨rfl, fun view member => (List.not_mem_nil member).elim⟩
  | cons string strings others =>
      rw [List.map_cons, List.sum_cons] at room
      rcases others (by omega) with ⟨texts, inside⟩
      have length : (alignedView string).1.toNat = string.2.length :=
        (BitVec.toNat_ofNat ..).trans (Nat.mod_eq_of_lt (by omega))
      constructor
      · have here : taken (alignedView string) = string.2 := by
          rw [taken, length]
          exact List.take_left
        rw [List.map_cons, List.map_cons, texts, here, List.map_cons]
      · refine List.forall_mem_cons.mpr ⟨?_, inside⟩
        rw [length]
        exact Nat.le_trans (Nat.le_succ _) (Nat.le_of_eq (@List.length_append _ string.2 [0#32]).symm)

/-- JOIN of a list that is not empty. -/
theorem joinList_some {node : Nat} (first : (heap.headers header).head = some node) :
    heap.joinList charSigned contents fuel (some header) delimiter =
      match heap.measure fuel 0#64 0#64 (some node) with
      | none => none
      | some none => some none
      | some (some (totalLen, elementCount)) =>
          match allocatedChars contents
              (withDelimiters totalLen elementCount (throughBytes charSigned delimiter).length) with
          | none => none
          | some result =>
              (heap.copyElements (throughBytes charSigned delimiter)
                (result.lengthWord.toNat + 1) fuel result.payload 0 (some node)).map
                  fun payload => some { result with payload := payload } := by
  rw [Heap.joinList, Option.bind_some, first]
  rfl

/-- JOIN of strings behind their length words. -/
theorem joinList_aligned (isList : StringListAt heap header records strings)
    (aligned : Aligned strings)
    (room : (joinedText (throughBytes charSigned delimiter) strings).length ≤ mostChars)
    (enough : records.length ≤ fuel) :
    heap.joinList charSigned contents fuel (some header) delimiter =
      some (some (spelled contents (joinedText (throughBytes charSigned delimiter) strings))) := by
  have first := isList.chain.pointer_eq
  have count := isList.elements.length_eq
  cases records with
  | nil =>
      have empty : strings = [] := List.length_eq_zero_iff.mp count.symm
      have text : joinedText (throughBytes charSigned delimiter) strings = [] := by
        rw [empty]
        rfl
      have head : (heap.headers header).head = none := first
      rw [Heap.joinList, Option.bind_some, head, text, spelled, copyWords_nil]
      rfl
  | cons node rest =>
      have length := length_joinedText (throughBytes charSigned delimiter) strings
      have small : (strings.map fun string => string.2.length).sum < 2 ^ 64 := by
        unfold mostChars at room
        omega
      rcases taken_alignedViews small with ⟨texts, inside⟩
      have reads := isList.reads aligned
      have isChain : Chains.Chain heap.next (some node) (node :: rest) := by
        have chain := isList.chain
        rwa [first] at chain
      have text : (throughBytes charSigned delimiter).intercalate
            ((strings.map alignedView).map taken) =
          joinedText (throughBytes charSigned delimiter) strings := congrArg _ texts
      have size : (BitVec.ofNat 64
            (joinedText (throughBytes charSigned delimiter) strings).length).toNat =
          (joinedText (throughBytes charSigned delimiter) strings).length := by
        unfold mostChars at room
        rw [BitVec.toNat_ofNat, Nat.mod_eq_of_lt (by omega)]
      rw [joinList_some first, measure_eq isChain isList.types reads enough]
      dsimp only
      rw [sum_alignedViews, count, withDelimiters_eq (length ▸ room), <- length, allocatedChars,
        size, if_pos room]
      dsimp only
      rw [size, copyElements_eq isChain reads inside enough _ 0
        (by rw [text, Nat.zero_add]; exact Nat.le_succ _), text]
      rfl

/-- JOIN only ends with fuel for all elements. -/
theorem joinList_enough (isList : StringListAt heap header records strings)
    {outcome : Option AllocatedString}
    (joins : heap.joinList charSigned contents fuel (some header) delimiter = some outcome) :
    records.length ≤ fuel := by
  have first := isList.chain.pointer_eq
  cases records with
  | nil => exact Nat.zero_le fuel
  | cons node rest =>
      have isChain : Chains.Chain heap.next (some node) (node :: rest) := by
        have chain := isList.chain
        rwa [first] at chain
      rw [joinList_some first] at joins
      cases measures : heap.measure fuel 0#64 0#64 (some node) with
      | none =>
          rw [measures] at joins
          cases joins
      | some sums => exact (measure_some isChain isList.types measures).1

/-- The one result of JOIN for strings behind their length words. -/
theorem joins_aligned_iff (isList : StringListAt heap header records strings)
    (aligned : Aligned strings)
    (room : (joinedText (throughBytes charSigned delimiter) strings).length ≤ mostChars)
    (outcome : Option AllocatedString) :
    Joins charSigned contents heap (some header) delimiter outcome <->
      outcome = some (spelled contents (joinedText (throughBytes charSigned delimiter) strings)) := by
  constructor
  · rintro ⟨fuel, joins⟩
    rw [joinList_aligned isList aligned room (joinList_enough isList joins)] at joins
    injection joins with same
    exact same.symm
  · rintro rfl
    exact ⟨records.length, joinList_aligned isList aligned room (Nat.le_refl _)⟩

/-- What JOIN reads of an element is no longer than its string, and shorter unless the
pointer is to the length word. -/
theorem StringListAt.views_le (isList : StringListAt heap header records strings)
    {views : List (Word × List (BitVec 32))} (reads : List.Forall₂ (Reads heap) records views)
    (inside : forall view, view ∈ views -> view.1.toNat ≤ view.2.length) :
    List.Forall₂ (fun view string => view.1.toNat ≤ string.2.length ∧
      (string.2.length ≤ view.1.toNat -> string.1 = .lengthWord)) views strings := by
  have all := isList.elements
  clear isList
  induction all generalizing views with
  | nil =>
      cases reads
      exact List.Forall₂.nil
  | @cons node string records strings holds _ others =>
      cases reads with
      | @cons _ view _ views read later =>
          refine List.Forall₂.cons ?_
            (others later fun other member => inside other (List.mem_cons_of_mem _ member))
          have bounded := inside view List.mem_cons_self
          have isRead : heap.readElement node = some view := read
          rcases string with ⟨place, characters⟩
          cases place with
          | lengthWord =>
              rw [readElement_lengthWord holds] at isRead
              injection isRead with isView
              refine ⟨?_, fun _ => rfl⟩
              rw [<- isView, BitVec.toNat_ofNat]
              exact Nat.mod_le _ _
          | firstCharacter =>
              have shorter := readElement_firstCharacter holds isRead
              dsimp only
              constructor
              · omega
              · intro longer
                omega

/-- Elements that are read to the end are behind their length words. -/
theorem aligned_of_sum {views : List (Word × List (BitVec 32))}
    (bounded : List.Forall₂ (fun view string => view.1.toNat ≤ string.2.length ∧
      (string.2.length ≤ view.1.toNat -> string.1 = StringPlace.lengthWord)) views strings) :
    (views.map fun view => view.1.toNat).sum ≤ (strings.map fun string => string.2.length).sum ∧
      ((strings.map fun string => string.2.length).sum ≤
        (views.map fun view => view.1.toNat).sum -> Aligned strings) := by
  induction bounded with
  | nil => exact ⟨Nat.le_refl 0, fun _ string member => (List.not_mem_nil member).elim⟩
  | cons one _ others =>
      simp only [List.map_cons, List.sum_cons]
      rcases one with ⟨here, isHere⟩
      rcases others with ⟨later, areLater⟩
      constructor
      · omega
      · intro whole
        exact List.forall_mem_cons.mpr ⟨isHere (by omega), areLater (by omega)⟩

/-- A length word that is right comes from pointers to length words, and from a text that
fits into a block. -/
theorem aligned_of_joins (isList : StringListAt heap header records strings)
    {result : AllocatedString}
    (joins : heap.joinList charSigned contents fuel (some header) delimiter = some (some result))
    (length : result.lengthWord.toNat =
      (joinedText (throughBytes charSigned delimiter) strings).length) :
    Aligned strings ∧
      (joinedText (throughBytes charSigned delimiter) strings).length ≤ mostChars := by
  have first := isList.chain.pointer_eq
  have count := isList.elements.length_eq
  have exact_ := length_joinedText (throughBytes charSigned delimiter) strings
  cases records with
  | nil =>
      have empty : strings = [] := List.length_eq_zero_iff.mp count.symm
      rw [empty]
      exact ⟨fun string member => (List.not_mem_nil member).elim, Nat.zero_le mostChars⟩
  | cons node rest =>
      have isChain : Chains.Chain heap.next (some node) (node :: rest) := by
        have chain := isList.chain
        rwa [first] at chain
      rw [joinList_some first] at joins
      cases measures : heap.measure fuel 0#64 0#64 (some node) with
      | none =>
          rw [measures] at joins
          cases joins
      | some sums =>
          rw [measures] at joins
          cases sums with
          | none => cases joins
          | some sums =>
              rcases measure_some isChain isList.types measures with ⟨enough, views, reads⟩
              rw [measure_eq isChain isList.types reads enough] at measures
              injection measures with measures
              injection measures with isSums
              rw [<- isSums] at joins
              dsimp only at joins
              have bounded := withDelimiters_le (0#64 + (views.map Prod.fst).sum)
                (node :: rest).length (throughBytes charSigned delimiter).length
              generalize withDelimiters (0#64 + (views.map Prod.fst).sum)
                (0#64 + BitVec.ofNat 64 (node :: rest).length)
                (throughBytes charSigned delimiter).length = requested at joins bounded
              by_cases fits : requested.toNat ≤ mostChars
              · rw [allocatedChars, if_pos fits] at joins
                dsimp only at joins
                rcases Option.map_eq_some_iff.mp joins with ⟨payload, copies, isResult⟩
                injection isResult with isResult
                rw [<- isResult] at length
                dsimp only at length
                have inside := copyElements_reads isChain reads copies
                rcases aligned_of_sum (isList.views_le reads inside) with ⟨_, areAligned⟩
                refine ⟨areAligned ?_, length ▸ fits⟩
                have sums := sum_toNat_le (views.map Prod.fst)
                rw [List.map_map] at sums
                rw [BitVec.zero_add, count] at bounded
                have same : (views.map (BitVec.toNat ∘ Prod.fst)).sum =
                    (views.map fun view => view.1.toNat).sum := rfl
                omega
              · rw [allocatedChars, if_neg fits] at joins
                cases joins

end Lists

end Runtime
end NewBcpl
