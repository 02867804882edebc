import NewBcpl.Foundations.Delimiters
import NewBcpl.Runtime.PackedStrings
import NewBcpl.Runtime.StringReadBack

namespace NewBcpl
namespace Runtime

open Foundations

/-!
# SPLIT and JOIN

`BCPL_SPLIT_STRING` converts its strings to bytes, cuts the text at the delimiter and appends
a string for each token. `BCPL_JOIN_LIST` adds up the length words of the elements, allocates
the result and copies the elements into it. What it reads through a stored pointer are the
32-bit words of a string from there on.
-/

section Split

/-! ## SPLIT -/

/-- `std::string::find`, from a position on. -/
def find (text delimiter : List (BitVec 8)) (position : Nat) : Option Nat :=
  if position ≤ text.length then
    (Delimiters.firstIn delimiter (text.drop position)).map fun place => position + place
  else none

theorem find_some {text delimiter : List (BitVec 8)} {position finish : Nat}
    (found : find text delimiter position = some finish) :
    position ≤ finish ∧ finish + delimiter.length ≤ text.length := by
  unfold find at found
  split at found
  · rcases Option.map_eq_some_iff.mp found with ⟨place, first, rfl⟩
    have inside := Delimiters.firstIn_some first
    rw [List.length_drop] at inside
    constructor <;> omega
  · cases found

/-- The loop of SPLIT: the tokens from a position on. -/
def tokensFrom (text delimiter : List (BitVec 8)) (nonempty : delimiter ≠ []) (start : Nat) :
    List (List (BitVec 8)) :=
  match _found : find text delimiter start with
  | some finish =>
      (text.drop start).take (finish - start) ::
        tokensFrom text delimiter nonempty (finish + delimiter.length)
  | none => [text.drop start]
termination_by text.length - start
decreasing_by
  have positive := List.length_pos_of_ne_nil nonempty
  have bounds := find_some _found
  omega

/-- The strings that `BCPL_SPLIT_STRING` appends. -/
def splitTokens (charSigned : Bool) (source delimiter : List (BitVec 32)) :
    List (List (BitVec 32)) :=
  let text := bcplToStdString source
  let separator := bcplToStdString delimiter
  if nonempty : separator ≠ [] then
    (tokensFrom text separator nonempty 0).map (stdStringToBcpl charSigned)
  else text.map fun character => stdStringToBcpl charSigned [character]

/-- `BCPL_SPLIT_STRING`: a new list, and the appends of the tokens. -/
def Splits (image : Image) (charSigned : Bool) (heap : Heap)
    (source delimiter : List (BitVec 32)) (result : Nat) (after : Heap) : Prop :=
  exists created, Performs image heap .createEmpty (some result) created ∧
    AppendsPieces image result created (splitTokens charSigned source delimiter) after

end Split

section Join

/-! ## JOIN -/

/-- The most characters whose block has a size below 2^64. -/
def mostChars : Nat := 2 ^ 62 - 4

/-- `bcpl_alloc_chars` on memory with the given contents. For more characters the size wraps
around, and the block does not hold them. -/
def allocatedChars (contents : Nat -> BitVec 32) (numChars : Word) : Option AllocatedString :=
  if numChars.toNat ≤ mostChars then
    some
      { lengthWord := numChars
        payload := Function.update contents numChars.toNat 0#32 }
  else none

/-- `memcpy` into a payload. -/
def copyWords (payload : Nat -> BitVec 32) (position : Nat) (words : List (BitVec 32)) :
    Nat -> BitVec 32 :=
  fun place =>
    if position ≤ place then words[place - position]?.getD (payload place) else payload place

namespace Heap

/-- `base_ptr[0]` of an element, and the words behind it. -/
def readElement (heap : Heap) (node : Nat) : Option (Word × List (BitVec 32)) :=
  match (heap.nodes node).value with
  | .string (some pointer) =>
      match heap.strings pointer.block with
      | some block =>
          match block.wordsFrom pointer.place with
          | low :: high :: payload => some (high ++ low, payload)
          | _ => none
      | none => none
  | _ => none

/-- The first pass of JOIN, from the sums so far: the total length and the number of the
elements, or the null pointer at an element of another type. -/
def measure (heap : Heap) : Nat -> Word -> Word -> Option Nat -> Option (Option (Word × Word))
  | _, totalLen, elementCount, none => some (some (totalLen, elementCount))
  | 0, _, _, some _ => none
  | fuel + 1, totalLen, elementCount, some node =>
      if (heap.nodes node).type = stringType then
        match heap.readElement node with
        | some (elementLen, _) =>
            heap.measure fuel (totalLen + elementLen) (elementCount + 1#64) (heap.next node)
        | none => none
      else some none

/-- The second pass of JOIN, from a cursor on. It has no meaning where it reads behind the
end of a string or writes behind the end of the result. -/
def copyElements (heap : Heap) (delimiter : List (BitVec 32)) (size : Nat) :
    Nat -> (Nat -> BitVec 32) -> Nat -> Option Nat -> Option (Nat -> BitVec 32)
  | _, payload, _, none => some payload
  | 0, _, _, some _ => none
  | fuel + 1, payload, cursor, some node =>
      match heap.readElement node with
      | some (elementLen, words) =>
          let element := words.take elementLen.toNat
          let separator := if heap.next node = none then [] else delimiter
          let behind := cursor + element.length + separator.length
          if elementLen.toNat ≤ words.length ∧ behind ≤ size then
            heap.copyElements delimiter size fuel
              (copyWords (copyWords payload cursor element) (cursor + element.length) separator)
              behind (heap.next node)
          else none
      | none => none

/-- `BCPL_JOIN_LIST`: a string, or the null pointer. -/
def joinList (charSigned : Bool) (contents : Nat -> BitVec 32) (fuel : Nat) (heap : Heap)
    (list : Option Nat) (delimiterPayload : List (BitVec 32)) :
    Option (Option AllocatedString) :=
  match list.bind fun header => (heap.headers header).head with
  | none => some (allocatedChars contents 0#64)
  | some first =>
      let delimiter := stdStringToBcpl charSigned (bcplToStdString delimiterPayload)
      match heap.measure fuel 0#64 0#64 (some first) with
      | none => none
      | some none => some none
      | some (some (totalLen, elementCount)) =>
          let withDelimiters :=
            if 1#64 < elementCount then
              totalLen + BitVec.ofNat 64 delimiter.length * (elementCount - 1#64)
            else totalLen
          match allocatedChars contents withDelimiters with
          | none => none
          | some result =>
              (heap.copyElements delimiter (result.lengthWord.toNat + 1) fuel result.payload 0
                (some first)).map fun payload => some { result with payload := payload }

end Heap

/-- JOIN ends with the result. -/
def Joins (charSigned : Bool) (contents : Nat -> BitVec 32) (heap : Heap) (list : Option Nat)
    (delimiter : List (BitVec 32)) (result : Option AllocatedString) : Prop :=
  exists fuel, heap.joinList charSigned contents fuel list delimiter = some result

end Join

end Runtime
end NewBcpl
