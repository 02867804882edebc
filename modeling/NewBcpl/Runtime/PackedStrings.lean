import Mathlib.Logic.Function.Basic
import NewBcpl.Foundations.Utf8

namespace NewBcpl
namespace Runtime

open Foundations

/-!
# Packed strings

`PACKSTRING` counts the bytes of a string, allocates a vector of as many words and writes
the bytes into it; `UNPACKSTRING` takes the length word of a vector for the number of its
bytes, counts the characters and decodes them. The counter of the loops over a string is
an `int`, and where it would go past its range the source has no meaning.
-/

section Bytes

/-! ## Characters and bytes -/

/-- `encode_utf8_char`: the bytes that are written. -/
def encodeUtf8Char (codepoint : BitVec 32) : List (BitVec 8) :=
  if codepoint < 0x80#32 then [codepoint.setWidth 8]
  else if codepoint < 0x800#32 then
    [(0xC0#32 ||| ((codepoint >>> 6) &&& 0x1F#32)).setWidth 8,
      (0x80#32 ||| (codepoint &&& 0x3F#32)).setWidth 8]
  else if codepoint < 0x10000#32 then
    [(0xE0#32 ||| ((codepoint >>> 12) &&& 0x0F#32)).setWidth 8,
      (0x80#32 ||| ((codepoint >>> 6) &&& 0x3F#32)).setWidth 8,
      (0x80#32 ||| (codepoint &&& 0x3F#32)).setWidth 8]
  else if codepoint ≤ 0x10FFFF#32 then
    [(0xF0#32 ||| ((codepoint >>> 18) &&& 0x07#32)).setWidth 8,
      (0x80#32 ||| ((codepoint >>> 12) &&& 0x3F#32)).setWidth 8,
      (0x80#32 ||| ((codepoint >>> 6) &&& 0x3F#32)).setWidth 8,
      (0x80#32 ||| (codepoint &&& 0x3F#32)).setWidth 8]
  else [0xEF#8, 0xBF#8, 0xBD#8]

/-- What `PACKSTRING` counts for a character. -/
def countedBytes (ch : BitVec 32) : Nat :=
  if ch < 0x80#32 then 1
  else if ch < 0x800#32 then 2
  else if ch < 0x10000#32 then 3
  else 4

/-- The replacement character. -/
def replacementCharacter : BitVec 32 := 0xFFFD#32

/-- The continuation bytes of a sequence: the code point, or nothing at a byte that is
missing or is not a continuation byte; and the next position. -/
def readContinuations (bytes : Nat -> BitVec 8) (finish : Nat) :
    Nat -> BitVec 32 -> Nat -> Option (BitVec 32) × Nat
  | 0, c, p => (some c, p)
  | extraBytes + 1, c, p =>
      if p ≥ finish ∨ bytes p &&& 0xC0#8 ≠ 0x80#8 then (none, p)
      else
        readContinuations bytes finish extraBytes
          ((c <<< 6) ||| ((bytes p).setWidth 32 &&& 0x3F#32)) (p + 1)

/-- The end of a multi-byte sequence, with the check for overlong encodings, surrogates and
code points out of range. -/
def finishSequence (minCode : BitVec 32) : Option (BitVec 32) × Nat -> BitVec 32 × Nat
  | (none, p) => (replacementCharacter, p)
  | (some c, p) =>
      if c < minCode ∨ (0xD800#32 ≤ c ∧ c ≤ 0xDFFF#32) ∨ c > 0x10FFFF#32 then
        (replacementCharacter, p)
      else (c, p)

/-- `decode_utf8_char`: the code point and the next position. -/
def decodeUtf8Char (bytes : Nat -> BitVec 8) (finish p : Nat) : BitVec 32 × Nat :=
  if p ≥ finish then (0#32, p)
  else
    let c := (bytes p).setWidth 32
    if c &&& 0x80#32 = 0#32 then (c, p + 1)
    else if c &&& 0xE0#32 = 0xC0#32 then
      finishSequence 0x80#32 (readContinuations bytes finish 1 (c &&& 0x1F#32) (p + 1))
    else if c &&& 0xF0#32 = 0xE0#32 then
      finishSequence 0x800#32 (readContinuations bytes finish 2 (c &&& 0x0F#32) (p + 1))
    else if c &&& 0xF8#32 = 0xF0#32 then
      finishSequence 0x10000#32 (readContinuations bytes finish 3 (c &&& 0x07#32) (p + 1))
    else (replacementCharacter, p + 1)

end Bytes

section Memory

/-! ## Allocation -/

/-- The four definitions of the allocation functions. -/
inductive Build where
  | standaloneRuntime | heapBridge | heapInterfaceJit | heapInterfaceStandalone
  deriving DecidableEq, Repr

/-- What the allocator of the system gives for a number of words or characters: the
content of fresh memory, or nothing. -/
structure Allocator where
  words : Nat -> Option (Nat -> BitVec 8)
  chars : Nat -> Option (Nat -> BitVec 32)

/-- A vector with its length word; the payload is used as bytes. -/
structure PackedVector where
  lengthWord : BitVec 64
  payload : Nat -> BitVec 8

/-- A string that was allocated, with its length word. -/
structure AllocatedString where
  lengthWord : BitVec 64
  payload : Nat -> BitVec 32

/-- A string of a program: characters up to a zero. -/
structure BcplString where
  characters : List (BitVec 32)
  nonzero : forall ch, ch ∈ characters -> ch ≠ 0#32

/-- `bcpl_alloc_words`; three of the four definitions refuse a number that is not
positive. -/
def bcplAllocWords (build : Build) (allocator : Allocator) (numWords : Nat) :
    Option PackedVector :=
  if numWords = 0 ∧ build ≠ .heapInterfaceStandalone then none
  else (allocator.words numWords).map fun payload =>
    { lengthWord := BitVec.ofNat 64 numWords, payload := payload }

/-- `bcpl_alloc_chars`. -/
def bcplAllocChars (allocator : Allocator) (numChars : Nat) : Option AllocatedString :=
  (allocator.chars numChars).map fun payload =>
    { lengthWord := BitVec.ofNat 64 numChars, payload := payload }

end Memory

section Functions

/-! ## The functions -/

/-- The next value of an `int` counter, if there is one. -/
def nextIndex (i : Nat) : Option Nat :=
  if i + 1 < 2 ^ 31 then some (i + 1) else none

/-- The first loop of `PACKSTRING`: how many bytes the characters take. -/
def countBytes : Nat -> List (BitVec 32) -> Nat -> Option Nat
  | _, [], byteLen => some byteLen
  | i, ch :: rest, byteLen => do
      let next <- nextIndex i
      countBytes next rest (byteLen + countedBytes ch)

/-- Bytes written from a position on. -/
def storeBytes (payload : Nat -> BitVec 8) (position : Nat) :
    List (BitVec 8) -> Nat -> BitVec 8
  | [] => payload
  | byte :: bytes => storeBytes (Function.update payload position byte) (position + 1) bytes

/-- The second loop of `PACKSTRING`: the payload and where the pointer stands. -/
def writeBytes : Nat -> List (BitVec 32) -> (Nat -> BitVec 8) -> Nat ->
    Option ((Nat -> BitVec 8) × Nat)
  | _, [], payload, ptr => some (payload, ptr)
  | i, ch :: rest, payload, ptr => do
      let next <- nextIndex i
      writeBytes next rest (storeBytes payload ptr (encodeUtf8Char ch))
        (ptr + (encodeUtf8Char ch).length)

/-- `PACKSTRING`: nothing where the source has no meaning, and otherwise a vector or the
null pointer. -/
def packString (build : Build) (allocator : Allocator) (bcplString : BcplString) :
    Option (Option PackedVector) := do
  let byteLen <- countBytes 0 bcplString.characters 0
  match bcplAllocWords build allocator byteLen with
  | none => some none
  | some vector =>
      let (payload, _) <- writeBytes 0 bcplString.characters vector.payload 0
      some (some { vector with payload := payload })

theorem readContinuations_advances (bytes : Nat -> BitVec 8) (finish extraBytes : Nat)
    (c : BitVec 32) (p : Nat) : p ≤ (readContinuations bytes finish extraBytes c p).2 := by
  induction extraBytes generalizing c p with
  | zero => exact Nat.le_refl p
  | succ extraBytes advances =>
      unfold readContinuations
      split
      · exact Nat.le_refl p
      · exact Nat.le_of_succ_le (advances _ (p + 1))

theorem finishSequence_position (minCode : BitVec 32) (sequence : Option (BitVec 32) × Nat) :
    (finishSequence minCode sequence).2 = sequence.2 := by
  rcases sequence with ⟨_ | c, p⟩
  · rfl
  · simp only [finishSequence]
    split <;> rfl

/-- Decoding moves on. -/
theorem decodeUtf8Char_advances (bytes : Nat -> BitVec 8) {finish p : Nat}
    (inside : p < finish) : p < (decodeUtf8Char bytes finish p).2 := by
  have continues := readContinuations_advances bytes finish
  unfold decodeUtf8Char
  rw [if_neg (Nat.not_le.mpr inside)]
  dsimp only
  split
  · exact Nat.lt_succ_self p
  split
  · rw [finishSequence_position]
    exact continues 1 _ (p + 1)
  split
  · rw [finishSequence_position]
    exact continues 2 _ (p + 1)
  split
  · rw [finishSequence_position]
    exact continues 3 _ (p + 1)
  · exact Nat.lt_succ_self p

/-- The first loop of `UNPACKSTRING`: how many characters the bytes spell. -/
def countChars (bytes : Nat -> BitVec 8) (finish p charCount : Nat) : Nat :=
  if p < finish then
    countChars bytes finish (decodeUtf8Char bytes finish p).2 (charCount + 1)
  else charCount
termination_by finish - p
decreasing_by
  have moves := decodeUtf8Char_advances bytes ‹p < finish›
  omega

/-- The second loop of `UNPACKSTRING`, with the number of characters that are left. -/
def decodeChars (bytes : Nat -> BitVec 8) (finish : Nat) :
    Nat -> Nat -> Nat -> (Nat -> BitVec 32) -> Nat -> BitVec 32
  | 0, _, _, payload => payload
  | left + 1, i, p, payload =>
      if p < finish then
        decodeChars bytes finish left (i + 1) (decodeUtf8Char bytes finish p).2
          (Function.update payload i (decodeUtf8Char bytes finish p).1)
      else payload

/-- `UNPACKSTRING`; the null pointer gives the null pointer. -/
def unpackString (allocator : Allocator) (byteVector : Option PackedVector) :
    Option AllocatedString := do
  let vector <- byteVector
  let byteLen := vector.lengthWord.toNat
  let charCount := countChars vector.payload byteLen 0 0
  let unpacked <- bcplAllocChars allocator charCount
  let decoded := decodeChars vector.payload byteLen charCount 0 0 unpacked.payload
  some { unpacked with payload := Function.update decoded charCount 0#32 }

end Functions

end Runtime
end NewBcpl
