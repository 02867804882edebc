import Mathlib.Tactic.SplitIfs
import NewBcpl.Foundations.Utf8Words
import NewBcpl.Runtime.PackedStrings

namespace NewBcpl
namespace Runtime

open Foundations
open Utf8

/-!
# Packing and unpacking

The encoder writes the bytes that UTF-8 has for a code point, and the decoder reads them
back, byte by byte, with the position of the encoder. Over a whole string the number of
bytes that was counted is the number of bytes that is written if and only if every
character is a code point, and the string comes back unless it is empty, too long for the
counter of the loops, or memory is lacking.
-/

section Encoding

/-! ## The bytes of a code point -/

/-- The encoder chooses the class of the code point. -/
theorem encodeUtf8Char_eq {codepoint : BitVec 32} (bounded : codepoint.toNat ≤ 0x10FFFF) :
    encodeUtf8Char codepoint = wordBytes codepoint (extraBytes codepoint.toNat) := by
  unfold encodeUtf8Char
  simp only [BitVec.lt_def, BitVec.le_def, BitVec.toNat_ofNat]
  rcases lead_cases bounded with ⟨extra, below, _⟩ | ⟨extra, above, below, _⟩ |
    ⟨extra, above, below, _⟩ | ⟨extra, above, below, _⟩
  · rw [extra, if_pos (by omega)]
    rfl
  · rw [extra, if_neg (by omega), if_pos (by omega)]
    rfl
  · rw [extra, if_neg (by omega), if_neg (by omega), if_pos (by omega)]
    rfl
  · rw [extra, if_neg (by omega), if_neg (by omega), if_neg (by omega), if_pos (by omega)]
    rfl

/-- The encoder writes the bytes of the code point. -/
theorem encodeUtf8Char_toNat {codepoint : BitVec 32} (bounded : codepoint.toNat ≤ 0x10FFFF) :
    (encodeUtf8Char codepoint).map BitVec.toNat = encoded codepoint.toNat := by
  rw [encodeUtf8Char_eq bounded]
  exact wordBytes_toNat (by decide) bounded

/-- The encoder writes as many bytes as are counted for code points, and one less for
every other number. -/
theorem length_encodeUtf8Char (codepoint : BitVec 32) :
    (encodeUtf8Char codepoint).length =
      if codepoint.toNat ≤ 0x10FFFF then countedBytes codepoint
      else countedBytes codepoint - 1 := by
  unfold encodeUtf8Char countedBytes
  simp only [BitVec.lt_def, BitVec.le_def, BitVec.toNat_ofNat]
  split_ifs <;> first | rfl | omega

end Encoding

section Decoding

/-! ## Reading a code point back -/

/-- From a position on the bytes are the given numbers. -/
def Spells (bytes : Nat -> BitVec 8) : Nat -> List Nat -> Prop
  | _, [] => True
  | p, number :: numbers => (bytes p).toNat = number ∧ Spells bytes (p + 1) numbers

/-- The continuation bytes are read one digit at a time. -/
theorem readContinuations_spelled {bytes : Nat -> BitVec 8} {finish codePoint : Nat}
    (bounded : codePoint ≤ 0x10FFFF) (count : Nat) {c : BitVec 32} {p : Nat}
    (digits : c.toNat = codePoint / 64 ^ count)
    (spelled : Spells bytes p (continuations codePoint count)) (inside : p + count ≤ finish) :
    readContinuations bytes finish count c p = (some (BitVec.ofNat 32 codePoint), p + count) := by
  induction count generalizing c p with
  | zero =>
      rw [Nat.pow_zero, Nat.div_one] at digits
      rw [readContinuations, <- digits, BitVec.ofNat_toNat, BitVec.setWidth_eq, Nat.add_zero]
  | succ count reads =>
      rcases spelled with ⟨byte, spelled⟩
      rcases continuation_digit codePoint count with ⟨above, below, digit⟩
      rw [<- byte] at above below digit
      have isContinuation := (continuation_byte_iff (bytes p)).mpr ⟨above, below⟩
      have small : c.toNat ≤ codePoint := digits ▸ Nat.div_le_self _ _
      have continues : ¬ (p ≥ finish ∨ bytes p &&& 0xC0#8 ≠ 0x80#8) := by
        rintro (late | other)
        · omega
        · exact other isContinuation
      rw [readContinuations, if_neg continues]
      have next : ((c <<< 6) ||| ((bytes p).setWidth 32 &&& 0x3F#32)).toNat =
          codePoint / 64 ^ count := by
        rw [appended_toNat c (bytes p) (by omega), digit, digits]
        exact digit_step codePoint count
      rw [reads next spelled (by omega)]
      exact congrArg _ (by omega)

/-- A scalar passes the checks at the end of a sequence. -/
theorem finishSequence_scalar {codePoint p : Nat} (minCode : BitVec 32)
    (scalar : IsScalar codePoint) (large : minCode.toNat ≤ codePoint) :
    finishSequence minCode (some (BitVec.ofNat 32 codePoint), p) =
      (BitVec.ofNat 32 codePoint, p) := by
  have bounded : codePoint < 2 ^ 32 := by
    rcases scalar with below | ⟨_, below⟩ <;> omega
  simp only [finishSequence]
  apply if_neg
  simp only [BitVec.lt_def, BitVec.le_def, gt_iff_lt, BitVec.toNat_ofNat,
    Nat.mod_eq_of_lt bounded]
  rcases scalar with below | ⟨above, below⟩ <;> omega

/-- The decoder reads the bytes of a scalar back and stands behind them. -/
theorem decodeUtf8Char_encoded {bytes : Nat -> BitVec 8} {finish p codePoint : Nat}
    (scalar : IsScalar codePoint) (spelled : Spells bytes p (encoded codePoint))
    (inside : p + (encoded codePoint).length ≤ finish) :
    decodeUtf8Char bytes finish p =
      (BitVec.ofNat 32 codePoint, p + (encoded codePoint).length) := by
  have bounded : codePoint ≤ 0x10FFFF := by
    rcases scalar with below | ⟨_, below⟩ <;> omega
  rcases spelled with ⟨byte, spelled⟩
  rw [length_encoded] at inside
  have open_ : ¬ p ≥ finish := by omega
  rw [length_encoded, decodeUtf8Char, if_neg open_]
  dsimp only
  rcases lead_cases bounded with ⟨extra, below, first⟩ | ⟨extra, above, below, first⟩ |
    ⟨extra, above, below, first⟩ | ⟨extra, above, below, first⟩
  · rw [first] at byte
    rw [if_pos (ascii_byte (bytes p) (by omega)), extra, <- byte, BitVec.ofNat_toNat]
  · rw [first] at byte
    rw [extra] at spelled inside
    rcases lead_two (bytes p) (by omega) (by omega) with ⟨notAscii, isTwo, payload⟩
    have digits : ((bytes p).setWidth 32 &&& 0x1F#32).toNat = codePoint / 64 ^ 1 := by
      rw [payload, byte]
      omega
    rw [if_neg notAscii, if_pos isTwo,
      readContinuations_spelled bounded 1 digits spelled (by omega),
      finishSequence_scalar 0x80#32 scalar above, extra]
  · rw [first] at byte
    rw [extra] at spelled inside
    rcases lead_three (bytes p) (by omega) (by omega) with ⟨notAscii, notTwo, isThree, payload⟩
    have digits : ((bytes p).setWidth 32 &&& 0x0F#32).toNat = codePoint / 64 ^ 2 := by
      rw [payload, byte]
      omega
    rw [if_neg notAscii, if_neg notTwo, if_pos isThree,
      readContinuations_spelled bounded 2 digits spelled (by omega),
      finishSequence_scalar 0x800#32 scalar above, extra, Nat.add_assoc, Nat.add_comm 1 2]
  · rw [first] at byte
    rw [extra] at spelled inside
    rcases lead_four (bytes p) (by omega) (by omega) with
      ⟨notAscii, notTwo, notThree, isFour, payload⟩
    have digits : ((bytes p).setWidth 32 &&& 0x07#32).toNat = codePoint / 64 ^ 3 := by
      rw [payload, byte]
      omega
    rw [if_neg notAscii, if_neg notTwo, if_neg notThree, if_pos isFour,
      readContinuations_spelled bounded 3 digits spelled (by omega),
      finishSequence_scalar 0x10000#32 scalar above, extra, Nat.add_assoc, Nat.add_comm 1 3]

end Decoding

section Strings

/-! ## Whole strings -/

/-- The bytes that are counted for characters. -/
def totalCounted (characters : List (BitVec 32)) : Nat := (characters.map countedBytes).sum

/-- The bytes that are written for characters. -/
def totalWritten (characters : List (BitVec 32)) : Nat :=
  (characters.map fun ch => (encodeUtf8Char ch).length).sum

theorem totalCounted_cons (ch : BitVec 32) (rest : List (BitVec 32)) :
    totalCounted (ch :: rest) = countedBytes ch + totalCounted rest := by
  rw [totalCounted, List.map_cons, List.sum_cons]
  rfl

theorem totalWritten_cons (ch : BitVec 32) (rest : List (BitVec 32)) :
    totalWritten (ch :: rest) = (encodeUtf8Char ch).length + totalWritten rest := by
  rw [totalWritten, List.map_cons, List.sum_cons]
  rfl

/-- From a position on the bytes are those of the characters. -/
def SpellsString (bytes : Nat -> BitVec 8) : Nat -> List (BitVec 32) -> Prop
  | _, [] => True
  | p, ch :: rest =>
      Spells bytes p ((encodeUtf8Char ch).map BitVec.toNat) ∧
        SpellsString bytes (p + (encodeUtf8Char ch).length) rest

theorem nextIndex_some (i : Nat) (small : i + 1 < 2 ^ 31) : nextIndex i = some (i + 1) :=
  if_pos small

theorem nextIndex_none (i : Nat) (large : ¬ i + 1 < 2 ^ 31) : nextIndex i = none :=
  if_neg large

/-- The count has a meaning if and only if the counter stays in range. -/
theorem countBytes_eq (characters : List (BitVec 32)) (i byteLen : Nat) (start : i < 2 ^ 31) :
    countBytes i characters byteLen =
      if i + characters.length < 2 ^ 31 then some (byteLen + totalCounted characters)
      else none := by
  induction characters generalizing i byteLen with
  | nil => exact (if_pos start).symm
  | cons ch rest counts =>
      rw [countBytes, List.length_cons]
      by_cases small : i + 1 < 2 ^ 31
      · have total : byteLen + totalCounted (ch :: rest) =
            byteLen + countedBytes ch + totalCounted rest := by
          rw [totalCounted_cons, Nat.add_assoc]
        rw [nextIndex_some i small, Option.bind_eq_bind, Option.bind_some, counts _ _ small,
          total, Nat.add_right_comm i 1, Nat.add_assoc i]
      · rw [nextIndex_none i small, if_neg (by omega)]
        rfl

/-- The writing of bytes changes nothing before them and behind them. -/
theorem storeBytes_outside (bytes : List (BitVec 8)) (payload : Nat -> BitVec 8)
    {position other : Nat} (outside : other < position ∨ position + bytes.length ≤ other) :
    storeBytes payload position bytes other = payload other := by
  induction bytes generalizing payload position with
  | nil => rfl
  | cons byte bytes keeps =>
      rw [List.length_cons] at outside
      rw [storeBytes, keeps _ (by omega), Function.update_of_ne (by omega)]

theorem Spells.congr {first second : Nat -> BitVec 8} {p : Nat} {numbers : List Nat}
    (spelled : Spells first p numbers)
    (same : forall q, p ≤ q -> q < p + numbers.length -> second q = first q) :
    Spells second p numbers := by
  induction numbers generalizing p with
  | nil => trivial
  | cons number numbers spells =>
      rw [List.length_cons] at same
      refine ⟨?_, spells spelled.2 fun q above below => same q (by omega) (by omega)⟩
      rw [same p (Nat.le_refl p) (by omega)]
      exact spelled.1

/-- The bytes that are written stand there. -/
theorem storeBytes_spells (bytes : List (BitVec 8)) (payload : Nat -> BitVec 8)
    (position : Nat) :
    Spells (storeBytes payload position bytes) position (bytes.map BitVec.toNat) := by
  induction bytes generalizing payload position with
  | nil => trivial
  | cons byte bytes spells =>
      refine ⟨?_, spells _ (position + 1)⟩
      rw [storeBytes, storeBytes_outside _ _ (Or.inl (Nat.lt_succ_self position)),
        Function.update_self]

/-- The second loop writes the characters one behind the other. -/
theorem writeBytes_spells (characters : List (BitVec 32)) {i : Nat} (payload : Nat -> BitVec 8)
    (ptr : Nat) (small : i + characters.length < 2 ^ 31) :
    exists written, writeBytes i characters payload ptr =
        some (written, ptr + totalWritten characters) ∧
      SpellsString written ptr characters ∧
      forall other, other < ptr -> written other = payload other := by
  induction characters generalizing i payload ptr with
  | nil => exact ⟨payload, rfl, trivial, fun _ _ => rfl⟩
  | cons ch rest writes =>
      rw [List.length_cons] at small
      have total : ptr + totalWritten (ch :: rest) =
          ptr + (encodeUtf8Char ch).length + totalWritten rest := by
        rw [totalWritten_cons, Nat.add_assoc]
      rcases writes (storeBytes payload ptr (encodeUtf8Char ch))
        (ptr + (encodeUtf8Char ch).length) (show i + 1 + rest.length < 2 ^ 31 by omega) with
        ⟨written, wrote, spelled, before⟩
      refine ⟨written, ?_, ⟨?_, spelled⟩, ?_⟩
      · rw [writeBytes, nextIndex_some i (by omega), Option.bind_eq_bind, Option.bind_some,
          wrote, total]
      · apply (storeBytes_spells (encodeUtf8Char ch) payload ptr).congr
        intro q _ below
        rw [List.length_map] at below
        exact before q below
      · intro other below
        rw [before other (by omega), storeBytes_outside _ _ (Or.inl below)]

/-- The decoder reads a character of a string back. -/
theorem decodeUtf8Char_spelled {bytes : Nat -> BitVec 8} {finish p : Nat} {ch : BitVec 32}
    (scalar : IsScalar ch.toNat)
    (spelled : Spells bytes p ((encodeUtf8Char ch).map BitVec.toNat))
    (inside : p + (encodeUtf8Char ch).length ≤ finish) :
    decodeUtf8Char bytes finish p = (ch, p + (encodeUtf8Char ch).length) := by
  have bounded : ch.toNat ≤ 0x10FFFF := by
    rcases scalar with below | ⟨_, below⟩ <;> omega
  have length : (encodeUtf8Char ch).length = (encoded ch.toNat).length := by
    rw [<- encodeUtf8Char_toNat bounded, List.length_map]
  rw [encodeUtf8Char_toNat bounded] at spelled
  rw [length] at inside
  rw [decodeUtf8Char_encoded scalar spelled inside, length, BitVec.ofNat_toNat,
    BitVec.setWidth_eq]

theorem length_encodeUtf8Char_pos (ch : BitVec 32) : 0 < (encodeUtf8Char ch).length := by
  unfold encodeUtf8Char
  split_ifs <;> exact Nat.succ_pos _

/-- The decoder counts the characters of a string. -/
theorem countChars_spelled {bytes : Nat -> BitVec 8} (characters : List (BitVec 32))
    {p : Nat} (charCount : Nat)
    (scalars : forall ch, ch ∈ characters -> IsScalar ch.toNat)
    (spelled : SpellsString bytes p characters) :
    countChars bytes (p + totalWritten characters) p charCount =
      charCount + characters.length := by
  induction characters generalizing p charCount with
  | nil =>
      rw [countChars, if_neg (by simp [totalWritten])]
      rfl
  | cons ch rest counts =>
      have positive := length_encodeUtf8Char_pos ch
      rw [totalWritten_cons, countChars, if_pos (by omega),
        decodeUtf8Char_spelled (scalars ch List.mem_cons_self) spelled.1 (by omega),
        <- Nat.add_assoc, counts _ (fun other member => scalars other
          (List.mem_cons_of_mem ch member)) spelled.2, List.length_cons]
      omega

/-- The decoder stores the characters of a string, and nothing before them. -/
theorem decodeChars_spelled {bytes : Nat -> BitVec 8} (characters : List (BitVec 32))
    {p : Nat} (i : Nat) (payload : Nat -> BitVec 32)
    (scalars : forall ch, ch ∈ characters -> IsScalar ch.toNat)
    (spelled : SpellsString bytes p characters) :
    (forall j, j < i -> decodeChars bytes (p + totalWritten characters) characters.length i p
        payload j = payload j) ∧
      forall j ch, characters[j]? = some ch ->
        decodeChars bytes (p + totalWritten characters) characters.length i p payload (i + j) =
          ch := by
  induction characters generalizing p i payload with
  | nil => exact ⟨fun _ _ => rfl, fun j ch found => by cases found⟩
  | cons ch rest decodes =>
      have positive := length_encodeUtf8Char_pos ch
      have others : forall other, other ∈ rest -> IsScalar other.toNat :=
        fun other member => scalars other (List.mem_cons_of_mem ch member)
      rcases decodes (i + 1) (Function.update payload i ch) others spelled.2 with
        ⟨before, behind⟩
      rw [totalWritten_cons, List.length_cons, decodeChars, if_pos (by omega),
        decodeUtf8Char_spelled (scalars ch List.mem_cons_self) spelled.1 (by omega),
        <- Nat.add_assoc]
      dsimp only
      constructor
      · intro j below
        rw [before j (by omega), Function.update_of_ne (by omega)]
      · intro j other found
        cases j with
        | zero =>
            injection found with same
            have stored := before i (Nat.lt_succ_self i)
            rw [Function.update_self] at stored
            exact stored.trans same
        | succ j =>
            rw [Nat.add_comm j 1, <- Nat.add_assoc]
            exact behind j other found

end Strings

section Results

/-! ## The round trip -/

/-- An allocated string is the given one, with its length word and the zero behind it. -/
structure AllocatedString.Holds (result : AllocatedString) (bcplString : BcplString) : Prop where
  length : result.lengthWord = BitVec.ofNat 64 bcplString.characters.length
  characters : forall i ch, bcplString.characters[i]? = some ch -> result.payload i = ch
  terminated : result.payload bcplString.characters.length = 0#32

/-- Packing gives a vector, and unpacking the vector gives the string. -/
def RoundTrips (build : Build) (allocator : Allocator) (bcplString : BcplString) : Prop :=
  exists vector result, packString build allocator bcplString = some (some vector) ∧
    unpackString allocator (some vector) = some result ∧ result.Holds bcplString

/-- Packing has a meaning, and its pointer ends as many bytes behind the start of the vector
as were counted. -/
def WritesCounted (bcplString : BcplString) : Prop :=
  exists byteLen, countBytes 0 bcplString.characters 0 = some byteLen ∧
    forall payload, exists written,
      writeBytes 0 bcplString.characters payload 0 = some (written, byteLen)

/-- What packing and unpacking a string need: a counter that stays in range, a vector of
at least one word unless the allocation function takes zero, and memory. -/
structure Packable (build : Build) (allocator : Allocator) (bcplString : BcplString) : Prop where
  inRange : bcplString.characters.length < 2 ^ 31
  notRefused : bcplString.characters ≠ [] ∨ build = .heapInterfaceStandalone
  words : (allocator.words (totalCounted bcplString.characters)).isSome
  chars : (allocator.chars bcplString.characters.length).isSome

variable {build : Build} {allocator : Allocator} {bcplString : BcplString}

theorem countedBytes_pos (ch : BitVec 32) : 0 < countedBytes ch := by
  unfold countedBytes
  split_ifs <;> decide

theorem totalCounted_eq_zero_iff (characters : List (BitVec 32)) :
    totalCounted characters = 0 <-> characters = [] := by
  cases characters with
  | nil => exact iff_of_true rfl rfl
  | cons ch rest =>
      have positive := countedBytes_pos ch
      rw [totalCounted_cons]
      exact iff_of_false (by omega) (List.cons_ne_nil ch rest)

theorem totalWritten_le (characters : List (BitVec 32)) :
    totalWritten characters ≤ totalCounted characters := by
  induction characters with
  | nil => exact Nat.le_refl 0
  | cons ch rest bounded =>
      have length := length_encodeUtf8Char ch
      rw [totalWritten_cons, totalCounted_cons]
      split at length <;> omega

/-- The number of bytes that are counted and written is one number if and only if all
characters are code points. -/
theorem totalWritten_eq_iff (characters : List (BitVec 32)) :
    totalWritten characters = totalCounted characters <->
      forall ch, ch ∈ characters -> ch.toNat ≤ 0x10FFFF := by
  induction characters with
  | nil => exact iff_of_true rfl fun _ member => by cases member
  | cons ch rest agree =>
      have atMost := totalWritten_le rest
      have positive := countedBytes_pos ch
      have length := length_encodeUtf8Char ch
      have both : totalWritten (ch :: rest) = totalCounted (ch :: rest) <->
          ch.toNat ≤ 0x10FFFF ∧ totalWritten rest = totalCounted rest := by
        rw [totalWritten_cons, totalCounted_cons]
        split at length <;> omega
      rw [both, List.forall_mem_cons]
      exact and_congr_right fun _ => agree

theorem totalCounted_le (characters : List (BitVec 32)) :
    totalCounted characters ≤ 4 * characters.length := by
  induction characters with
  | nil => exact Nat.le_refl 0
  | cons ch rest bounded =>
      have small : countedBytes ch ≤ 4 := by
        unfold countedBytes
        split_ifs <;> decide
      rw [totalCounted_cons, List.length_cons]
      omega

/-- Packing a string gives a vector with the counted bytes as its length and the bytes of
the characters. -/
theorem packString_spelled (packable : Packable build allocator bcplString) :
    exists vector, packString build allocator bcplString = some (some vector) ∧
      vector.lengthWord = BitVec.ofNat 64 (totalCounted bcplString.characters) ∧
      SpellsString vector.payload 0 bcplString.characters := by
  have inRange := packable.inRange
  rcases Option.isSome_iff_exists.mp packable.words with ⟨fresh, found⟩
  have notRefused : ¬ (totalCounted bcplString.characters = 0 ∧
      build ≠ .heapInterfaceStandalone) := by
    rw [totalCounted_eq_zero_iff]
    rintro ⟨isEmpty, other⟩
    exact packable.notRefused.elim (fun filled => filled isEmpty) other
  rcases writeBytes_spells bcplString.characters fresh 0 (show 0 + _ < _ by omega) with
    ⟨written, wrote, spelled, _⟩
  refine ⟨{ lengthWord := BitVec.ofNat 64 (totalCounted bcplString.characters),
            payload := written }, ?_, rfl, spelled⟩
  rw [packString, countBytes_eq _ _ _ (by decide), if_pos (by omega), Nat.zero_add]
  simp only [Option.bind_eq_bind, Option.bind_some, bcplAllocWords, if_neg notRefused, found,
    Option.map_some, wrote]

/-- A string of scalars comes back if and only if it is packable. -/
theorem roundTrips_iff
    (scalars : forall ch, ch ∈ bcplString.characters -> IsScalar ch.toNat) :
    RoundTrips build allocator bcplString <-> Packable build allocator bcplString := by
  have codePoints : forall ch, ch ∈ bcplString.characters -> ch.toNat ≤ 0x10FFFF := by
    intro ch member
    rcases scalars ch member with below | ⟨_, below⟩ <;> omega
  have agree := (totalWritten_eq_iff bcplString.characters).mpr codePoints
  have bounded := totalCounted_le bcplString.characters
  have unpacks (vector : PackedVector) (inRange : bcplString.characters.length < 2 ^ 31)
      (length : vector.lengthWord = BitVec.ofNat 64 (totalCounted bcplString.characters))
      (spelled : SpellsString vector.payload 0 bcplString.characters) :
      vector.lengthWord.toNat = 0 + totalWritten bcplString.characters ∧
        countChars vector.payload vector.lengthWord.toNat 0 0 =
          bcplString.characters.length := by
    have isLength : vector.lengthWord.toNat = 0 + totalWritten bcplString.characters := by
      rw [length, BitVec.toNat_ofNat, Nat.mod_eq_of_lt (by omega), agree, Nat.zero_add]
    refine ⟨isLength, ?_⟩
    rw [isLength, countChars_spelled _ 0 scalars spelled, Nat.zero_add]
  constructor
  · rintro ⟨vector, result, packed, unpacked, _⟩
    rw [packString, countBytes_eq _ _ _ (by decide), Nat.zero_add, Nat.zero_add] at packed
    by_cases inRange : bcplString.characters.length < 2 ^ 31
    · rw [if_pos inRange] at packed
      simp only [Option.bind_eq_bind, Option.bind_some, bcplAllocWords] at packed
      by_cases refused : totalCounted bcplString.characters = 0 ∧
          build ≠ .heapInterfaceStandalone
      · simp only [if_pos refused] at packed
        cases packed
      · simp only [if_neg refused] at packed
        cases found : allocator.words (totalCounted bcplString.characters) with
        | none =>
            simp only [found, Option.map_none] at packed
            cases packed
        | some fresh =>
            rcases writeBytes_spells bcplString.characters fresh 0
              (show 0 + _ < _ by omega) with ⟨written, wrote, spelled, _⟩
            simp only [found, Option.map_some, wrote, Option.bind_some, Option.some.injEq]
              at packed
            have length : vector.lengthWord =
                BitVec.ofNat 64 (totalCounted bcplString.characters) := by rw [<- packed]
            have payload : vector.payload = written := by rw [<- packed]
            rcases unpacks vector inRange length (payload ▸ spelled) with ⟨_, counted⟩
            refine ⟨inRange, ?_, by rw [found]; rfl, ?_⟩
            · rw [totalCounted_eq_zero_iff] at refused
              by_cases isEmpty : bcplString.characters = []
              · exact Or.inr (not_not.mp fun other => refused ⟨isEmpty, other⟩)
              · exact Or.inl isEmpty
            · simp only [unpackString, Option.bind_eq_bind, Option.bind_some, counted,
                bcplAllocChars] at unpacked
              cases room : allocator.chars bcplString.characters.length with
              | none =>
                  rw [room] at unpacked
                  cases unpacked
              | some _ => rfl
    · rw [if_neg inRange] at packed
      cases packed
  · intro packable
    rcases packString_spelled packable with ⟨vector, packed, length, spelled⟩
    rcases unpacks vector packable.inRange length spelled with ⟨isLength, counted⟩
    rcases Option.isSome_iff_exists.mp packable.chars with ⟨fresh, room⟩
    rcases decodeChars_spelled bcplString.characters 0 fresh scalars spelled with ⟨_, decoded⟩
    refine ⟨vector,
      { lengthWord := BitVec.ofNat 64 bcplString.characters.length
        payload := Function.update
          (decodeChars vector.payload vector.lengthWord.toNat bcplString.characters.length 0 0
            fresh) bcplString.characters.length 0#32 }, packed, ?_, ?_⟩
    · simp only [unpackString, Option.bind_eq_bind, Option.bind_some, counted, bcplAllocChars,
        room, Option.map_some]
    · refine ⟨rfl, ?_, Function.update_self _ _ _⟩
      intro i ch found
      have below : i < bcplString.characters.length := (List.getElem?_eq_some_iff.mp found).1
      dsimp only
      rw [Function.update_of_ne (Nat.ne_of_lt below), isLength]
      have stored := decoded i ch found
      rwa [Nat.zero_add i] at stored

/-- The bytes that are counted are written if and only if the counter stays in range and
all characters are code points. -/
theorem writesCounted_iff : WritesCounted bcplString <->
    bcplString.characters.length < 2 ^ 31 ∧
      forall ch, ch ∈ bcplString.characters -> ch.toNat ≤ 0x10FFFF := by
  rw [<- totalWritten_eq_iff]
  have counts := countBytes_eq bcplString.characters 0 0 (by decide)
  rw [Nat.zero_add, Nat.zero_add] at counts
  constructor
  · rintro ⟨byteLen, counted, writes⟩
    by_cases inRange : bcplString.characters.length < 2 ^ 31
    · rw [counts, if_pos inRange, Option.some.injEq] at counted
      rcases writeBytes_spells bcplString.characters (fun _ => 0#8) 0
        (show 0 + _ < _ by omega) with ⟨written, wrote, _⟩
      rcases writes fun _ => 0#8 with ⟨other, wroteOther⟩
      rw [wrote, Option.some.injEq, Prod.mk.injEq, Nat.zero_add] at wroteOther
      exact ⟨inRange, wroteOther.2.trans counted.symm⟩
    · rw [counts, if_neg inRange] at counted
      cases counted
  · rintro ⟨inRange, agree⟩
    refine ⟨totalCounted bcplString.characters, counts.trans (if_pos inRange), ?_⟩
    intro payload
    rcases writeBytes_spells bcplString.characters payload 0 (show 0 + _ < _ by omega) with
      ⟨written, wrote, _⟩
    rw [agree, Nat.zero_add] at wrote
    exact ⟨written, wrote⟩

/-- A string of scalars comes back from packing and unpacking if and only if it is
packable; and the bytes of any string are written as they are counted if and only if the
counter stays in range and all characters are code points. -/
theorem packString_unpackString_iff (build : Build) (allocator : Allocator)
    (bcplString : BcplString) :
    ((forall ch, ch ∈ bcplString.characters -> IsScalar ch.toNat) ->
      (RoundTrips build allocator bcplString <-> Packable build allocator bcplString)) ∧
    (WritesCounted bcplString <->
      bcplString.characters.length < 2 ^ 31 ∧
        forall ch, ch ∈ bcplString.characters -> ch.toNat ≤ 0x10FFFF) :=
  ⟨roundTrips_iff, writesCounted_iff⟩

/-- Memory for every request. -/
def ampleMemory : Allocator :=
  { words := fun _ => some fun _ => 0#8, chars := fun _ => some fun _ => 0#32 }

/-- The empty string does not come back, and behind the largest code point a byte is
counted that is not written. -/
theorem emptyString_lost :
    ¬ RoundTrips .heapInterfaceJit ampleMemory ⟨[], fun _ member => by cases member⟩ ∧
      ¬ WritesCounted ⟨[0x110000#32], fun ch member => by
        rw [List.mem_singleton.mp member]
        decide⟩ := by
  constructor
  · intro comesBack
    have packable := (roundTrips_iff fun _ member => by cases member).mp comesBack
    rcases packable.notRefused with filled | other
    · exact filled rfl
    · cases other
  · intro agree
    have codePoints := (writesCounted_iff.mp agree).2 0x110000#32 List.mem_cons_self
    exact absurd codePoints (by decide)

end Results

end Runtime
end NewBcpl
