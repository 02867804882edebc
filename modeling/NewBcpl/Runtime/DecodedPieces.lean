import NewBcpl.Foundations.Utf8Pieces
import NewBcpl.Runtime.PackedRoundTrip

namespace NewBcpl
namespace Runtime

open Foundations
open Utf8

/-!
# Decoding any bytes

`UNPACKSTRING` on a vector with any bytes in it. Each call of the decoder takes one piece of
the text from the pointer up to the end pointer, gives the scalar or the replacement
character that the piece stands for, and moves behind it. So both loops make one round for
each piece, and the pointer comes to every byte that is no continuation byte.
-/

section Reads

/-! ## Reads -/

/-- The memory in which the bytes before the end pointer can be read, and no others. -/
def readableBelow (bytes : Nat -> BitVec 8) (finish p : Nat) : Option (BitVec 8) :=
  if p < finish then some (bytes p) else none

/-- The loop over the continuation bytes where not every byte can be read. -/
def readContinuationsIn (memory : Nat -> Option (BitVec 8)) (finish : Nat) :
    Nat -> BitVec 32 -> Nat -> Option (Option (BitVec 32) × Nat)
  | 0, c, p => some (some c, p)
  | extraBytes + 1, c, p =>
      if p ≥ finish then some (none, p)
      else do
        let byte <- memory p
        if byte &&& 0xC0#8 ≠ 0x80#8 then some (none, p)
        else
          readContinuationsIn memory finish extraBytes
            ((c <<< 6) ||| (byte.setWidth 32 &&& 0x3F#32)) (p + 1)

/-- `decode_utf8_char` where not every byte can be read: nothing at a read that fails. -/
def decodeUtf8CharIn (memory : Nat -> Option (BitVec 8)) (finish p : Nat) :
    Option (BitVec 32 × Nat) :=
  if p ≥ finish then some (0#32, p)
  else do
    let byte <- memory p
    let c := byte.setWidth 32
    if c &&& 0x80#32 = 0#32 then some (c, p + 1)
    else if c &&& 0xE0#32 = 0xC0#32 then
      (readContinuationsIn memory finish 1 (c &&& 0x1F#32) (p + 1)).map (finishSequence 0x80#32)
    else if c &&& 0xF0#32 = 0xE0#32 then
      (readContinuationsIn memory finish 2 (c &&& 0x0F#32) (p + 1)).map (finishSequence 0x800#32)
    else if c &&& 0xF8#32 = 0xF0#32 then
      (readContinuationsIn memory finish 3 (c &&& 0x07#32) (p + 1)).map
        (finishSequence 0x10000#32)
    else some (replacementCharacter, p + 1)

variable (bytes : Nat -> BitVec 8) (finish : Nat)

theorem readContinuationsIn_below (extraBytes : Nat) (c : BitVec 32) (p : Nat) :
    readContinuationsIn (readableBelow bytes finish) finish extraBytes c p =
      some (readContinuations bytes finish extraBytes c p) := by
  induction extraBytes generalizing c p with
  | zero => rfl
  | succ extraBytes reads =>
      unfold readContinuationsIn readContinuations
      by_cases late : p ≥ finish
      · rw [if_pos late, if_pos (Or.inl late)]
      · have readable : readableBelow bytes finish p = some (bytes p) :=
          if_pos (Nat.lt_of_not_le late)
        rw [if_neg late, readable]
        by_cases other : bytes p &&& 0xC0#8 ≠ 0x80#8
        · rw [if_pos (Or.inr other)]
          exact if_pos other
        · rw [if_neg (not_or.mpr ⟨late, other⟩)]
          exact (if_neg other).trans (reads _ (p + 1))

/-- The decoder reads no byte at the end pointer or behind it. -/
theorem decodeUtf8CharIn_below (p : Nat) :
    decodeUtf8CharIn (readableBelow bytes finish) finish p =
      some (decodeUtf8Char bytes finish p) := by
  unfold decodeUtf8CharIn decodeUtf8Char
  by_cases late : p ≥ finish
  · rw [if_pos late, if_pos late]
  · have readable : readableBelow bytes finish p = some (bytes p) :=
      if_pos (Nat.lt_of_not_le late)
    rw [if_neg late, if_neg late, readable]
    simp only [Option.bind_eq_bind, Option.bind_some, readContinuationsIn_below, Option.map_some]
    split_ifs <;> rfl

end Reads

section Pieces

/-! ## One call -/

/-- The bytes from a position up to the end pointer. -/
def textFrom (bytes : Nat -> BitVec 8) (finish p : Nat) : List Nat :=
  (List.range' p (finish - p)).map fun q => (bytes q).toNat

/-- The piece at a position. -/
def pieceAt (bytes : Nat -> BitVec 8) (finish p : Nat) : List Nat :=
  (bytes p).toNat :: tailOf (bytes p).toNat (textFrom bytes finish (p + 1))

variable {bytes : Nat -> BitVec 8} {finish : Nat}

theorem textFrom_nil {p : Nat} (late : finish ≤ p) : textFrom bytes finish p = [] := by
  rw [textFrom, Nat.sub_eq_zero_of_le late]
  rfl

theorem textFrom_cons {p : Nat} (inside : p < finish) :
    textFrom bytes finish p = (bytes p).toNat :: textFrom bytes finish (p + 1) := by
  have count : finish - p = finish - (p + 1) + 1 := by omega
  rw [textFrom, count, List.range'_succ, List.map_cons]
  rfl

theorem drop_textFrom (p count : Nat) :
    (textFrom bytes finish p).drop count = textFrom bytes finish (p + count) := by
  rw [textFrom, <- List.map_drop, List.drop_range', textFrom, Nat.sub_add_eq, Nat.mul_one]

/-- The digits stay below the next number with as many digits. -/
theorem foldl_digits_lt (tail : List Nat) (digits : Nat) :
    tail.foldl (fun digits byte => digits * 64 + byte % 64) digits <
      (digits + 1) * 64 ^ tail.length := by
  induction tail generalizing digits with
  | nil =>
      rw [List.length_nil, Nat.pow_zero, Nat.mul_one]
      exact Nat.lt_succ_self digits
  | cons byte tail below =>
      have digit : byte % 64 < 64 := Nat.mod_lt _ (by decide)
      rw [List.foldl_cons, List.length_cons, Nat.pow_succ, Nat.mul_comm (64 ^ _), <- Nat.mul_assoc]
      apply Nat.lt_of_lt_of_le (below _)
      apply Nat.mul_le_mul_right
      omega

/-- The loop takes the continuation bytes that are there, and gives their number when it
finds as many as it is to read. -/
theorem readContinuations_taken (count : Nat) {c : BitVec 32} (p : Nat)
    (small : (c.toNat + 1) * 64 ^ count ≤ 2 ^ 32) :
    readContinuations bytes finish count c p =
      (if (continuing count (textFrom bytes finish p)).length = count then
        some (BitVec.ofNat 32 ((continuing count (textFrom bytes finish p)).foldl
          (fun digits byte => digits * 64 + byte % 64) c.toNat))
      else none, p + (continuing count (textFrom bytes finish p)).length) := by
  induction count generalizing c p with
  | zero =>
      rw [continuing_zero, readContinuations, List.foldl_nil, BitVec.ofNat_toNat,
        BitVec.setWidth_eq]
      rfl
  | succ count reads =>
      unfold readContinuations
      by_cases late : p ≥ finish
      · rw [if_pos (Or.inl late), textFrom_nil late, continuing_nil]
        rfl
      rw [textFrom_cons (Nat.lt_of_not_le late), continuing_cons]
      by_cases continues : IsContinuation (bytes p).toNat
      · have same := (continuation_byte_iff (bytes p)).mpr continues
        have digit : (bytes p).toNat % 64 < 64 := Nat.mod_lt _ (by decide)
        have atLeast : (c.toNat + 1) * 64 ≤ (c.toNat + 1) * 64 ^ (count + 1) := by
          apply Nat.mul_le_mul_left
          exact Nat.le_self_pow (Nat.succ_ne_zero count) 64
        have next := appended_toNat c (bytes p) (by omega)
        have bounded : (c.toNat * 64 + (bytes p).toNat % 64 + 1) * 64 ^ count ≤ 2 ^ 32 := by
          apply Nat.le_trans (Nat.mul_le_mul_right _ (show _ ≤ (c.toNat + 1) * 64 by omega))
          rwa [Nat.mul_assoc, <- Nat.pow_succ']
        rw [<- next] at bounded
        rw [if_neg (not_or.mpr ⟨late, not_not_intro same⟩), if_pos continues, reads _ bounded,
          next, List.length_cons, List.foldl_cons]
        simp only [Nat.add_right_cancel_iff]
        congr 1
        omega
      · have different := fun same => continues ((continuation_byte_iff (bytes p)).mp same)
        rw [if_pos (Or.inr different), if_neg continues]
        rfl

/-- The checks at the end of a sequence. -/
theorem finishSequence_number {value : Nat} (minCode : BitVec 32) (p : Nat)
    (small : value < 2 ^ 32) :
    (finishSequence minCode (some (BitVec.ofNat 32 value), p)).1.toNat =
      if minCode.toNat ≤ value ∧ IsScalar value then value else 0xFFFD := by
  simp only [finishSequence, BitVec.lt_def, BitVec.le_def, gt_iff_lt, BitVec.toNat_ofNat,
    Nat.mod_eq_of_lt small]
  by_cases passes : minCode.toNat ≤ value ∧ IsScalar value
  · rw [if_pos passes, if_neg]
    · exact Nat.mod_eq_of_lt small
    · rcases passes with ⟨large, below | ⟨above, below⟩⟩ <;> omega
  · rw [if_neg passes, if_pos]
    · rfl
    · unfold IsScalar at passes
      omega

/-- A sequence of more than one byte. -/
theorem finishSequence_piece {count p : Nat} {c minCode : BitVec 32}
    (leads : announced (bytes p).toNat = some count)
    (top : c.toNat = (bytes p).toNat - leadMark count)
    (small : (c.toNat + 1) * 64 ^ count ≤ 2 ^ 32) (isLeast : minCode.toNat = least count) :
    Means (pieceAt bytes finish p)
        (finishSequence minCode (readContinuations bytes finish count c (p + 1))).1.toNat ∧
      (finishSequence minCode (readContinuations bytes finish count c (p + 1))).2 =
        p + (pieceAt bytes finish p).length := by
  have isTail : tailOf (bytes p).toNat (textFrom bytes finish (p + 1)) =
      continuing count (textFrom bytes finish (p + 1)) := by
    rw [tailOf, leads]
    rfl
  have below := foldl_digits_lt (continuing count (textFrom bytes finish (p + 1))) c.toNat
  have continues : forall byte, byte ∈ continuing count (textFrom bytes finish (p + 1)) ->
      IsContinuation byte := fun _ member => isContinuation_of_mem member
  have atMost := length_continuing_le count (textFrom bytes finish (p + 1))
  rw [finishSequence_position, readContinuations_taken count (p + 1) small, pieceAt, isTail]
  generalize continuing count (textFrom bytes finish (p + 1)) = tail at below continues atMost
  refine ⟨?_, by rw [List.length_cons]; omega⟩
  by_cases complete : tail.length = count
  · subst complete
    have isNumber : number (bytes p).toNat tail =
        tail.foldl (fun digits byte => digits * 64 + byte % 64) c.toNat := by
      rw [number, top]
    rw [if_pos rfl, <- isNumber, finishSequence_number minCode _ (by omega), isLeast]
    exact means_complete leads continues
  · rw [if_neg complete]
    exact Or.inr ⟨IllFormed.truncated leads (by omega), rfl⟩

/-- One call of the decoder: it gives what the piece at the pointer stands for, and moves
the pointer behind the piece. -/
theorem decodeUtf8Char_piece {p : Nat} (inside : p < finish) :
    Means (pieceAt bytes finish p) (decodeUtf8Char bytes finish p).1.toNat ∧
      (decodeUtf8Char bytes finish p).2 = p + (pieceAt bytes finish p).length := by
  unfold decodeUtf8Char
  rw [if_neg (Nat.not_le.mpr inside)]
  dsimp only
  cases leads : announced (bytes p).toNat with
  | none =>
      rcases stray_byte (bytes p) leads with ⟨notAscii, notTwo, notThree, notFour⟩
      have alone : pieceAt bytes finish p = [(bytes p).toNat] := by
        rw [pieceAt, tailOf, leads]
        rfl
      rw [if_neg notAscii, if_neg notTwo, if_neg notThree, if_neg notFour, alone]
      exact ⟨Or.inr ⟨IllFormed.stray leads, rfl⟩, rfl⟩
  | some count =>
      rcases announced_some leads with ⟨isCount, below⟩ | ⟨isCount, above, below⟩ |
        ⟨isCount, above, below⟩ | ⟨isCount, above, below⟩
      · subst isCount
        have alone : pieceAt bytes finish p = [(bytes p).toNat] := by
          rw [pieceAt, tailOf, leads]
          rfl
        have complete := @means_complete (bytes p).toNat [] leads fun _ member => by cases member
        have isFirst : number (bytes p).toNat [] = (bytes p).toNat := rfl
        rw [isFirst, if_pos ⟨Nat.zero_le _, Or.inl (by omega)⟩] at complete
        rw [if_pos (ascii_byte (bytes p) below), alone, BitVec.toNat_setWidth,
          Nat.mod_eq_of_lt (by omega)]
        exact ⟨complete, rfl⟩
      · subst isCount
        rcases lead_two (bytes p) above below with ⟨notAscii, isTwo, payload⟩
        rw [if_neg notAscii, if_pos isTwo]
        exact finishSequence_piece leads payload (by omega) rfl
      · subst isCount
        rcases lead_three (bytes p) above below with ⟨notAscii, notTwo, isThree, payload⟩
        rw [if_neg notAscii, if_neg notTwo, if_pos isThree]
        exact finishSequence_piece leads payload (by omega) rfl
      · subst isCount
        rcases lead_four (bytes p) above below with
          ⟨notAscii, notTwo, notThree, isFour, payload⟩
        rw [if_neg notAscii, if_neg notTwo, if_neg notThree, if_pos isFour]
        exact finishSequence_piece leads payload (by omega) rfl

end Pieces

section Loops

/-! ## The loops -/

variable {bytes : Nat -> BitVec 8} {finish : Nat}

theorem length_textFrom (p : Nat) : (textFrom bytes finish p).length = finish - p := by
  rw [textFrom, List.length_map, List.length_range']

theorem textFrom_getElem? {p q : Nat} (above : p ≤ q) (below : q < finish) :
    (textFrom bytes finish p)[q - p]? = some (bytes q).toNat := by
  have inRange : (List.range' p (finish - p))[q - p]? = some q := by
    rw [List.getElem?_range' (by omega)]
    congr 1
    omega
  rw [textFrom, List.getElem?_map, inRange]
  rfl

/-- The bytes behind the first one of a piece are in the text behind it. -/
theorem tail_textFrom (p : Nat) :
    exists rest, textFrom bytes finish (p + 1) =
      tailOf (bytes p).toNat (textFrom bytes finish (p + 1)) ++ rest :=
  ⟨_, (continuing_append_drop _ _).symm⟩

theorem pieceAt_le {p : Nat} (inside : p < finish) :
    p + (pieceAt bytes finish p).length ≤ finish := by
  rcases @tail_textFrom bytes finish p with ⟨rest, whole⟩
  have total := congrArg List.length whole
  rw [length_textFrom, List.length_append] at total
  rw [pieceAt, List.length_cons]
  omega

/-- The first piece of the text at a position, and those at the next position. -/
theorem pieces_textFrom {p : Nat} (inside : p < finish) :
    pieces (textFrom bytes finish p) =
      pieceAt bytes finish p ::
        pieces (textFrom bytes finish (decodeUtf8Char bytes finish p).2) := by
  rw [(decodeUtf8Char_piece inside).2, textFrom_cons inside, pieces_cons, drop_textFrom,
    pieceAt, List.length_cons, Nat.add_right_comm p, Nat.add_assoc p]

/-- The counting loop makes one round for each piece. -/
theorem countChars_pieces (p charCount : Nat) :
    countChars bytes finish p charCount =
      charCount + (pieces (textFrom bytes finish p)).length := by
  fun_induction countChars bytes finish p charCount with
  | case1 p charCount inside counts =>
      rw [counts, pieces_textFrom inside, List.length_cons, Nat.add_assoc, Nat.add_comm 1]
  | case2 p charCount late =>
      rw [textFrom_nil (Nat.le_of_not_lt late), pieces_nil]
      rfl

/-- What the pieces of a text stand for. -/
def StandsFor (text : List Nat) (characters : List (BitVec 32)) : Prop :=
  List.Forall₂ (fun piece character => Means piece character.toNat) (pieces text) characters

/-- The filling loop makes one round for each piece as well, and each round stores what its
piece stands for. -/
theorem exists_decoded (p : Nat) :
    exists characters, StandsFor (textFrom bytes finish p) characters ∧
      forall i payload j, decodeChars bytes finish characters.length i p payload j =
        if i ≤ j then (characters[j - i]?).getD (payload j) else payload j := by
  induction remaining : finish - p using Nat.strong_induction_on generalizing p with
  | h rest decodes =>
      by_cases inside : p < finish
      · rcases decodeUtf8Char_piece inside with ⟨means, moves⟩
        have advances := decodeUtf8Char_advances bytes inside
        rcases decodes (finish - (decodeUtf8Char bytes finish p).2) (by omega) _ rfl with
          ⟨characters, stand, stores⟩
        refine ⟨(decodeUtf8Char bytes finish p).1 :: characters, ?_, ?_⟩
        · rw [StandsFor, pieces_textFrom inside]
          exact List.Forall₂.cons means stand
        · intro i payload j
          rw [List.length_cons, decodeChars, if_pos inside, stores]
          rcases Nat.lt_trichotomy j i with before | here | behind
          · rw [if_neg (by omega), if_neg (by omega), Function.update_of_ne (by omega)]
          · subst here
            rw [if_neg (by omega), if_pos (Nat.le_refl j), Function.update_self, Nat.sub_self]
            rfl
          · have place : j - i = j - (i + 1) + 1 := by omega
            rw [if_pos (by omega), if_pos (by omega), Function.update_of_ne (by omega), place,
              List.getElem?_cons_succ]
      · refine ⟨[], ?_, ?_⟩
        · rw [StandsFor, textFrom_nil (Nat.le_of_not_lt inside), pieces_nil]
          exact List.Forall₂.nil
        · intro i payload j
          exact (ite_self _).symm

/-- The positions at which the pointer of the loops stands. -/
inductive Visits (bytes : Nat -> BitVec 8) (finish : Nat) : Nat -> Prop
  | start : Visits bytes finish 0
  | next {p : Nat} (visits : Visits bytes finish p) (inside : p < finish) :
      Visits bytes finish (decodeUtf8Char bytes finish p).2

/-- The pointer skips continuation bytes only. -/
theorem skips_continuations {p q : Nat} (inside : p < finish) (behind : p < q)
    (before : q < (decodeUtf8Char bytes finish p).2) : IsContinuation (bytes q).toNat := by
  rw [(decodeUtf8Char_piece inside).2, pieceAt, List.length_cons] at before
  have total := @pieceAt_le bytes finish p inside
  rw [pieceAt, List.length_cons] at total
  rcases @tail_textFrom bytes finish p with ⟨rest, whole⟩
  have found := @textFrom_getElem? bytes finish (p + 1) q behind (by omega)
  rw [whole, List.getElem?_append_left (by omega)] at found
  exact isContinuation_of_mem (List.mem_of_getElem? found)

/-- From each of its positions the pointer comes to every later byte that can start a
character, and to the end. -/
theorem Visits.reaches {p q : Nat} (visits : Visits bytes finish p) (behind : p ≤ q)
    (within : q ≤ finish) (starts : q < finish -> ¬ IsContinuation (bytes q).toNat) :
    Visits bytes finish q := by
  induction remaining : q - p using Nat.strong_induction_on generalizing p with
  | h rest reaches =>
      rcases Nat.eq_or_lt_of_le behind with here | later
      · exact here ▸ visits
      · have inside : p < finish := by omega
        have advances := decodeUtf8Char_advances bytes inside
        have notSkipped : (decodeUtf8Char bytes finish p).2 ≤ q := by
          apply Nat.le_of_not_lt
          intro skipped
          have total := @pieceAt_le bytes finish p inside
          rw [<- (decodeUtf8Char_piece inside).2] at total
          exact starts (Nat.lt_of_lt_of_le skipped total) (skips_continuations inside later skipped)
        exact reaches _ (by omega) (visits.next inside) notSkipped rfl

end Loops

section Results

/-! ## Whole vectors -/

namespace PackedVector

/-- How many bytes the length word tells. -/
def byteLen (vector : PackedVector) : Nat := vector.lengthWord.toNat

/-- The bytes of a vector. -/
def text (vector : PackedVector) : List Nat := textFrom vector.payload vector.byteLen 0

/-- The vector is unpacked to the characters. -/
structure Unpacks (vector : PackedVector) (characters : List (BitVec 32)) : Prop where
  standsFor : StandsFor vector.text characters
  counted : countChars vector.payload vector.byteLen 0 0 = characters.length
  filled : forall payload i,
    decodeChars vector.payload vector.byteLen
      (countChars vector.payload vector.byteLen 0 0) 0 0 payload i =
        (characters[i]?).getD (payload i)
  unpacked : forall allocator, unpackString allocator (some vector) =
    (allocator.chars characters.length).map fun fresh =>
      { lengthWord := BitVec.ofNat 64 characters.length
        payload := fun i => ((characters ++ [0#32])[i]?).getD (fresh i) }
  readsInside : forall p,
    decodeUtf8CharIn (readableBelow vector.payload vector.byteLen) vector.byteLen p =
      some (decodeUtf8Char vector.payload vector.byteLen p)
  decodes : forall p, Visits vector.payload vector.byteLen p -> p < vector.byteLen ->
    Means (pieceAt vector.payload vector.byteLen p)
        (decodeUtf8Char vector.payload vector.byteLen p).1.toNat ∧
      (decodeUtf8Char vector.payload vector.byteLen p).2 =
        p + (pieceAt vector.payload vector.byteLen p).length
  skips : forall p, Visits vector.payload vector.byteLen p -> p < vector.byteLen ->
    forall q, p < q -> q < (decodeUtf8Char vector.payload vector.byteLen p).2 ->
      IsContinuation (vector.payload q).toNat
  resumes : forall q, q ≤ vector.byteLen ->
    (q < vector.byteLen -> ¬ IsContinuation (vector.payload q).toNat) ->
      Visits vector.payload vector.byteLen q
  kept : forall before codePoint after, IsScalar codePoint ->
    vector.text = before ++ (encoded codePoint ++ after) ->
      characters[(pieces before).length]? = some (BitVec.ofNat 32 codePoint)

/-- Behind an ill-formed piece the pointer stands at the end or at the first byte of some
character. -/
def ResumesAtCharacters (vector : PackedVector) : Prop :=
  forall p, Visits vector.payload vector.byteLen p -> p < vector.byteLen ->
    IllFormed (pieceAt vector.payload vector.byteLen p) ->
      (decodeUtf8Char vector.payload vector.byteLen p).2 = vector.byteLen ∨
        exists codePoint, IsScalar codePoint ∧
          (vector.payload (decodeUtf8Char vector.payload vector.byteLen p).2).toNat =
            lead codePoint

end PackedVector

/-- A scalar in the text is a character of the result, behind those of the pieces in front
of it. -/
theorem StandsFor.kept {text before after : List Nat} {codePoint : Nat}
    {characters : List (BitVec 32)} (stand : StandsFor text characters)
    (scalar : IsScalar codePoint) (whole : text = before ++ (encoded codePoint ++ after)) :
    characters[(pieces before).length]? = some (BitVec.ofNat 32 codePoint) := by
  rw [StandsFor, whole, pieces_around scalar] at stand
  rcases List.forall₂_iff_get.mp stand with ⟨counted, means⟩
  rw [List.length_append, List.length_cons] at counted
  have inside : (pieces before).length < characters.length := by omega
  have here := means (pieces before).length (by simp) inside
  rw [List.get_eq_getElem, List.getElem_append_right (Nat.le_refl _)] at here
  simp only [Nat.sub_self, List.getElem_cons_zero, List.get_eq_getElem] at here
  have value := here.unique (Or.inl ⟨scalar, rfl⟩)
  rw [List.getElem?_eq_getElem inside, <- value, BitVec.ofNat_toNat, BitVec.setWidth_eq]

/-- `UNPACKSTRING` of a vector: the characters go into a new string. -/
theorem unpackString_eq (allocator : Allocator) (vector : PackedVector) :
    unpackString allocator (some vector) =
      (allocator.chars (countChars vector.payload vector.byteLen 0 0)).map fun fresh =>
        { lengthWord := BitVec.ofNat 64 (countChars vector.payload vector.byteLen 0 0)
          payload := Function.update
            (decodeChars vector.payload vector.byteLen
              (countChars vector.payload vector.byteLen 0 0) 0 0 fresh)
            (countChars vector.payload vector.byteLen 0 0) 0#32 } := by
  simp only [unpackString, bcplAllocChars, Option.bind_eq_bind, Option.bind_some]
  cases found : allocator.chars (countChars vector.payload vector.lengthWord.toNat 0 0) with
  | none =>
      rw [PackedVector.byteLen, found]
      rfl
  | some fresh =>
      rw [PackedVector.byteLen, found]
      rfl

/-- Every vector of bytes is unpacked to what its pieces stand for: both loops end and make
one round for each piece, no byte behind the end is read, and the pointer comes to every
byte that can start a character. -/
theorem unpackString_unpacks (vector : PackedVector) :
    exists characters, vector.Unpacks characters := by
  rcases @exists_decoded vector.payload vector.byteLen 0 with ⟨characters, stand, stores⟩
  have counted : countChars vector.payload vector.byteLen 0 0 = characters.length := by
    rw [countChars_pieces, Nat.zero_add]
    exact stand.length_eq
  have filled (payload : Nat -> BitVec 32) (i : Nat) :
      decodeChars vector.payload vector.byteLen characters.length 0 0 payload i =
        (characters[i]?).getD (payload i) := by
    rw [stores, if_pos (Nat.zero_le i), Nat.sub_zero]
  refine ⟨characters, stand, counted, by rw [counted]; exact filled, ?_,
    decodeUtf8CharIn_below _ _,
    fun p _ inside => decodeUtf8Char_piece inside,
    fun p _ inside q behind before => skips_continuations inside behind before,
    fun q within starts => Visits.start.reaches (Nat.zero_le q) within starts,
    fun before codePoint after scalar whole => stand.kept scalar whole⟩
  intro allocator
  rw [unpackString_eq, counted]
  refine congrArg (fun content => (allocator.chars characters.length).map content) ?_
  funext fresh
  congr 1
  funext i
  rcases Nat.lt_trichotomy i characters.length with inside | last | behind
  · rw [Function.update_of_ne (Nat.ne_of_lt inside), filled, List.getElem?_append_left inside]
  · rw [last, Function.update_self, List.getElem?_append_right (Nat.le_refl _), Nat.sub_self]
    rfl
  · rw [Function.update_of_ne (Nat.ne_of_gt behind), filled,
      List.getElem?_eq_none (Nat.le_of_lt behind), List.getElem?_eq_none]
    rw [List.length_append]
    exact behind

/-- Two continuation bytes, which no byte leads. -/
def strayBytes : PackedVector := { lengthWord := 2#64, payload := fun _ => 0x80#8 }

/-- Behind the first of two stray bytes the pointer stands at the second, which starts no
character; they give two characters. -/
theorem strayBytes_resumes :
    ¬ strayBytes.ResumesAtCharacters ∧
      countChars strayBytes.payload strayBytes.byteLen 0 0 = 2 := by
  constructor
  · intro resumes
    have moves : (decodeUtf8Char strayBytes.payload strayBytes.byteLen 0).2 = 1 := rfl
    have alone : pieceAt strayBytes.payload strayBytes.byteLen 0 = [0x80] := rfl
    have behind := resumes 0 Visits.start (by decide) (alone ▸ IllFormed.stray rfl)
    rw [moves] at behind
    rcases behind with atEnd | ⟨codePoint, scalar, isLead⟩
    · exact absurd atEnd (by decide)
    · apply lead_not_continuation scalar.bounded
      rw [<- isLead]
      exact ⟨by decide, by decide⟩
  · have isText : textFrom strayBytes.payload strayBytes.byteLen 0 = [0x80, 0x80] := rfl
    have firstAlone : pieces [0x80, 0x80] = [0x80] :: pieces [0x80] := pieces_cons 0x80 [0x80]
    have secondAlone : pieces [0x80] = [0x80] :: pieces [] := pieces_cons 0x80 []
    rw [countChars_pieces, isText, firstAlone, secondAlone, pieces_nil]
    rfl

end Results

end Runtime
end NewBcpl
