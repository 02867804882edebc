import NewBcpl.Foundations.Utf8Groups
import NewBcpl.Runtime.PackedRoundTrip

namespace NewBcpl
namespace Literals

open Foundations
open Utf8

/-!
# Converting the bytes of a literal

`utf8_to_utf32` of the data generator trusts lead bytes: it takes the group of a lead byte
without a look at the bytes in it, and throws at a byte that leads no group. What it can
read is a parameter, so that a read behind the end of the literal shows. The result of a
conversion that throws is `some none`, and one that needs a byte it cannot read has none.
-/

section Functions

/-! ## The conversion -/

/-- The bits of a byte that continues a code point. -/
def continued (byte : BitVec 8) : BitVec 32 := byte.setWidth 32 &&& 0x3F#32

/-- One round of the loop: the code point, and how many bytes belong to its first byte. -/
def codePointIn (memory : Nat -> Option (BitVec 8)) (i : Nat) :
    Option (Option (BitVec 32 × Nat)) := do
  let first <- memory i
  let byte := first.setWidth 32
  if byte ≤ 0x7F#32 then some (some (byte, 0))
  else if byte &&& 0xE0#32 = 0xC0#32 then do
    let second <- memory (i + 1)
    some (some ((byte &&& 0x1F#32) <<< 6 ||| continued second, 1))
  else if byte &&& 0xF0#32 = 0xE0#32 then do
    let second <- memory (i + 1)
    let third <- memory (i + 2)
    some (some ((byte &&& 0x0F#32) <<< 12 ||| continued second <<< 6 ||| continued third, 2))
  else if byte &&& 0xF8#32 = 0xF0#32 then do
    let second <- memory (i + 1)
    let third <- memory (i + 2)
    let fourth <- memory (i + 3)
    some (some ((byte &&& 0x07#32) <<< 18 ||| continued second <<< 12 |||
      continued third <<< 6 ||| continued fourth, 3))
  else some none

/-- `utf8_to_utf32`, from an index on. -/
def utf8ToUtf32In (memory : Nat -> Option (BitVec 8)) (size i : Nat) :
    Option (Option (List (BitVec 32))) :=
  if i < size then
    match codePointIn memory i with
    | none => none
    | some none => some none
    | some (some (codePoint, extraBytes)) =>
        (utf8ToUtf32In memory size (i + 1 + extraBytes)).map fun result =>
          result.map fun others => codePoint :: others
  else some (some [])
termination_by size - i

/-- The bytes of a literal, and nothing behind them. -/
def bytesOf (value : List (BitVec 8)) (i : Nat) : Option (BitVec 8) := value[i]?

/-- What a C++ string has: its bytes and a zero behind them. -/
def stringOf (value : List (BitVec 8)) (i : Nat) : Option (BitVec 8) := (value ++ [0#8])[i]?

/-- `write_utf8_char`: the bytes that are put out. -/
def writeUtf8Char (ch : BitVec 64) : List (BitVec 8) :=
  if ch.toInt < 0 ∨ ch.toInt > 0x10FFFF then [0x3F#8]
  else if ch.toInt < 0x80 then [ch.setWidth 8]
  else if ch.toInt < 0x800 then
    [(0xC0#64 ||| ((ch >>> 6) &&& 0x1F#64)).setWidth 8,
      (0x80#64 ||| (ch &&& 0x3F#64)).setWidth 8]
  else if ch.toInt < 0x10000 then
    [(0xE0#64 ||| ((ch >>> 12) &&& 0x0F#64)).setWidth 8,
      (0x80#64 ||| ((ch >>> 6) &&& 0x3F#64)).setWidth 8,
      (0x80#64 ||| (ch &&& 0x3F#64)).setWidth 8]
  else
    [(0xF0#64 ||| ((ch >>> 18) &&& 0x07#64)).setWidth 8,
      (0x80#64 ||| ((ch >>> 12) &&& 0x3F#64)).setWidth 8,
      (0x80#64 ||| ((ch >>> 6) &&& 0x3F#64)).setWidth 8,
      (0x80#64 ||| (ch &&& 0x3F#64)).setWidth 8]

/-- The characters put out one after the other. -/
def written (characters : List (BitVec 32)) : List (BitVec 8) :=
  characters.flatMap fun ch => writeUtf8Char (ch.setWidth 64)

end Functions

section Output

/-! ## Output -/

/-- The output routine writes the bytes of a code point. -/
theorem writeUtf8Char_toNat {ch : BitVec 32} (bounded : ch.toNat ≤ 0x10FFFF) :
    (writeUtf8Char (ch.setWidth 64)).map BitVec.toNat = encoded ch.toNat := by
  have same : (ch.setWidth 64).toNat = ch.toNat := by
    rw [BitVec.toNat_setWidth, Nat.mod_eq_of_lt (by omega)]
  have signed : (ch.setWidth 64).toInt = ch.toNat := by
    rw [BitVec.toInt_eq_toNat_cond, same, if_pos (by omega)]
  have chosen : writeUtf8Char (ch.setWidth 64) =
      wordBytes (ch.setWidth 64) (extraBytes (ch.setWidth 64).toNat) := by
    unfold writeUtf8Char
    rw [signed, if_neg (by omega), same]
    rcases lead_cases bounded with ⟨extra, below, _⟩ | ⟨extra, above, below, _⟩ |
      ⟨extra, above, below, _⟩ | ⟨extra, above, below, _⟩
    · rw [extra, if_pos (by omega)]
      rfl
    · rw [extra, if_neg (by omega), if_pos (by omega)]
      rfl
    · rw [extra, if_neg (by omega), if_neg (by omega), if_pos (by omega)]
      rfl
    · rw [extra, if_neg (by omega), if_neg (by omega), if_neg (by omega)]
      rfl
  rw [chosen, wordBytes_toNat (by decide) (same ▸ bounded), same]

/-- The scalars of a text put out are the text. -/
theorem written_scalars {codePoints : List Nat}
    (scalars : forall codePoint, codePoint ∈ codePoints -> IsScalar codePoint) :
    (written (codePoints.map (BitVec.ofNat 32))).map BitVec.toNat =
      codePoints.flatMap encoded := by
  induction codePoints with
  | nil => rfl
  | cons codePoint rest puts =>
      have bounded := (scalars codePoint List.mem_cons_self).bounded
      have same : (BitVec.ofNat 32 codePoint).toNat = codePoint := by
        rw [BitVec.toNat_ofNat, Nat.mod_eq_of_lt (by omega)]
      have here := writeUtf8Char_toNat (same.symm ▸ bounded : (BitVec.ofNat 32 codePoint).toNat ≤ _)
      have others := puts fun other member => scalars other (List.mem_cons_of_mem codePoint member)
      rw [written, List.map_cons, List.flatMap_cons, List.map_append, here, same,
        List.flatMap_cons]
      exact congrArg _ others

end Output

section Rounds

/-! ## One round -/

/-- What can be read includes the bytes of the literal. -/
def Has (memory : Nat -> Option (BitVec 8)) (value : List (BitVec 8)) : Prop :=
  forall i, i < value.length -> memory i = value[i]?

theorem bytesOf_has (value : List (BitVec 8)) : Has (bytesOf value) value := fun _ _ => rfl

theorem stringOf_has (value : List (BitVec 8)) : Has (stringOf value) value :=
  fun _ inside => List.getElem?_append_left inside

variable {memory : Nat -> Option (BitVec 8)} {i count : Nat} {first : BitVec 8}

theorem not_ascii {byte : BitVec 8} (above : 0x80 ≤ byte.toNat) :
    ¬ byte.setWidth 32 ≤ 0x7F#32 := by
  rw [BitVec.le_def, BitVec.toNat_setWidth, BitVec.toNat_ofNat]
  omega

/-- The source throws at a byte that leads no group. -/
theorem codePointIn_stray (found : memory i = some first)
    (leadsNone : announced first.toNat = none) : codePointIn memory i = some none := by
  rcases stray_byte first leadsNone with ⟨_, notTwo, notThree, notFour⟩
  have above : 0x80 ≤ first.toNat := by
    apply Nat.le_of_not_lt
    intro below
    rw [announced, if_pos below] at leadsNone
    cases leadsNone
  unfold codePointIn
  rw [found]
  simp only [Option.bind_eq_bind, Option.bind_some, if_neg (not_ascii above), if_neg notTwo,
    if_neg notThree, if_neg notFour]

/-- Two shifts are one. -/
theorem shifted_or (upper lower : BitVec 32) (m n : Nat) :
    upper <<< (m + n) ||| lower <<< n = (upper <<< m ||| lower) <<< n := by
  rw [BitVec.shiftLeft_or_distrib, BitVec.shiftLeft_add]

theorem continued_toNat (upper : BitVec 32) (byte : BitVec 8) (small : upper.toNat < 2 ^ 26) :
    (upper <<< 6 ||| continued byte).toNat = upper.toNat * 64 + byte.toNat % 64 :=
  appended_toNat upper byte small

/-- A round takes a group for the number that it spells. -/
theorem codePointIn_group {tail : List (BitVec 8)} (found : memory i = some first)
    (leads : announced first.toNat = some tail.length)
    (follows : forall k, k < tail.length -> memory (i + 1 + k) = tail[k]?) :
    codePointIn memory i =
      some (some (BitVec.ofNat 32 (number first.toNat (tail.map BitVec.toNat)), tail.length)) := by
  unfold codePointIn
  rw [found]
  simp only [Option.bind_eq_bind, Option.bind_some]
  rcases announced_some leads with ⟨isCount, below⟩ | ⟨isCount, above, below⟩ |
    ⟨isCount, above, below⟩ | ⟨isCount, above, below⟩
  · rw [List.length_eq_zero_iff.mp isCount]
    have ascii : first.setWidth 32 ≤ 0x7F#32 := by
      rw [BitVec.le_def, BitVec.toNat_setWidth, BitVec.toNat_ofNat]
      omega
    have isFirst : number first.toNat [] = first.toNat := rfl
    rw [if_pos ascii, List.map_nil, isFirst, BitVec.ofNat_toNat]
    rfl
  · rcases List.length_eq_one_iff.mp isCount with ⟨second, rfl⟩
    rcases lead_two first above below with ⟨_, isTwo, top⟩
    have readSecond : memory (i + 1) = some second := follows 0 (by rw [isCount]; decide)
    have isNumber : number first.toNat ([second].map BitVec.toNat) =
        (first.setWidth 32 &&& 0x1F#32).toNat * 64 + second.toNat % 64 := by
      rw [top]
      rfl
    rw [if_neg (not_ascii (by omega)), if_pos isTwo, readSecond, isNumber,
      <- continued_toNat _ _ (by omega), BitVec.ofNat_toNat, BitVec.setWidth_eq]
    rfl
  · rcases List.length_eq_two.mp isCount with ⟨second, third, rfl⟩
    rcases lead_three first above below with ⟨_, notTwo, isThree, top⟩
    have readSecond : memory (i + 1) = some second := follows 0 (by rw [isCount]; decide)
    have readThird : memory (i + 2) = some third := follows 1 (by rw [isCount]; decide)
    have upper := continued_toNat (first.setWidth 32 &&& 0x0F#32) second (by omega)
    have isNumber : number first.toNat ([second, third].map BitVec.toNat) =
        (((first.setWidth 32 &&& 0x0F#32) <<< 6 ||| continued second) <<< 6 |||
          continued third).toNat := by
      rw [continued_toNat _ _ (by omega), upper, top]
      rfl
    rw [if_neg (not_ascii (by omega)), if_neg notTwo, if_pos isThree, readSecond, readThird,
      isNumber, BitVec.ofNat_toNat, BitVec.setWidth_eq, <- shifted_or]
    rfl
  · rcases List.length_eq_three.mp isCount with ⟨second, third, fourth, rfl⟩
    rcases lead_four first above below with ⟨_, notTwo, notThree, isFour, top⟩
    have readSecond : memory (i + 1) = some second := follows 0 (by rw [isCount]; decide)
    have readThird : memory (i + 2) = some third := follows 1 (by rw [isCount]; decide)
    have readFourth : memory (i + 3) = some fourth := follows 2 (by rw [isCount]; decide)
    have upper := continued_toNat (first.setWidth 32 &&& 0x07#32) second (by omega)
    have middle := continued_toNat ((first.setWidth 32 &&& 0x07#32) <<< 6 ||| continued second)
      third (by omega)
    have isNumber : number first.toNat ([second, third, fourth].map BitVec.toNat) =
        ((((first.setWidth 32 &&& 0x07#32) <<< 6 ||| continued second) <<< 6 |||
          continued third) <<< 6 ||| continued fourth).toNat := by
      rw [continued_toNat _ _ (by omega), middle, upper, top]
      rfl
    rw [if_neg (not_ascii (by omega)), if_neg notTwo, if_neg notThree, if_pos isFour, readSecond,
      readThird, readFourth, isNumber, BitVec.ofNat_toNat, BitVec.setWidth_eq, <- shifted_or,
      BitVec.shiftLeft_or_distrib, <- BitVec.shiftLeft_add]
    rfl

/-- A round has no result when a byte of its group cannot be read. -/
theorem codePointIn_cut (found : memory i = some first)
    (leads : announced first.toNat = some count) {k : Nat} (inGroup : k < count)
    (missing : memory (i + 1 + k) = none) : codePointIn memory i = none := by
  unfold codePointIn
  rw [found]
  simp only [Option.bind_eq_bind, Option.bind_some]
  rcases announced_some leads with ⟨isCount, below⟩ | ⟨isCount, above, below⟩ |
    ⟨isCount, above, below⟩ | ⟨isCount, above, below⟩
  · omega
  · rcases lead_two first above below with ⟨_, isTwo, _⟩
    have isSecond : i + 1 + k = i + 1 := by omega
    rw [isSecond] at missing
    rw [if_neg (not_ascii (by omega)), if_pos isTwo, missing]
    rfl
  · rcases lead_three first above below with ⟨_, notTwo, isThree, _⟩
    rw [if_neg (not_ascii (by omega)), if_neg notTwo, if_pos isThree]
    have places : i + 1 + k = i + 1 ∨ i + 1 + k = i + 2 := by omega
    rcases places with same | same
    · rw [same] at missing
      rw [missing]
      rfl
    · rw [same] at missing
      rw [missing]
      cases memory (i + 1) <;> rfl
  · rcases lead_four first above below with ⟨_, notTwo, notThree, isFour, _⟩
    rw [if_neg (not_ascii (by omega)), if_neg notTwo, if_neg notThree, if_pos isFour]
    have places : i + 1 + k = i + 1 ∨ i + 1 + k = i + 2 ∨ i + 1 + k = i + 3 := by omega
    rcases places with same | same | same
    · rw [same] at missing
      rw [missing]
      rfl
    · rw [same] at missing
      rw [missing]
      cases memory (i + 1) <;> rfl
    · rw [same] at missing
      rw [missing]
      cases memory (i + 1) <;> cases memory (i + 2) <;> rfl

end Rounds

section Texts

/-! ## Whole texts -/

variable {memory : Nat -> Option (BitVec 8)} {value : List (BitVec 8)}

/-- The outcome of a conversion behind code points that were found before. -/
def behind (codePoints : List (BitVec 32)) (outcome : Option (Option (List (BitVec 32)))) :
    Option (Option (List (BitVec 32))) :=
  outcome.map fun result => result.map fun others => codePoints ++ others

theorem behind_nil (outcome : Option (Option (List (BitVec 32)))) :
    behind [] outcome = outcome := by
  rcases outcome with _ | _ | _ <;> rfl

theorem behind_cons (codePoint : BitVec 32) (codePoints : List (BitVec 32))
    (outcome : Option (Option (List (BitVec 32)))) :
    (behind codePoints outcome).map (fun result => result.map fun others => codePoint :: others) =
      behind (codePoint :: codePoints) outcome := by
  rcases outcome with _ | _ | _ <;> rfl

/-- A text of bytes as numbers. -/
def numbersOf (value : List (BitVec 8)) : List Nat := value.map BitVec.toNat

theorem has_append {before rest : List (BitVec 8)} (has : Has memory (before ++ rest)) {k : Nat}
    (inside : k < rest.length) : memory (before.length + k) = rest[k]? := by
  rw [has _ (by rw [List.length_append]; omega), List.getElem?_append_right (Nat.le_add_right _ _),
    Nat.add_sub_cancel_left]

/-- The loop at a group. -/
theorem convert_group {before tail rest : List (BitVec 8)} {first : BitVec 8}
    (has : Has memory (before ++ first :: (tail ++ rest)))
    (leads : announced first.toNat = some tail.length) :
    utf8ToUtf32In memory (before ++ first :: (tail ++ rest)).length before.length =
      (utf8ToUtf32In memory (before ++ first :: (tail ++ rest)).length
        (before.length + 1 + tail.length)).map fun result =>
          result.map fun others =>
            BitVec.ofNat 32 (number first.toNat (numbersOf tail)) :: others := by
  have inside : before.length < (before ++ first :: (tail ++ rest)).length := by
    rw [List.length_append, List.length_cons]
    omega
  have found : memory before.length = some first := has_append has (Nat.zero_lt_succ _)
  have follows (k : Nat) (inTail : k < tail.length) :
      memory (before.length + 1 + k) = tail[k]? := by
    rw [Nat.add_assoc, Nat.add_comm 1, has_append has, List.getElem?_cons_succ,
      List.getElem?_append_left inTail]
    rw [List.length_cons, List.length_append]
    omega
  rw [utf8ToUtf32In, if_pos inside, codePointIn_group found leads follows]
  rfl

/-- The loop over a row of groups. -/
theorem convert_groups {groups : List (List Nat)} {rest : List Nat}
    (areGroups : forall group, group ∈ groups -> IsGroup group)
    {before text : List (BitVec 8)} (has : Has memory (before ++ text))
    (whole : numbersOf text = groups.flatten ++ rest) :
    exists front back, text = front ++ back ∧ numbersOf back = rest ∧
      utf8ToUtf32In memory (before ++ text).length before.length =
        behind (groups.map fun group => BitVec.ofNat 32 (groupNumber group))
          (utf8ToUtf32In memory (before ++ text).length (before ++ front).length) := by
  induction groups generalizing before text with
  | nil =>
      refine ⟨[], text, rfl, whole, ?_⟩
      rw [List.append_nil, List.map_nil, behind_nil]
  | cons group groups converts =>
      rcases areGroups group List.mem_cons_self with ⟨first, tail, rfl, leads⟩
      rw [List.flatten_cons, List.append_assoc] at whole
      rcases List.map_eq_append_iff.mp whole with ⟨here, others, rfl, isGroup, isRest⟩
      rcases List.map_eq_cons_iff.mp isGroup with ⟨byte, bytes, rfl, rfl, rfl⟩
      rw [List.length_map] at leads
      have regrouped : before ++ (byte :: bytes ++ others) = (before ++ byte :: bytes) ++ others := by
        rw [List.append_assoc]
      have hasLater := has
      rw [regrouped] at hasLater
      rcases converts (fun other member => areGroups other (List.mem_cons_of_mem _ member))
        hasLater isRest with ⟨front, back, rfl, isBack, converted⟩
      refine ⟨byte :: bytes ++ front, back, by rw [List.append_assoc], isBack, ?_⟩
      have round := convert_group has leads
      have place : before.length + 1 + bytes.length = (before ++ byte :: bytes).length := by
        rw [List.length_append, List.length_cons]
        omega
      rw [place] at round
      rw [<- regrouped, List.append_assoc before (byte :: bytes) front] at converted
      rw [List.map_cons, <- behind_cons]
      exact round.trans (congrArg _ converted)

/-- A row of groups is converted to their numbers. -/
theorem convert_grouped (has : Has memory value) {groups : List (List Nat)}
    (areGroups : forall group, group ∈ groups -> IsGroup group)
    (whole : numbersOf value = groups.flatten) :
    utf8ToUtf32In memory value.length 0 =
      some (some (groups.map fun group => BitVec.ofNat 32 (groupNumber group))) := by
  rw [<- List.append_nil groups.flatten] at whole
  rcases @convert_groups memory groups [] areGroups [] value has whole with
    ⟨front, back, rfl, isBack, converted⟩
  have atEnd : back = [] := List.map_eq_nil_iff.mp isBack
  subst atEnd
  refine converted.trans ?_
  rw [List.append_nil, utf8ToUtf32In, if_neg (Nat.lt_irrefl _), behind]
  simp only [Option.map_some, List.append_nil]

/-- The conversion throws where the groups break off, and has read nothing behind the
literal by then. -/
theorem convert_breaksOff (has : Has memory value) (breaks : BreaksOff (numbersOf value)) :
    utf8ToUtf32In memory value.length 0 = some none := by
  rcases breaks with ⟨groups, stray, rest, areGroups, leadsNone, whole⟩
  rcases @convert_groups memory groups (stray :: rest) areGroups [] value has whole with
    ⟨front, back, rfl, isBack, converted⟩
  rcases List.map_eq_cons_iff.mp isBack with ⟨byte, bytes, rfl, rfl, rfl⟩
  have inside : front.length < (front ++ byte :: bytes).length := by
    rw [List.length_append, List.length_cons]
    omega
  have found : memory front.length = some byte := has_append has (Nat.zero_lt_succ _)
  refine converted.trans ?_
  rw [List.nil_append, List.nil_append, utf8ToUtf32In, if_pos inside, codePointIn_stray found leadsNone]
  rfl

/-- Where a group is cut short, the conversion reads behind the literal. -/
theorem convert_cutShort (cut : CutShort (numbersOf value)) :
    utf8ToUtf32In (bytesOf value) value.length 0 = none := by
  rcases cut with ⟨groups, first, count, tail, areGroups, leads, short, whole⟩
  rcases @convert_groups (bytesOf value) groups (first :: tail) areGroups [] value
    (bytesOf_has value) whole with ⟨front, back, rfl, isBack, converted⟩
  rcases List.map_eq_cons_iff.mp isBack with ⟨byte, bytes, rfl, rfl, rfl⟩
  rw [List.length_map] at short
  have inside : front.length < (front ++ byte :: bytes).length := by
    rw [List.length_append, List.length_cons]
    omega
  have found : bytesOf (front ++ byte :: bytes) front.length = some byte :=
    @has_append _ front (byte :: bytes) (bytesOf_has _) 0 (Nat.zero_lt_succ _)
  have missing : bytesOf (front ++ byte :: bytes) (front.length + 1 + bytes.length) = none := by
    apply List.getElem?_eq_none
    rw [List.length_append, List.length_cons]
    omega
  refine converted.trans ?_
  rw [List.nil_append, List.nil_append, utf8ToUtf32In, if_pos inside, codePointIn_cut found leads short missing]
  rfl

end Texts

end Literals
end NewBcpl
