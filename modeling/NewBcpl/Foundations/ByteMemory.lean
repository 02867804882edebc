import Mathlib.Data.BitVec

namespace Foundations
namespace ByteMemory

/-!
# Byte-addressed little-endian memory

A memory is a total map from addresses to bytes. A read of `count` bytes is the
number they spell, least significant byte first; a write changes exactly the
`count` bytes that start at its address. Address arithmetic wraps around, so the
bytes of an access are those at an offset below `count` from its address.
-/

variable {width : Nat}

/-- A memory with addresses of the given width. -/
abbrev Memory (width : Nat) : Type := BitVec width -> BitVec 8

/-- The offset of an address above a base, modulo the address space. -/
def offset (base address : BitVec width) : Nat := (address - base).toNat

/-- Byte number `index` of a number. -/
def byteOf (value index : Nat) : BitVec 8 :=
  BitVec.ofNat 8 (value / 256 ^ index)

/-- The number spelled by `count` bytes from an address on. -/
def read (memory : Memory width) (address : BitVec width) : Nat -> Nat
  | 0 => 0
  | count + 1 => (memory address).toNat + 256 * read memory (address + BitVec.ofNat width 1) count

/-- Memory after `count` bytes of a number are written at an address. -/
def write (memory : Memory width) (address : BitVec width) (count value : Nat) :
    Memory width :=
  fun other =>
    if offset address other < count then byteOf value (offset address other)
    else memory other

/-- Two accesses share no byte. -/
def Disjoint (first : BitVec width) (firstCount : Nat) (second : BitVec width)
    (secondCount : Nat) : Prop :=
  forall address, offset first address < firstCount ->
    secondCount <= offset second address

/-- The byte at a small offset above a base. -/
theorem offset_add {base : BitVec width} {index : Nat} (small : index < 2 ^ width) :
    offset base (base + BitVec.ofNat width index) = index := by
  have cancel : base + BitVec.ofNat width index - base = BitVec.ofNat width index := by
    rw [BitVec.add_comm, BitVec.add_sub_cancel]
  unfold offset
  rw [cancel, BitVec.toNat_ofNat, Nat.mod_eq_of_lt small]

/-- Two accesses share no byte exactly when one of them is empty or each ends before
the other one starts. -/
theorem disjoint_iff {first second : BitVec width} {firstCount secondCount : Nat}
    (firstFits : firstCount <= 2 ^ width) (secondFits : secondCount <= 2 ^ width) :
    Disjoint first firstCount second secondCount <->
      firstCount = 0 ∨ secondCount = 0 ∨
        firstCount <= offset first second ∧ secondCount <= offset second first := by
  have cancel (base address : BitVec width) :
      offset base (base + BitVec.ofNat width (offset base address)) = offset base address :=
    offset_add (address - base).isLt
  constructor
  · intro disjoint
    by_cases firstEmpty : firstCount = 0
    · exact Or.inl firstEmpty
    by_cases secondEmpty : secondCount = 0
    · exact Or.inr (Or.inl secondEmpty)
    refine Or.inr (Or.inr ⟨?_, ?_⟩)
    · by_contra short
      have inside := disjoint second (Nat.not_le.mp short)
      unfold offset at inside
      rw [BitVec.sub_self, BitVec.toNat_zero] at inside
      omega
    · by_contra short
      have own : offset first first = 0 := by
        unfold offset
        rw [BitVec.sub_self, BitVec.toNat_zero]
      have inside := disjoint first (by omega)
      omega
  · intro cases address inFirst
    rcases cases with rfl | rfl | ⟨firstBefore, secondBefore⟩
    · omega
    · omega
    · have sum : (address - second).toNat =
          ((address - first).toNat + (first - second).toNat) % 2 ^ width := by
        rw [<- BitVec.toNat_add]
        congr 1
        rw [BitVec.sub_eq_add_neg, BitVec.sub_eq_add_neg, BitVec.sub_eq_add_neg,
          BitVec.add_assoc, <- BitVec.add_assoc (-first), BitVec.add_comm (-first) first,
          BitVec.add_right_neg, BitVec.zero_add]
      have total : (second - first).toNat + (first - second).toNat = 2 ^ width ∨
          (first - second).toNat = 0 := by
        rw [BitVec.toNat_sub, BitVec.toNat_sub]
        have firstBound := first.isLt
        have secondBound := second.isLt
        rcases Nat.lt_trichotomy first.toNat second.toNat with less | equal | greater
        · left
          rw [Nat.mod_eq_sub_mod (by omega), Nat.mod_eq_of_lt (by omega),
            Nat.mod_eq_of_lt (by omega)]
          omega
        · right
          rw [equal]
          simp [Nat.sub_add_cancel (Nat.le_of_lt secondBound)]
        · left
          rw [Nat.mod_eq_of_lt (by omega), Nat.mod_eq_sub_mod (by omega),
            Nat.mod_eq_of_lt (by omega)]
          omega
      unfold offset at *
      rw [sum]
      rcases total with total | zero
      · rw [Nat.mod_eq_of_lt (by omega)]
        omega
      · omega

/-- The offset from a base of an address inside a part of what lies behind the base. -/
theorem offset_within {base address : BitVec width} {start count : Nat}
    (fits : start + count <= 2 ^ width)
    (inside : offset (base + BitVec.ofNat width start) address < count) :
    offset base address = start + offset (base + BitVec.ofNat width start) address := by
  have sum : address - base =
      BitVec.ofNat width start + (address - (base + BitVec.ofNat width start)) := by
    rw [sub_add_eq_sub_sub, add_sub_cancel]
  unfold offset at inside ⊢
  rw [sum, BitVec.toNat_add, BitVec.toNat_ofNat, Nat.mod_eq_of_lt (by omega : start < _),
    Nat.mod_eq_of_lt (by omega)]

/-- Parts of disjoint pieces of memory are disjoint. -/
theorem Disjoint.parts {first second : BitVec width} {firstCount secondCount : Nat}
    (disjoint : Disjoint first firstCount second secondCount)
    (firstFits : firstCount <= 2 ^ width) (secondFits : secondCount <= 2 ^ width)
    {start count otherStart otherCount : Nat} (inFirst : start + count <= firstCount)
    (inSecond : otherStart + otherCount <= secondCount) :
    Disjoint (first + BitVec.ofNat width start) count
      (second + BitVec.ofNat width otherStart) otherCount := by
  intro address inside
  by_contra overlap
  have firstOffset := offset_within (by omega) inside
  have secondOffset := offset_within (by omega) (Nat.not_le.mp overlap)
  have apart := disjoint address (by omega)
  omega

/-- Parts of one piece of memory that follow each other are disjoint. -/
theorem disjoint_fields (base : BitVec width) {start count otherStart otherCount : Nat}
    (fits : start + count <= 2 ^ width) (otherFits : otherStart + otherCount <= 2 ^ width)
    (ordered : start + count <= otherStart ∨ otherStart + otherCount <= start) :
    Disjoint (base + BitVec.ofNat width start) count
      (base + BitVec.ofNat width otherStart) otherCount := by
  intro address inside
  by_contra overlap
  have firstOffset := offset_within fits inside
  have secondOffset := offset_within otherFits (Nat.not_le.mp overlap)
  omega

theorem write_outside (memory : Memory width) {address other : BitVec width}
    {count value : Nat} (outside : count <= offset address other) :
    write memory address count value other = memory other := by
  unfold write
  rw [if_neg (Nat.not_lt.mpr outside)]

private theorem add_one_ofNat (base : BitVec width) (index : Nat) :
    base + BitVec.ofNat width 1 + BitVec.ofNat width index =
      base + BitVec.ofNat width (index + 1) := by
  rw [BitVec.add_assoc, Nat.add_comm index 1, BitVec.ofNat_add]

/-- A read depends only on the bytes it covers. -/
theorem read_congr {first second : Memory width} {address : BitVec width}
    {count : Nat}
    (agree : forall index, index < count ->
      first (address + BitVec.ofNat width index) =
        second (address + BitVec.ofNat width index)) :
    read first address count = read second address count := by
  induction count generalizing address with
  | zero => rfl
  | succ count ih =>
      have head := agree 0 (Nat.succ_pos count)
      have tail : read first (address + BitVec.ofNat width 1) count =
          read second (address + BitVec.ofNat width 1) count := by
        apply ih
        intro index below
        rw [add_one_ofNat]
        exact agree (index + 1) (Nat.succ_lt_succ below)
      simp only [BitVec.add_zero] at head
      simp only [read, head, tail]

/-- Bytes that spell a number are read as that number, modulo the width of the
access. -/
theorem read_of_bytes {memory : Memory width} {address : BitVec width}
    {count value : Nat}
    (spelled : forall index, index < count ->
      memory (address + BitVec.ofNat width index) = byteOf value index) :
    read memory address count = value % 256 ^ count := by
  induction count generalizing address value with
  | zero => simp [read, Nat.mod_one]
  | succ count ih =>
      have head := spelled 0 (Nat.succ_pos count)
      have tail : read memory (address + BitVec.ofNat width 1) count =
          value / 256 % 256 ^ count := by
        apply ih
        intro index below
        rw [add_one_ofNat, spelled (index + 1) (Nat.succ_lt_succ below)]
        simp only [byteOf, Nat.pow_succ', Nat.div_div_eq_div_mul]
      simp only [BitVec.add_zero] at head
      have low : (byteOf value 0).toNat = value % 256 := by
        simp [byteOf, BitVec.toNat_ofNat]
      rw [read, head, tail, low, Nat.pow_succ', Nat.mod_mul]

/-- What was written is read back. -/
theorem read_write_same (memory : Memory width) (address : BitVec width)
    {count : Nat} (value : Nat) (fits : count <= 2 ^ width) :
    read (write memory address count value) address count = value % 256 ^ count := by
  apply read_of_bytes
  intro index below
  have position : offset address (address + BitVec.ofNat width index) = index :=
    offset_add (Nat.lt_of_lt_of_le below fits)
  unfold write
  rw [position, if_pos below]

/-- A write leaves every disjoint read alone. -/
theorem read_write_disjoint (memory : Memory width) {address other : BitVec width}
    {count otherCount : Nat} (value : Nat) (fits : otherCount <= 2 ^ width)
    (disjoint : Disjoint other otherCount address count) :
    read (write memory address count value) other otherCount =
      read memory other otherCount := by
  apply read_congr
  intro index below
  apply write_outside
  apply disjoint
  rw [offset_add (Nat.lt_of_lt_of_le below fits)]
  exact below

/-- The least significant byte of a read is the byte at its address. -/
theorem read_mod (memory : Memory width) (address : BitVec width) {count : Nat}
    (positive : 0 < count) : read memory address count % 256 = (memory address).toNat := by
  cases count with
  | zero => omega
  | succ count =>
      have byte := (memory address).isLt
      rw [read]
      omega

/-- A read fits its bytes. -/
theorem read_lt (memory : Memory width) (address : BitVec width) (count : Nat) :
    read memory address count < 256 ^ count := by
  induction count generalizing address with
  | zero => exact Nat.one_pos
  | succ count ih =>
      have byte := (memory address).isLt
      have rest := ih (address + BitVec.ofNat width 1)
      rw [read, Nat.pow_succ]
      omega

/-- A read is made of the reads of its parts. -/
theorem read_add (memory : Memory width) (address : BitVec width) (count more : Nat) :
    read memory address (count + more) = read memory address count +
      256 ^ count * read memory (address + BitVec.ofNat width count) more := by
  induction count generalizing address with
  | zero => rw [Nat.zero_add, read, Nat.zero_add, pow_zero, Nat.one_mul, BitVec.add_zero]
  | succ count ih =>
      rw [Nat.add_right_comm, read, read, ih, add_one_ofNat, Nat.pow_succ']
      rw [Nat.mul_add, <- Nat.mul_assoc, Nat.add_assoc]

/-- A read of cleared memory. -/
theorem read_zero (address : BitVec width) (count : Nat) :
    read (fun _ => 0#8) address count = 0 := by
  induction count generalizing address with
  | zero => rfl
  | succ count ih =>
      rw [read, ih]
      rfl

/-- Reads of a memory with one byte everywhere do not depend on the address. -/
theorem read_constant (byte : BitVec 8) (address other : BitVec width) (count : Nat) :
    read (fun _ => byte) address count = read (fun _ => byte) other count := by
  induction count generalizing address other with
  | zero => rfl
  | succ count ih => rw [read, read, ih]

/-- A write that covers an earlier one makes it redundant. -/
theorem write_covers (memory : Memory width) {first second : BitVec width}
    {firstCount secondCount : Nat} (firstValue secondValue : Nat)
    (covers : forall address, offset first address < firstCount ->
      offset second address < secondCount) :
    write (write memory first firstCount firstValue) second secondCount secondValue =
      write memory second secondCount secondValue := by
  funext address
  by_cases inSecond : offset second address < secondCount
  · simp only [write, if_pos inSecond]
  · have outside : ¬ offset first address < firstCount :=
      fun inFirst => inSecond (covers address inFirst)
    simp only [write, if_neg inSecond, if_neg outside]

end ByteMemory
end Foundations
