import NewBcpl.Lists.NodeChecks
import NewBcpl.Lists.ListOperators
import NewBcpl.Runtime.ListRuns

namespace NewBcpl
namespace Runtime

open Foundations

/-!
# Strings in lists

How a program can build a list with strings in it, and how it can read them back. Each
producer stores a pointer to the length word of the string or to its first character, and
each consumer adds the eight bytes of the length word or does not.
-/

/-! ## SPLIT and JOIN -/

/-- `bcpl_to_std_string`: the low bytes of the characters up to the first zero. -/
def bcplToStdString (characters : List (BitVec 32)) : List (BitVec 8) :=
  (characters.takeWhile fun character => character != 0#32).map (BitVec.setWidth 8)

/-- `std_string_to_bcpl`; whether `char` has a sign is up to the C++ compiler. -/
def stdStringToBcpl (charSigned : Bool) (characters : List (BitVec 8)) : List (BitVec 32) :=
  characters.map fun character =>
    if charSigned then character.signExtend 32 else character.setWidth 32

/-- The pieces between the occurrences of a delimiter; `skip` characters still belong to
the last occurrence. -/
def piecesFrom (delimiter : List (BitVec 8)) :
    Nat -> List (BitVec 8) -> List (BitVec 8) -> List (List (BitVec 8))
  | _, piece, [] => [piece]
  | skip + 1, piece, _ :: rest => piecesFrom delimiter skip piece rest
  | 0, piece, character :: rest =>
      if delimiter.isPrefixOf (character :: rest) then
        piece :: piecesFrom delimiter (delimiter.length - 1) [] rest
      else piecesFrom delimiter 0 (piece ++ [character]) rest

/-- The strings that `BCPL_SPLIT_STRING` makes. -/
def splitPieces (charSigned : Bool) (source delimiter : List (BitVec 32)) :
    List (List (BitVec 32)) :=
  let text := bcplToStdString source
  match bcplToStdString delimiter with
  | [] => text.map fun character => stdStringToBcpl charSigned [character]
  | first :: others =>
      (piecesFrom (first :: others) 0 [] text).map (stdStringToBcpl charSigned)

/-! ## Routes -/

mutual

/-- How a list is built. Literals come with what they hold, and a string operand with the
string that its pointer points to. -/
inductive Route where
  | manifest (header : Nat) (trees : List Tree)
  | literalCopy (header : Nat) (trees : List Tree)
  | expression (operands : Operands)
  | split (source delimiter : List (BitVec 32))
  | shallowCopy (original : Route)
  | deepCopy (original : Route)
  | concat (first second : Route)
  | inner (outer : Route) (index : Nat)

/-- The operands of a LIST expression, from the last one back to the first. -/
inductive Operands where
  | none
  | int (before : Operands) (value : Word)
  | float (before : Operands) (value : Word)
  | string (before : Operands) (block : Nat) (characters : List (BitVec 32))
  | nullString (before : Operands)
  | list (before : Operands) (value : Route)
  | nullList (before : Operands)

end

mutual

/-- The data generator puts the label of a string at its length word, and the nodes of a
literal point to labels. -/
def literalTree : Tree -> Bool
  | .plain _ => true
  | .string place _ => place = .lengthWord
  | .list trees => literalTrees trees
  | .nullString | .nullList => false

def literalTrees : List Tree -> Bool
  | [] => true
  | tree :: trees => literalTree tree && literalTrees trees

end

section Runs

variable (image : Image) (charSigned : Bool)

/-- The appends of the pieces of SPLIT, each with a pointer to the length word. -/
def AppendsPieces (new : Nat) : Heap -> List (List (BitVec 32)) -> Heap -> Prop
  | heap, [], after => after = heap
  | heap, piece :: rest, after =>
      exists middle, Performs image (heap.allocChars piece).2
          (.appendString (some new) (some ⟨heap.freshString, .lengthWord⟩)) none middle ∧
        AppendsPieces new middle rest after

mutual

/-- The calls of a route, with the list that they give. -/
def Route.Runs : Route -> Heap -> Nat -> Heap -> Prop
  | .manifest header _, heap, result, after => result = header ∧ after = heap
  | .literalCopy header _, heap, result, after =>
      Performs image heap (.literalCopy (some header)) (some result) after
  | .expression operands, heap, result, after =>
      exists created, Performs image heap .createEmpty (some result) created ∧
        operands.Runs result created after
  | .split source delimiter, heap, result, after =>
      exists created, Performs image heap .createEmpty (some result) created ∧
        AppendsPieces image result created (splitPieces charSigned source delimiter) after
  | .shallowCopy original, heap, result, after =>
      exists list middle, original.Runs heap list middle ∧
        Performs image middle (.shallowCopy (some list)) (some result) after
  | .deepCopy original, heap, result, after =>
      exists list middle, original.Runs heap list middle ∧
        Performs image middle (.deepCopy (some list)) (some result) after
  | .concat first second, heap, result, after =>
      exists list middle other further, first.Runs heap list middle ∧
        second.Runs middle other further ∧
        Performs image further (.concat (some list) (some other)) (some result) after
  | .inner outer index, heap, result, after =>
      exists list records node, outer.Runs heap list after ∧
        Chains.Chain after.next (after.headers list).head records ∧
        records[index]? = some node ∧ (after.nodes node).value = .list (some result)

/-- The appends of the operands of a LIST expression. -/
def Operands.Runs : Operands -> Nat -> Heap -> Heap -> Prop
  | .none, _, heap, after => after = heap
  | .int before value, new, heap, after =>
      exists middle, before.Runs new heap middle ∧
        Performs image middle (.appendInt (some new) value) none after
  | .float before value, new, heap, after =>
      exists middle, before.Runs new heap middle ∧
        Performs image middle (.appendFloat (some new) value) none after
  | .string before block _, new, heap, after =>
      exists middle, before.Runs new heap middle ∧
        Performs image middle (.appendString (some new) (some ⟨block, .firstCharacter⟩)) none
          after
  | .nullString before, new, heap, after =>
      exists middle, before.Runs new heap middle ∧
        Performs image middle (.appendString (some new) none) none after
  | .list before value, new, heap, after =>
      exists middle list further, before.Runs new heap middle ∧
        value.Runs middle list further ∧
        Performs image further (.appendList (some new) (some list)) none after
  | .nullList before, new, heap, after =>
      exists middle, before.Runs new heap middle ∧
        Performs image middle (.appendList (some new) none) none after

end

mutual

/-- What the list of a route holds. -/
def Route.trees : Route -> List Tree
  | .manifest _ trees | .literalCopy _ trees => trees
  | .expression operands => operands.trees
  | .split source delimiter =>
      (splitPieces charSigned source delimiter).map (Tree.string .lengthWord)
  | .shallowCopy original => original.trees
  | .deepCopy original => copiedTrees original.trees
  | .concat first second => first.trees ++ second.trees
  | .inner outer index =>
      match outer.trees[index]? with
      | some (.list trees) => trees
      | _ => []

def Operands.trees : Operands -> List Tree
  | .none => []
  | .int before value => before.trees ++ [.plain ⟨intType, .word value⟩]
  | .float before value => before.trees ++ [.plain ⟨floatType, .word value⟩]
  | .string before _ characters => before.trees ++ [.string .firstCharacter characters]
  | .nullString before => before.trees ++ [.nullString]
  | .list before value => before.trees ++ [.list value.trees]
  | .nullList before => before.trees ++ [.nullList]

end

mutual

/-- The literals and the strings of a route are in memory, and a nested list is where the
route takes it from. -/
def Route.Fits (lists : Store) (strings : Strings) : Route -> Prop
  | .manifest header trees => Holds lists strings header trees ∧ literalTrees trees = true
  | .literalCopy header trees =>
      Holds image.lists strings header trees ∧ literalTrees trees = true
  | .expression operands => operands.Fits lists strings
  | .split _ _ => True
  | .shallowCopy original | .deepCopy original => original.Fits lists strings
  | .concat first second => first.Fits lists strings ∧ second.Fits lists strings
  | .inner outer index => outer.Fits lists strings ∧
      exists trees, (outer.trees charSigned)[index]? = some (.list trees)

def Operands.Fits (lists : Store) (strings : Strings) : Operands -> Prop
  | .none => True
  | .int before _ | .float before _ | .nullString before | .nullList before =>
      before.Fits lists strings
  | .string before block characters => before.Fits lists strings ∧
      exists readOnly, strings block = some ⟨readOnly, characters⟩
  | .list before value => before.Fits lists strings ∧ value.Fits lists strings

end

end Runs

/-! ## What was put in -/

/-- An element as it was put in. A string comes with the place to which the stored pointer
points by now, and whether the characters there are still the same. -/
inductive Content where
  | plain (element : Element)
  | nullString
  | string (characters : List (BitVec 32)) (place : StringPlace) (kept : Bool)
  | nullList
  | list (contents : List Content)

/-- The deep copy of a string keeps the characters: it takes the pointer for one to the
first character and stops at a zero. -/
def survivesCopy : StringPlace -> List (BitVec 32) -> Bool
  | .firstCharacter, characters => characters.all fun character => character != 0#32
  | .lengthWord, characters => characters = [] || characters = [1#32]

mutual

/-- The content behind a deep copy. -/
def Content.copied : Content -> Content
  | .plain element => .plain element
  | .nullString => .nullString
  | .string characters place kept =>
      .string characters .firstCharacter (kept && survivesCopy place characters)
  | .nullList => .nullList
  | .list contents => .list (copiedContents contents)

def copiedContents : List Content -> List Content
  | [] => []
  | content :: contents => content.copied :: copiedContents contents

end

mutual

def Tree.content : Tree -> Content
  | .plain element => .plain element
  | .nullString => .nullString
  | .string place characters => .string characters place true
  | .nullList => .nullList
  | .list trees => .list (contentsOf trees)

/-- What a literal holds was put in as it is. -/
def contentsOf : List Tree -> List Content
  | [] => []
  | tree :: trees => tree.content :: contentsOf trees

end

section Contents

variable (charSigned : Bool)

mutual

/-- What was put into the list of a route. -/
def Route.contents : Route -> List Content
  | .manifest _ trees | .literalCopy _ trees => contentsOf trees
  | .expression operands => operands.contents
  | .split source delimiter =>
      (splitPieces charSigned source delimiter).map fun piece => .string piece .lengthWord true
  | .shallowCopy original => original.contents
  | .deepCopy original => copiedContents original.contents
  | .concat first second => first.contents ++ second.contents
  | .inner outer index =>
      match outer.contents[index]? with
      | some (.list contents) => contents
      | _ => []

def Operands.contents : Operands -> List Content
  | .none => []
  | .int before value => before.contents ++ [.plain ⟨intType, .word value⟩]
  | .float before value => before.contents ++ [.plain ⟨floatType, .word value⟩]
  | .string before _ characters => before.contents ++ [.string characters .firstCharacter true]
  | .nullString before => before.contents ++ [.nullString]
  | .list before value => before.contents ++ [.list value.contents]
  | .nullList before => before.contents ++ [.nullList]

end

end Contents

/-! ## Consumers -/

/-- A place in the block of a string, in bytes from the length word on. -/
structure Address where
  block : Nat
  offset : Nat
  deriving DecidableEq, Repr

def StringPlace.offset : StringPlace -> Nat
  | .lengthWord => 0
  | .firstCharacter => 8

/-- The string at an address: its characters start there, behind the length word. -/
def StringAt (strings : Strings) (address : Address) (characters : List (BitVec 32)) : Prop :=
  address.offset = 8 ∧ exists readOnly, strings address.block = some ⟨readOnly, characters⟩

/-- What reads an element: HD with the type that its operand was inferred to have, FOREACH
with one variable, with the element type inferred to be a string or not, AS_STRING of a
node, and JOIN. -/
inductive Consumer where
  | hd (operand : Lists.OperandType)
  | forEach (isString : Bool)
  | asString
  | join
  deriving DecidableEq, Repr

/-- What a consumer adds to the stored pointer. -/
def Consumer.addedBytes : Consumer -> Nat
  | .hd (.list .string _) => 8
  | .hd _ => 0
  | .forEach isString => if isString then 8 else 0
  | .asString | .join => 8

/-- The address that is so many bytes behind the stored pointer. -/
def Element.address (element : Element) (bytes : Nat) : Option Address :=
  match element.value with
  | .string (some pointer) => some ⟨pointer.block, pointer.place.offset + bytes⟩
  | _ => none

/-- The addresses at which JOIN finds the characters; it gives null for a list with an
element of another type, and it follows null pointers. -/
def joinAddresses (heap : Heap) : List Nat -> Option (List Address)
  | [] => some []
  | node :: rest =>
      if (heap.nodes node).type = stringType then
        match (heap.element node).address 8, joinAddresses heap rest with
        | some address, some addresses => some (address :: addresses)
        | _, _ => none
      else none

/-- Where a consumer finds the characters of an element of a list with the given nodes. -/
def Consumer.reads (heap : Heap) (records : List Nat) (index : Nat) :
    Consumer -> Option Address
  | .join => (joinAddresses heap records).bind fun addresses => addresses[index]?
  | .asString => records[index]?.bind fun node =>
      if (heap.nodes node).type = stringType ∧ (heap.nodes node).pad = 0#32 then
        (heap.element node).address Consumer.asString.addedBytes
      else none
  | consumer => records[index]?.bind fun node =>
      (heap.element node).address consumer.addedBytes

end Runtime
end NewBcpl
