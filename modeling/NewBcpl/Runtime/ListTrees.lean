import Mathlib.Data.List.Forall2
import Mathlib.Data.List.TakeWhile
import NewBcpl.Runtime.HeapInvariant

namespace NewBcpl
namespace Runtime

/-!
# What a list holds

A list of elements holds trees: nested lists down to their elements and strings down to
their characters. A list that contains itself holds none. The deep copy of the runtime
computes a function of the trees; on a string it is the identity only where the pointer
is one to the first character.
-/

inductive Tree where
  | plain (element : Element)
  | nullString
  | string (place : StringPlace) (characters : List (BitVec 32))
  | nullList
  | list (trees : List Tree)

/-- The strings of a heap. -/
abbrev Strings := Nat -> Option StringBlock

/-- The tree of an element, with the trees of the nested lists. -/
def DenotesElement (nested : Nat -> List Tree -> Prop) (strings : Strings)
    (element : Element) : Tree -> Prop
  | .plain other =>
      element = other ∧ element.type ≠ stringType ∧ element.type ≠ listType
  | .nullString => element = ⟨stringType, .string none⟩
  | .string place characters =>
      exists block readOnly, element = ⟨stringType, .string (some ⟨block, place⟩)⟩ ∧
        strings block = some ⟨readOnly, characters⟩
  | .nullList => element = ⟨listType, .list none⟩
  | .list trees => exists header, element = ⟨listType, .list (some header)⟩ ∧ nested header trees

/-- The trees of a list with at most the given number of levels. -/
def Denotes (lists : Store) (strings : Strings) : Nat -> Nat -> List Tree -> Prop
  | 0, _, _ => False
  | depth + 1, header, trees =>
      exists elements, lists header = some elements ∧
        List.Forall₂ (DenotesElement (Denotes lists strings depth) strings) elements trees

/-- The trees of the elements of a list. -/
def DenotesAll (lists : Store) (strings : Strings) (depth : Nat) (elements : List Element)
    (trees : List Tree) : Prop :=
  List.Forall₂ (DenotesElement (Denotes lists strings depth) strings) elements trees

/-- Every list of the one store is one of the other. -/
def Store.Within (lists others : Store) : Prop :=
  forall header elements, lists header = some elements -> others header = some elements

def Strings.Within (strings others : Strings) : Prop :=
  forall block content, strings block = some content -> others block = some content

section Growth

variable {lists others : Store} {strings more : Strings}

theorem DenotesElement.mono {nested further : Nat -> List Tree -> Prop} {element : Element}
    {tree : Tree} (denotes : DenotesElement nested strings element tree)
    (grows : forall header trees, nested header trees -> further header trees)
    (keeps : strings.Within more) : DenotesElement further more element tree := by
  cases tree with
  | plain other => exact denotes
  | nullString => exact denotes
  | string place characters =>
      rcases denotes with ⟨block, readOnly, isString, content⟩
      exact ⟨block, readOnly, isString, keeps block _ content⟩
  | nullList => exact denotes
  | list trees =>
      rcases denotes with ⟨header, isList, holds⟩
      exact ⟨header, isList, grows header trees holds⟩

/-- A larger heap does not change what a list holds. -/
theorem Denotes.mono (grows : lists.Within others) (keeps : strings.Within more)
    {depth header : Nat} {trees : List Tree} (denotes : Denotes lists strings depth header trees) :
    Denotes others more depth header trees := by
  induction depth generalizing header trees with
  | zero => exact denotes
  | succ depth ih =>
      rcases denotes with ⟨elements, live, all⟩
      refine ⟨elements, grows header elements live, all.imp ?_⟩
      intro element tree one
      exact one.mono (fun _ _ holds => ih holds) keeps

theorem DenotesAll.mono (grows : lists.Within others) (keeps : strings.Within more)
    {depth : Nat} {elements : List Element} {trees : List Tree}
    (all : DenotesAll lists strings depth elements trees) :
    DenotesAll others more depth elements trees :=
  List.Forall₂.imp (fun _ _ one => one.mono (fun _ _ holds => holds.mono grows keeps) keeps) all

end Growth

/-- A list holds the same trees within a larger number of levels. -/
theorem Denotes.deeper {lists : Store} {strings : Strings} {depth more header : Nat}
    {trees : List Tree} (denotes : Denotes lists strings depth header trees)
    (enough : depth <= more) : Denotes lists strings more header trees := by
  induction depth generalizing more header trees with
  | zero => exact denotes.elim
  | succ depth ih =>
      cases more with
      | zero => exact absurd enough (Nat.not_succ_le_zero depth)
      | succ more =>
          rcases denotes with ⟨elements, live, all⟩
          refine ⟨elements, live, all.imp ?_⟩
          intro element tree one
          exact one.mono (fun _ _ holds => ih holds (Nat.le_of_succ_le_succ enough))
            fun _ _ present => present

/-- The tree of an element is determined if those of the nested lists are. -/
theorem DenotesElement.unique {nested further : Nat -> List Tree -> Prop} {strings : Strings}
    {element : Element} {tree other : Tree}
    (agree : forall header trees others, nested header trees -> further header others ->
      trees = others)
    (denotes : DenotesElement nested strings element tree)
    (again : DenotesElement further strings element other) : tree = other := by
  cases tree with
  | plain first =>
      rcases denotes with ⟨rfl, notString, notList⟩
      cases other with
      | plain second => rw [again.1]
      | nullString => exact absurd (congrArg Element.type again) notString
      | string place characters =>
          rcases again with ⟨block, readOnly, isString, _⟩
          exact absurd (congrArg Element.type isString) notString
      | nullList => exact absurd (congrArg Element.type again) notList
      | list trees =>
          rcases again with ⟨header, isList, _⟩
          exact absurd (congrArg Element.type isList) notList
  | nullString =>
      cases denotes
      cases other with
      | plain second => exact absurd rfl again.2.1
      | nullString => rfl
      | string place characters =>
          rcases again with ⟨block, readOnly, isString, _⟩
          cases isString
      | nullList => cases again
      | list trees =>
          rcases again with ⟨header, isList, _⟩
          cases isList
  | string place characters =>
      rcases denotes with ⟨block, readOnly, rfl, content⟩
      cases other with
      | plain second => exact absurd rfl again.2.1
      | nullString => cases again
      | string otherPlace others =>
          rcases again with ⟨otherBlock, otherReadOnly, isString, otherContent⟩
          cases isString
          rw [content] at otherContent
          cases otherContent
          rfl
      | nullList => cases again
      | list trees =>
          rcases again with ⟨header, isList, _⟩
          cases isList
  | nullList =>
      cases denotes
      cases other with
      | plain second => exact absurd rfl again.2.2
      | nullString => cases again
      | string place characters =>
          rcases again with ⟨block, readOnly, isString, _⟩
          cases isString
      | nullList => rfl
      | list trees =>
          rcases again with ⟨header, isList, _⟩
          cases isList
  | list trees =>
      rcases denotes with ⟨header, rfl, holds⟩
      cases other with
      | plain second => exact absurd rfl again.2.2
      | nullString => cases again
      | string place characters =>
          rcases again with ⟨block, readOnly, isString, _⟩
          cases isString
      | nullList => cases again
      | list others =>
          rcases again with ⟨otherHeader, isList, otherHolds⟩
          cases isList
          rw [agree header trees others holds otherHolds]

theorem forall₂_unique {First Second : Type} {Related Further : First -> Second -> Prop}
    (agree : forall first second other, Related first second -> Further first other ->
      second = other) {firsts : List First} {seconds others : List Second}
    (related : List.Forall₂ Related firsts seconds)
    (again : List.Forall₂ Further firsts others) : seconds = others := by
  induction related generalizing others with
  | nil =>
      cases again
      rfl
  | cons one _ ih =>
      cases again with
      | cons other rest => rw [agree _ _ _ one other, ih rest]

/-- A list holds at most one sequence of trees, also in two stores that agree. -/
theorem Denotes.unique {lists others : Store} {strings : Strings}
    (agree : forall header elements further, lists header = some elements ->
      others header = some further -> elements = further)
    {depth other header : Nat} {trees further : List Tree}
    (denotes : Denotes lists strings depth header trees)
    (again : Denotes others strings other header further) : trees = further := by
  induction depth generalizing other header trees further with
  | zero => exact denotes.elim
  | succ depth ih =>
      cases other with
      | zero => exact again.elim
      | succ other =>
          rcases denotes with ⟨elements, live, all⟩
          rcases again with ⟨otherElements, otherLive, otherAll⟩
          have same := agree header elements otherElements live otherLive
          rw [<- same] at otherAll
          have nestedAgree : forall nested trees others, Denotes lists strings depth nested trees ->
              Denotes _ strings other nested others -> trees = others :=
            fun _ _ _ holds also => ih holds also
          exact forall₂_unique (fun _ _ _ one further => one.unique nestedAgree further) all otherAll

/-- The trees of a list without cycles. -/
def Holds (lists : Store) (strings : Strings) (header : Nat) (trees : List Tree) : Prop :=
  exists depth, Denotes lists strings depth header trees

theorem Holds.unique {lists : Store} {strings : Strings} {header : Nat} {trees others : List Tree}
    (holds : Holds lists strings header trees) (again : Holds lists strings header others) :
    trees = others := by
  rcases holds with ⟨depth, denotes⟩
  rcases again with ⟨other, also⟩
  refine denotes.unique ?_ also
  intro header elements further live otherLive
  rw [live] at otherLive
  exact Option.some.inj otherLive

/-- The relation at one place of two related lists. -/
theorem forall₂_split {First Second : Type} {Related : First -> Second -> Prop}
    {before after : List First} {here : First} {seconds : List Second}
    (related : List.Forall₂ Related (before ++ here :: after) seconds) :
    exists second, Related here second ∧
      seconds.take (before.length + 1) = seconds.take before.length ++ [second] := by
  induction before generalizing seconds with
  | nil =>
      cases related with
      | cons one rest => exact ⟨_, one, rfl⟩
  | cons first before ih =>
      cases related with
      | cons one rest =>
          rcases ih rest with ⟨second, holds, taken⟩
          refine ⟨second, holds, ?_⟩
          rw [List.length_cons, List.take_succ_cons, taken]
          rfl

/-! ## The deep copy of a tree -/

mutual

/-- The tree of the deep copy. -/
def Tree.copied : Tree -> Tree
  | .plain element => .plain element
  | .nullString => .nullString
  | .string place characters =>
      .string .firstCharacter (StringBlock.scanned ⟨false, characters⟩ place)
  | .nullList => .nullList
  | .list trees => .list (copiedTrees trees)

def copiedTrees : List Tree -> List Tree
  | [] => []
  | tree :: trees => tree.copied :: copiedTrees trees

end

mutual

/-- The deep copy finds the characters of every string. -/
def Tree.copyable : Tree -> Bool
  | .string place characters => place = .firstCharacter && characters.all fun c => c != 0#32
  | .list trees => copyableTrees trees
  | _ => true

def copyableTrees : List Tree -> Bool
  | [] => true
  | tree :: trees => tree.copyable && copyableTrees trees

end

mutual

/-- The nodes of the lists in a tree. -/
def Tree.nestedNodes : Tree -> Nat
  | .list trees => nodesOfTrees trees
  | _ => 0

/-- The nodes of a list and of the lists in it. -/
def nodesOfTrees : List Tree -> Nat
  | [] => 0
  | tree :: trees => 1 + tree.nestedNodes + nodesOfTrees trees

end

theorem nodesOfTrees_append (trees others : List Tree) :
    nodesOfTrees (trees ++ others) = nodesOfTrees trees + nodesOfTrees others := by
  induction trees with
  | nil => rw [List.nil_append, nodesOfTrees, Nat.zero_add]
  | cons tree trees ih =>
      rw [List.cons_append, nodesOfTrees, ih, nodesOfTrees]
      omega

mutual

theorem Tree.nestedNodes_copied : forall tree : Tree, tree.copied.nestedNodes = tree.nestedNodes
  | .plain _ | .nullString | .string _ _ | .nullList => rfl
  | .list trees => nodesOfTrees_copied trees

/-- The deep copy has as many nodes. -/
theorem nodesOfTrees_copied :
    forall trees : List Tree, nodesOfTrees (copiedTrees trees) = nodesOfTrees trees
  | [] => rfl
  | tree :: trees => by
      rw [copiedTrees, nodesOfTrees, nodesOfTrees, tree.nestedNodes_copied,
        nodesOfTrees_copied trees]

end

theorem copiedTrees_append (trees others : List Tree) :
    copiedTrees (trees ++ others) = copiedTrees trees ++ copiedTrees others := by
  induction trees with
  | nil => rfl
  | cons tree trees ih => rw [List.cons_append, copiedTrees, ih, copiedTrees, List.cons_append]

theorem scanned_firstCharacter (readOnly : Bool) (characters : List (BitVec 32)) :
    StringBlock.scanned ⟨readOnly, characters⟩ .firstCharacter =
      characters.takeWhile fun c => c != 0#32 := by
  induction characters with
  | nil => rfl
  | cons character rest ih =>
      have unfolds (all : List (BitVec 32)) :
          StringBlock.scanned ⟨readOnly, all⟩ .firstCharacter =
            (all ++ [0#32]).takeWhile fun c => c != 0#32 := rfl
      rw [unfolds] at ih ⊢
      rw [List.cons_append, List.takeWhile_cons, List.takeWhile_cons, ih]

mutual

/-- The deep copy of a tree is the tree itself exactly if it finds all characters. -/
theorem Tree.copied_eq_iff : forall tree : Tree, tree.copied = tree <-> tree.copyable = true
  | .plain _ => iff_of_true rfl rfl
  | .nullString => iff_of_true rfl rfl
  | .string .lengthWord characters => by
      refine iff_of_false ?_ Bool.false_ne_true
      rw [Tree.copied]
      intro equal
      injection equal with place
      cases place
  | .string .firstCharacter characters => by
      rw [Tree.copied, scanned_firstCharacter, Tree.string.injEq, List.takeWhile_eq_self_iff,
        Tree.copyable, Bool.and_eq_true, List.all_eq_true]
      exact and_congr_left' (iff_of_true rfl rfl)
  | .nullList => iff_of_true rfl rfl
  | .list trees => by
      rw [Tree.copied, Tree.list.injEq, Tree.copyable]
      exact copiedTrees_eq_iff trees

theorem copiedTrees_eq_iff :
    forall trees : List Tree, copiedTrees trees = trees <-> copyableTrees trees = true
  | [] => iff_of_true rfl rfl
  | tree :: trees => by
      rw [copiedTrees, copyableTrees, List.cons.injEq, Bool.and_eq_true, tree.copied_eq_iff,
        copiedTrees_eq_iff trees]

end

end Runtime
end NewBcpl
