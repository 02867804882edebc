import NewBcpl.Lists.OperatorRuns
import NewBcpl.Runtime.ListOperations
import NewBcpl.Runtime.StringRoutes

namespace NewBcpl
namespace Runtime

open Foundations

/-!
# Reading strings back

The lists of a route hold what was put in, up to the place to which the stored pointers
point and the characters that a deep copy loses. A consumer therefore reads a string back
exactly if it adds the bytes that are missing in front of the characters.
-/

/-! ## What a copy keeps -/

/-- A scan from the length word only finds the characters of the empty string and of the
string with the one character that looks like its own length. -/
theorem scanned_lengthWord_eq_iff (readOnly : Bool) (characters : List (BitVec 32)) :
    StringBlock.scanned ⟨readOnly, characters⟩ .lengthWord = characters <->
      characters = [] ∨ characters = [1#32] := by
  let length := BitVec.ofNat 64 characters.length
  let low : BitVec 32 := length.setWidth 32
  let high : BitVec 32 := (length >>> 32).setWidth 32
  have scans : StringBlock.scanned ⟨readOnly, characters⟩ .lengthWord =
      (low :: high :: (characters ++ [0#32])).takeWhile fun character => character != 0#32 := rfl
  rw [scans]
  by_cases lowZero : low = 0#32
  · rw [List.takeWhile_cons_of_neg (by rw [lowZero]; decide)]
    constructor
    · exact fun empty => .inl empty.symm
    · rintro (rfl | rfl)
      · rfl
      · exact absurd lowZero (by decide)
  · have lowNonzero : (low != 0#32) = true := bne_iff_ne.mpr lowZero
    rw [@List.takeWhile_cons_of_pos _ (fun character => character != 0#32) _ _ lowNonzero]
    by_cases highZero : high = 0#32
    · rw [List.takeWhile_cons_of_neg (by rw [highZero]; decide)]
      constructor
      · intro single
        have count : characters.length = 1 := by rw [<- single, List.length_singleton]
        have isOne : low = 1#32 := by
          change (BitVec.ofNat 64 characters.length).setWidth 32 = 1#32
          rw [count]
          rfl
        rw [isOne] at single
        exact .inr single.symm
      · rintro (rfl | rfl)
        · exact absurd rfl lowZero
        · rfl
    · have highNonzero : (high != 0#32) = true := bne_iff_ne.mpr highZero
      rw [@List.takeWhile_cons_of_pos _ (fun character => character != 0#32) _ _ highNonzero]
      refine iff_of_false ?_ ?_
      · intro same
        have nonzero : characters.all (fun character => character != 0#32) = true := by
          rw [<- same, List.all_cons, List.all_cons, lowNonzero, highNonzero,
            List.all_takeWhile]
          rfl
        have whole := scanned_firstCharacter false characters
        rw [List.takeWhile_eq_self_iff.mpr (List.all_eq_true.mp nonzero)] at whole
        have tail : (characters ++ [0#32]).takeWhile (fun character => character != 0#32) =
            characters := whole
        rw [tail] at same
        have lengths := congrArg List.length same
        rw [List.length_cons, List.length_cons] at lengths
        omega
      · rintro (rfl | rfl)
        · exact lowZero rfl
        · exact highZero (by decide)

theorem survivesCopy_iff (readOnly : Bool) (place : StringPlace)
    (characters : List (BitVec 32)) :
    StringBlock.scanned ⟨readOnly, characters⟩ place = characters <->
      survivesCopy place characters = true := by
  cases place with
  | firstCharacter =>
      rw [scanned_firstCharacter, List.takeWhile_eq_self_iff, survivesCopy, List.all_eq_true]
  | lengthWord =>
      rw [scanned_lengthWord_eq_iff, survivesCopy, Bool.or_eq_true, decide_eq_true_eq,
        decide_eq_true_eq]

/-- A scan finds no zero. -/
theorem scanned_all (block : StringBlock) (place : StringPlace) :
    (block.scanned place).all (fun character => character != 0#32) = true :=
  List.all_takeWhile

mutual

/-- A tree is what was put in, except for characters that are not kept. -/
def Agrees : Tree -> Content -> Prop
  | .plain element, .plain other => element = other
  | .nullString, .nullString => True
  | .string place current, .string characters other kept =>
      place = other ∧ (current = characters <-> kept = true) ∧
        (kept = false -> place = .firstCharacter ∧
          current.all (fun character => character != 0#32) = true)
  | .nullList, .nullList => True
  | .list trees, .list contents => AgreeAll trees contents
  | _, _ => False

def AgreeAll : List Tree -> List Content -> Prop
  | [], [] => True
  | tree :: trees, content :: contents => Agrees tree content ∧ AgreeAll trees contents
  | _, _ => False

end

mutual

theorem Agrees.copied : forall {tree : Tree} {content : Content}, Agrees tree content ->
    Agrees tree.copied content.copied
  | .plain _, .plain _, agrees => agrees
  | .nullString, .nullString, _ => trivial
  | .nullList, .nullList, _ => trivial
  | .list _, .list _, agrees => AgreeAll.copied agrees
  | .string place current, .string characters other kept, agrees => by
      rcases agrees with ⟨rfl, same, lost⟩
      refine ⟨rfl, ?_, fun _ => ⟨rfl, scanned_all _ _⟩⟩
      cases kept with
      | true =>
          rw [same.mpr rfl, Bool.true_and]
          exact survivesCopy_iff false place characters
      | false =>
          rcases lost rfl with ⟨rfl, nonzero⟩
          rw [(survivesCopy_iff false .firstCharacter current).mpr nonzero, Bool.false_and]
          exact same

theorem AgreeAll.copied : forall {trees : List Tree} {contents : List Content},
    AgreeAll trees contents -> AgreeAll (copiedTrees trees) (copiedContents contents)
  | [], [], _ => trivial
  | _ :: _, _ :: _, agrees => ⟨agrees.1.copied, AgreeAll.copied agrees.2⟩

end

mutual

theorem agrees_content : forall tree : Tree, Agrees tree tree.content
  | .plain _ => rfl
  | .nullString | .nullList => trivial
  | .string _ _ => ⟨rfl, iff_of_true rfl rfl, nofun⟩
  | .list trees => agreeAll_contentsOf trees

theorem agreeAll_contentsOf : forall trees : List Tree, AgreeAll trees (contentsOf trees)
  | [] => trivial
  | tree :: trees => ⟨agrees_content tree, agreeAll_contentsOf trees⟩

end

theorem AgreeAll.append {trees others : List Tree} {contents further : List Content}
    (agrees : AgreeAll trees contents) (also : AgreeAll others further) :
    AgreeAll (trees ++ others) (contents ++ further) := by
  induction trees generalizing contents with
  | nil =>
      cases contents with
      | nil => exact also
      | cons content contents => exact agrees.elim
  | cons tree trees ih =>
      cases contents with
      | nil => exact agrees.elim
      | cons content contents => exact ⟨agrees.1, ih agrees.2⟩

/-- The contents at an index are those of the tree there. -/
theorem AgreeAll.getElem? {trees : List Tree} {contents : List Content}
    (agrees : AgreeAll trees contents) (index : Nat) :
    (trees[index]? = none ∧ contents[index]? = none) ∨
      exists tree content, trees[index]? = some tree ∧ contents[index]? = some content ∧
        Agrees tree content := by
  induction trees generalizing contents index with
  | nil =>
      cases contents with
      | nil => exact .inl ⟨rfl, rfl⟩
      | cons content contents => exact agrees.elim
  | cons tree trees ih =>
      cases contents with
      | nil => exact agrees.elim
      | cons content contents =>
          cases index with
          | zero => exact .inr ⟨tree, content, rfl, rfl, agrees.1⟩
          | succ index => exact ih agrees.2 index

/-- One string that was just put in. -/
theorem agreeAll_string (place : StringPlace) (characters : List (BitVec 32)) :
    AgreeAll [.string place characters] [.string characters place true] :=
  ⟨⟨rfl, iff_of_true rfl rfl, nofun⟩, trivial⟩

section Routes

variable (charSigned : Bool)

mutual

/-- A route holds what was put in. -/
theorem Route.agrees : forall route : Route,
    AgreeAll (route.trees charSigned) (route.contents charSigned)
  | .manifest _ trees | .literalCopy _ trees => agreeAll_contentsOf trees
  | .expression operands => operands.agrees
  | .split source delimiter => by
      rw [Route.trees, Route.contents]
      induction splitPieces charSigned source delimiter with
      | nil => trivial
      | cons piece rest ih => exact (agreeAll_string .lengthWord piece).append ih
  | .shallowCopy original => original.agrees
  | .deepCopy original => original.agrees.copied
  | .concat first second => first.agrees.append second.agrees
  | .inner outer index => by
      rw [Route.trees, Route.contents]
      rcases outer.agrees.getElem? index with
        ⟨isTree, isContent⟩ | ⟨tree, content, isTree, isContent, agrees⟩
      · rw [isTree, isContent]
        trivial
      · rw [isTree, isContent]
        cases tree <;> cases content <;>
          first
            | exact trivial
            | exact agrees
            | exact agrees.elim

theorem Operands.agrees : forall operands : Operands,
    AgreeAll (operands.trees charSigned) (operands.contents charSigned)
  | .none => trivial
  | .int before _ | .float before _ => before.agrees.append ⟨rfl, trivial⟩
  | .string before _ characters =>
      before.agrees.append (agreeAll_string .firstCharacter characters)
  | .nullString before | .nullList before => before.agrees.append ⟨trivial, trivial⟩
  | .list before value => before.agrees.append ⟨value.agrees, trivial⟩

end

end Routes

/-! ## Routes run -/

section Fits

variable {image : Image} {charSigned : Bool} {lists others : Store} {strings more : Strings}

mutual

/-- A larger heap holds the literals and strings of a route as well. -/
theorem Route.Fits.mono (grows : lists.Within others) (keeps : strings.Within more) :
    forall {route : Route}, route.Fits image charSigned lists strings ->
      route.Fits image charSigned others more
  | .manifest _ _, fits => by
      rcases fits with ⟨⟨depth, denotes⟩, isLiteral⟩
      exact ⟨⟨depth, denotes.mono grows keeps⟩, isLiteral⟩
  | .literalCopy _ _, fits => by
      rcases fits with ⟨⟨depth, denotes⟩, isLiteral⟩
      exact ⟨⟨depth, denotes.mono (fun _ _ live => live) keeps⟩, isLiteral⟩
  | .expression operands, fits => @Operands.Fits.mono grows keeps operands fits
  | .split _ _, _ => trivial
  | .shallowCopy original, fits | .deepCopy original, fits =>
      @Route.Fits.mono grows keeps original fits
  | .concat _ _, fits => ⟨Route.Fits.mono grows keeps fits.1, Route.Fits.mono grows keeps fits.2⟩
  | .inner _ _, fits => ⟨Route.Fits.mono grows keeps fits.1, fits.2⟩

theorem Operands.Fits.mono (grows : lists.Within others) (keeps : strings.Within more) :
    forall {operands : Operands}, operands.Fits image charSigned lists strings ->
      operands.Fits image charSigned others more
  | .none, _ => trivial
  | .int before _, fits | .float before _, fits | .nullString before, fits
  | .nullList before, fits => @Operands.Fits.mono grows keeps before fits
  | .string _ block _, fits => by
      rcases fits with ⟨before, readOnly, present⟩
      exact ⟨Operands.Fits.mono grows keeps before, readOnly, keeps block _ present⟩
  | .list _ _, fits => ⟨Operands.Fits.mono grows keeps fits.1, Route.Fits.mono grows keeps fits.2⟩

end

end Fits

namespace Snapshot

variable {snapshot before middle after : Snapshot} {image : Image} {charSigned : Bool}
  {lists lists' : Store} {new : Nat} {elements : List Element} {trees : List Tree} {depth : Nat}

/-- More lists are known behind some calls; a list that existed and was not known stays
unknown. -/
structure Evaluates (before : Snapshot) (lists : Store) (after : Snapshot) (lists' : Store) :
    Prop where
  frame : Frame [] [] before after
  grows : lists.Within lists'
  known : lists'.Within after.store
  unknown : forall header, before.store header ≠ none -> lists header = none ->
    lists' header = none

theorem Evaluates.refl (known : lists.Within snapshot.store) :
    snapshot.Evaluates lists snapshot lists :=
  ⟨Frame.refl _ _ _, fun _ _ live => live, known, fun _ _ absent => absent⟩

theorem Evaluates.trans {lists'' : Store} (first : before.Evaluates lists middle lists')
    (second : middle.Evaluates lists' after lists'') : before.Evaluates lists after lists'' where
  frame := first.frame.trans second.frame
  grows header elements live := second.grows header elements (first.grows header elements live)
  known := second.known
  unknown header present absent := by
    apply second.unknown header ?_ (first.unknown header present absent)
    rw [first.frame.store header present List.not_mem_nil]
    exact present

/-- A new list becomes known. -/
theorem Creates.evaluates (created : before.Creates new elements after)
    (known : lists.Within before.store) :
    before.Evaluates lists after (Function.update lists new (some elements)) where
  frame := created.frame
  grows header others live := by
    rw [Function.update_of_ne]
    · exact live
    · rintro rfl
      have isLive := known header others live
      rw [created.absent] at isLive
      cases isLive
  known header others live := by
    by_cases same : header = new
    · rw [same, Function.update_self] at live
      rw [same, <- live]
      exact created.live
    · rw [Function.update_of_ne same] at live
      exact created.frame.live (known header others live) List.not_mem_nil
  unknown header present absent := by
    rw [Function.update_of_ne]
    · exact absent
    · rintro rfl
      exact present created.absent

/-- The new lists of a copy of all levels become known. -/
def withNew (lists before after : Store) : Store :=
  fun header => (lists header).or (newLists before after header)

theorem Duplicates.evaluates (duplicates : before.Duplicates new depth trees after)
    (known : lists.Within before.store) :
    before.Evaluates lists after (withNew lists before.store after.store) ∧
      Holds (withNew lists before.store after.store) after.heap.strings new trees := by
  have unknown {header : Nat} (absent : before.store header = none) : lists header = none := by
    cases isKnown : lists header with
    | none => rfl
    | some elements =>
        have live := known header elements isKnown
        rw [absent] at live
        cases live
  refine ⟨⟨duplicates.frame, ?_, ?_, ?_⟩, depth, duplicates.holds.mono ?_ fun _ _ present => present⟩
  · intro header elements live
    rw [withNew, live]
    rfl
  · intro header elements live
    unfold withNew at live
    cases isKnown : lists header with
    | none =>
        rw [isKnown] at live
        exact (newLists_absent live).2
    | some others =>
        rw [isKnown] at live
        cases live
        exact duplicates.frame.live (known header elements isKnown) List.not_mem_nil
  · intro header present absent
    rw [withNew, absent]
    exact if_neg present
  · intro header elements live
    rw [withNew, unknown (newLists_absent live).1]
    exact live

/-! ### Lists under construction -/

/-- A new list that is not known yet gets its elements one by one. -/
structure Filling (before : Snapshot) (lists : Store) (new : Nat) (trees : List Tree)
    (after : Snapshot) (lists' : Store) : Prop where
  frame : Frame [new] [] before after
  grows : lists.Within lists'
  known : lists'.Within after.store
  unknown : forall header, before.store header ≠ none -> lists header = none ->
    lists' header = none
  absent : lists' new = none
  content : exists elements depth, after.store new = some elements ∧
    Exact after.heap new elements ∧ DenotesAll lists' after.heap.strings depth elements trees

theorem Filling.start (live : snapshot.store new = some [])
    (isExact : Exact snapshot.heap new []) (known : lists.Within snapshot.store)
    (absent : lists new = none) : snapshot.Filling lists new [] snapshot lists :=
  ⟨Frame.refl _ _ _, fun _ _ live => live, known, fun _ _ missing => missing, absent,
    [], 0, live, isExact, List.Forall₂.nil⟩

/-- Calls that leave the list alone. -/
theorem Filling.evaluate {lists'' : Store} (fills : before.Filling lists new trees middle lists')
    (evaluates : middle.Evaluates lists' after lists'') :
    before.Filling lists new trees after lists'' where
  frame := fills.frame.trans (evaluates.frame.weaken
    (fun _ member => absurd member List.not_mem_nil) fun _ member => member)
  grows header elements known := evaluates.grows header elements (fills.grows header elements known)
  known := evaluates.known
  unknown header present absent := by
    refine evaluates.unknown header ?_ (fills.unknown header present absent)
    rcases fills.content with ⟨elements, depth, isLive, _⟩
    by_cases same : header = new
    · rw [same, isLive]
      exact Option.some_ne_none elements
    · rw [fills.frame.store header present (by rw [List.mem_singleton]; exact same)]
      exact present
  absent := by
    rcases fills.content with ⟨elements, depth, isLive, _⟩
    apply evaluates.unknown new ?_ fills.absent
    rw [isLive]
    exact Option.some_ne_none elements
  content := by
    rcases fills.content with ⟨elements, depth, isLive, isExact, denotes⟩
    exact ⟨elements, depth, evaluates.frame.live isLive List.not_mem_nil,
      isExact.of_header (evaluates.frame.header isLive List.not_mem_nil),
      denotes.mono evaluates.grows evaluates.frame.strings⟩

/-- One element. -/
theorem Filling.exists_append {element : Element} {tree : Tree}
    (fills : before.Filling lists new trees middle lists')
    (denotes : DenotesElement (Denotes lists' middle.heap.strings depth) middle.heap.strings
      element tree) :
    exists after : Snapshot, middle.heap.appendAtom new element = some after.heap ∧
      middle.heap.appendChecked (some new) element = some after.heap ∧
      before.Filling lists new (trees ++ [tree]) after lists' := by
  rcases fills.content with ⟨elements, levels, isLive, isExact, all⟩
  rcases middle.lists new elements isLive with ⟨records, isOwned, _⟩
  rcases exists_appendAtom isLive element with ⟨after, performs, extended⟩
  have levelsBelow : levels <= max levels depth := Nat.le_max_left _ _
  have depthBelow : depth <= max levels depth := Nat.le_max_right _ _
  have raise {one : Element} {other : Tree} {some : Nat} (below : some <= max levels depth)
      (denotes : DenotesElement (Denotes lists' middle.heap.strings some) middle.heap.strings
        one other) :
      DenotesElement (Denotes lists' after.heap.strings (max levels depth)) after.heap.strings
        one other :=
    denotes.mono (fun _ _ holds => (holds.deeper below).mono (fun _ _ live => live)
      extended.frame.strings) extended.frame.strings
  refine ⟨after, performs, ?_, fills.frame.trans extended.frame, fills.grows, ?_, fills.unknown,
    fills.absent, elements ++ [element], max levels depth, extended.live,
    extended.isExact isExact, ?_⟩
  · rw [Heap.appendChecked, if_pos isOwned.sentinel, performs]
  · intro header others known
    apply extended.frame.live (fills.known header others known)
    intro member
    rw [List.mem_singleton] at member
    rw [member, fills.absent] at known
    cases known
  · apply List.rel_append
    · exact List.Forall₂.imp (fun _ _ denotes => raise levelsBelow denotes) all
    · exact List.Forall₂.cons (raise depthBelow denotes) List.Forall₂.nil

/-- The pieces of SPLIT. -/
theorem Filling.exists_pieces (fills : before.Filling lists new trees middle lists')
    (pieces : List (List (BitVec 32))) :
    exists after : Snapshot, AppendsPieces image new middle.heap pieces after.heap ∧
      before.Filling lists new (trees ++ pieces.map (Tree.string .lengthWord)) after lists' := by
  induction pieces generalizing middle trees with
  | nil =>
      refine ⟨middle, rfl, ?_⟩
      rw [List.map_nil, List.append_nil]
      exact fills
  | cons piece rest ih =>
      let allocated := middle.allocChars piece
      have evaluates : middle.Evaluates lists' allocated lists' :=
        ⟨middle.allocChars_frame piece, fun _ _ live => live, fills.known, fun _ _ absent => absent⟩
      have present : allocated.heap.strings middle.heap.freshString = some ⟨false, piece⟩ :=
        Function.update_self _ _ _
      have denotes : DenotesElement (Denotes lists' allocated.heap.strings 0)
          allocated.heap.strings ⟨stringType, .string (some ⟨middle.heap.freshString, .lengthWord⟩)⟩
          (.string .lengthWord piece) := ⟨_, false, rfl, present⟩
      rcases (fills.evaluate evaluates).exists_append denotes with
        ⟨appended, _, performs, further⟩
      rcases ih further with ⟨after, runs, filled⟩
      refine ⟨after, ⟨appended.heap, ⟨0, congrArg withoutResult performs⟩, runs⟩, ?_⟩
      rw [List.append_assoc, List.singleton_append] at filled
      exact filled

/-- A finished list holds the trees of its elements. -/
theorem Creates.holds (created : before.Creates new elements after)
    (known : lists.Within before.store)
    (all : DenotesAll lists before.heap.strings depth elements trees) :
    Holds (Function.update lists new (some elements)) after.heap.strings new trees :=
  ⟨depth + 1, elements, Function.update_self _ _ _,
    all.mono (created.evaluates known).grows created.frame.strings⟩

/-- The list under construction is finished. -/
theorem Filling.finish {opened : Snapshot} (opens : before.Opens new 0#64 opened)
    (fills : opened.Filling lists new trees after lists') :
    exists elements, before.Evaluates lists after (Function.update lists' new (some elements)) ∧
      Holds (Function.update lists' new (some elements)) after.heap.strings new trees := by
  rcases fills.content with ⟨elements, depth, live, isExact, all⟩
  have grows : lists'.Within (Function.update lists' new (some elements)) := by
    intro header others isKnown
    rw [Function.update_of_ne]
    · exact isKnown
    · rintro rfl
      rw [fills.absent] at isKnown
      cases isKnown
  refine ⟨elements, ⟨(opens.frame.trans fills.frame).closeList opens.absent live isExact, ?_, ?_,
    ?_⟩, depth + 1, elements, Function.update_self _ _ _,
    all.mono grows fun _ _ present => present⟩
  · intro header others isKnown
    exact grows header others (fills.grows header others isKnown)
  · intro header others isKnown
    by_cases same : header = new
    · rw [same, Function.update_self] at isKnown
      rw [same, <- isKnown]
      exact live
    · rw [Function.update_of_ne same] at isKnown
      exact fills.known header others isKnown
  · intro header present absent
    have different : header ≠ new := by
      rintro rfl
      exact present opens.absent
    rw [Function.update_of_ne different]
    apply fills.unknown header ?_ absent
    rw [opens.store, Function.update_of_ne different]
    exact present

/-- A new list that is not known yet. -/
theorem exists_opened (known : lists.Within before.store) :
    exists new opened, Performs image before.heap .createEmpty (some new) opened.heap ∧
      before.Opens new 0#64 opened ∧ opened.Filling lists new [] opened lists := by
  rcases before.exists_createEmpty with ⟨new, opened, creates, opens⟩
  have absent : lists new = none := by
    cases isKnown : lists new with
    | none => rfl
    | some elements =>
        have live := known new elements isKnown
        rw [opens.absent] at live
        cases live
  refine ⟨new, opened, ⟨0, by rw [perform, creates]⟩, opens,
    Filling.start opens.live opens.isExact ?_ absent⟩
  intro header elements isKnown
  rw [opens.store, Function.update_of_ne]
  · exact known header elements isKnown
  · rintro rfl
    rw [absent] at isKnown
    cases isKnown

/-- The tree at an index of a list. -/
theorem denotes_getElem {strings : Strings} {nested : Nat -> List Tree -> Prop}
    (all : List.Forall₂ (DenotesElement nested strings) elements trees) {index : Nat} {tree : Tree}
    (isTree : trees[index]? = some tree) :
    exists element, elements[index]? = some element ∧ DenotesElement nested strings element tree := by
  induction all generalizing index with
  | nil => cases isTree
  | cons one _ ih =>
      cases index with
      | zero =>
          cases isTree
          exact ⟨_, rfl, one⟩
      | succ index => exact ih isTree

end Snapshot

section Existence

variable (image : Image) (charSigned : Bool)

mutual

/-- A route whose literals and strings are in memory runs, and its list holds its trees. -/
theorem Route.exists_run : forall (route : Route) {before : Snapshot} {lists : Store},
    lists.Within before.store -> route.Fits image charSigned lists before.heap.strings ->
      exists (header : Nat) (after : Snapshot) (lists' : Store),
        route.Runs image charSigned before.heap header after.heap ∧
        before.Evaluates lists after lists' ∧
        Holds lists' after.heap.strings header (route.trees charSigned)
  | .manifest header _, before, lists, known, fits =>
      ⟨header, before, lists, ⟨rfl, rfl⟩, Snapshot.Evaluates.refl known, fits.1⟩
  | .literalCopy header trees, before, lists, known, fits => by
      rcases fits.1 with ⟨depth, denotes⟩
      rcases Snapshot.exists_literalCopy (fun _ _ present => present) denotes (Nat.le_refl _) with
        ⟨new, after, performs, duplicates⟩
      have evaluates := duplicates.evaluates known
      exact ⟨new, after, _, ⟨_, performs⟩, evaluates.1, evaluates.2⟩
  | .expression operands, before, lists, known, fits => by
      rcases Snapshot.exists_opened known with ⟨new, opened, creates, opens, fills⟩
      rcases operands.exists_run fills
        (Operands.Fits.mono (fun _ _ live => live) opens.frame.strings fits) with
        ⟨after, lists', runs, filled⟩
      rcases filled.finish opens with ⟨elements, evaluates, holds⟩
      exact ⟨new, after, _, ⟨opened.heap, creates, runs⟩, evaluates, holds⟩
  | .split source delimiter, before, lists, known, _ => by
      rcases Snapshot.exists_opened known with ⟨new, opened, creates, opens, fills⟩
      rcases fills.exists_pieces (splitPieces charSigned source delimiter) with
        ⟨after, runs, filled⟩
      rcases filled.finish opens with ⟨elements, evaluates, holds⟩
      exact ⟨new, after, _, ⟨opened.heap, creates, runs⟩, evaluates, holds⟩
  | .shallowCopy original, before, lists, known, fits => by
      rcases original.exists_run known fits with
        ⟨list, middle, lists', runs, evaluates, depth, denotes⟩
      cases depth with
      | zero => exact denotes.elim
      | succ depth =>
          rcases denotes with ⟨elements, isKnown, all⟩
          rcases Snapshot.exists_shallowCopy (evaluates.known list elements isKnown)
            (Nat.le_refl _) with ⟨new, after, performs, created⟩
          exact ⟨new, after, _, ⟨list, middle.heap, runs, _, performs⟩,
            evaluates.trans (created.evaluates evaluates.known),
            created.holds evaluates.known all⟩
  | .deepCopy original, before, lists, known, fits => by
      rcases original.exists_run known fits with
        ⟨list, middle, lists', runs, evaluates, depth, denotes⟩
      have sources : Snapshot.Sources lists' middle.heap.strings middle.heap.freshNode middle :=
        ⟨evaluates.known, fun _ _ present => present,
          fun header elements isKnown => middle.length_le (evaluates.known header elements isKnown)⟩
      rcases Snapshot.exists_deepCopy sources denotes (Nat.le_refl _) with
        ⟨new, after, performs, duplicates⟩
      have further := duplicates.evaluates evaluates.known
      exact ⟨new, after, _, ⟨list, middle.heap, runs, _, performs⟩, evaluates.trans further.1,
        further.2⟩
  | .concat first second, before, lists, known, fits => by
      rcases first.exists_run known fits.1 with
        ⟨list, middle, lists', runs, evaluates, depth, denotes⟩
      rcases second.exists_run evaluates.known
        (Route.Fits.mono evaluates.grows evaluates.frame.strings fits.2) with
        ⟨other, further, lists'', also, evaluatesMore, otherDepth, otherDenotes⟩
      cases depth with
      | zero => exact denotes.elim
      | succ depth =>
          cases otherDepth with
          | zero => exact otherDenotes.elim
          | succ otherDepth =>
              rcases denotes with ⟨elements, isKnown, all⟩
              rcases otherDenotes with ⟨others, otherKnown, otherAll⟩
              have still := evaluatesMore.grows list elements isKnown
              rcases Snapshot.exists_concat (evaluatesMore.known list elements still)
                (evaluatesMore.known other others otherKnown) (Nat.le_refl _) with
                ⟨new, after, performs, created⟩
              have raise {depth more : Nat} {strings : Strings} {elements : List Element}
                  {trees : List Tree} (below : depth <= more)
                  (all : DenotesAll lists'' strings depth elements trees) :
                  DenotesAll lists'' strings more elements trees :=
                List.Forall₂.imp (fun _ _ one => one.mono (fun _ _ holds => holds.deeper below)
                  fun _ _ present => present) all
              have joined := List.rel_append
                (raise (Nat.le_max_left depth otherDepth)
                  (DenotesAll.mono evaluatesMore.grows evaluatesMore.frame.strings all))
                (raise (Nat.le_max_right depth otherDepth) otherAll)
              exact ⟨new, after, _,
                ⟨list, middle.heap, other, further.heap, runs, also, _, performs⟩,
                (evaluates.trans evaluatesMore).trans (created.evaluates evaluatesMore.known),
                created.holds evaluatesMore.known joined⟩
  | .inner outer index, before, lists, known, fits => by
      rcases fits with ⟨outerFits, trees, isList⟩
      rcases outer.exists_run known outerFits with
        ⟨list, after, lists', runs, evaluates, depth, denotes⟩
      cases depth with
      | zero => exact denotes.elim
      | succ depth =>
          rcases denotes with ⟨elements, isKnown, all⟩
          rcases Snapshot.denotes_getElem all isList with ⟨element, isElement, header, rfl, holds⟩
          rcases after.lists list elements (evaluates.known list elements isKnown) with
            ⟨records, isOwned, represents⟩
          rw [<- represents, List.getElem?_map, Option.map_eq_some_iff] at isElement
          rcases isElement with ⟨node, isNode, value⟩
          refine ⟨header, after, lists', ⟨list, records, node, runs, isOwned.chain, isNode,
            congrArg Element.value value⟩, evaluates, depth, ?_⟩
          rw [Route.trees, isList]
          exact holds

/-- The operands of a LIST expression. -/
theorem Operands.exists_run : forall (operands : Operands) {before : Snapshot} {lists : Store}
    {new : Nat}, before.Filling lists new [] before lists ->
      operands.Fits image charSigned lists before.heap.strings ->
      exists (after : Snapshot) (lists' : Store),
        operands.Runs image charSigned new before.heap after.heap ∧
        before.Filling lists new (operands.trees charSigned) after lists'
  | .none, before, lists, new, fills, _ => ⟨before, lists, rfl, fills⟩
  | .int others value, before, lists, new, fills, fits => by
      rcases others.exists_run fills fits with ⟨middle, lists', runs, filled⟩
      have denotes : DenotesElement (Denotes lists' middle.heap.strings 0) middle.heap.strings
          ⟨intType, .word value⟩ (.plain ⟨intType, .word value⟩) :=
        ⟨rfl, (by decide : intType ≠ stringType), (by decide : intType ≠ listType)⟩
      rcases filled.exists_append denotes with ⟨after, _, performs, further⟩
      exact ⟨after, lists', ⟨middle.heap, runs, 0, congrArg withoutResult performs⟩, further⟩
  | .float others value, before, lists, new, fills, fits => by
      rcases others.exists_run fills fits with ⟨middle, lists', runs, filled⟩
      have denotes : DenotesElement (Denotes lists' middle.heap.strings 0) middle.heap.strings
          ⟨floatType, .word value⟩ (.plain ⟨floatType, .word value⟩) :=
        ⟨rfl, (by decide : floatType ≠ stringType), (by decide : floatType ≠ listType)⟩
      rcases filled.exists_append denotes with ⟨after, _, performs, further⟩
      exact ⟨after, lists', ⟨middle.heap, runs, 0, congrArg withoutResult performs⟩, further⟩
  | .string others block characters, before, lists, new, fills, fits => by
      rcases fits with ⟨othersFit, readOnly, present⟩
      rcases others.exists_run fills othersFit with ⟨middle, lists', runs, filled⟩
      have denotes : DenotesElement (Denotes lists' middle.heap.strings 0) middle.heap.strings
          ⟨stringType, .string (some ⟨block, .firstCharacter⟩)⟩
          (.string .firstCharacter characters) :=
        ⟨block, readOnly, rfl, filled.frame.strings block _ present⟩
      rcases filled.exists_append denotes with ⟨after, _, performs, further⟩
      exact ⟨after, lists', ⟨middle.heap, runs, 0, congrArg withoutResult performs⟩, further⟩
  | .nullString others, before, lists, new, fills, fits => by
      rcases others.exists_run fills fits with ⟨middle, lists', runs, filled⟩
      have denotes : DenotesElement (Denotes lists' middle.heap.strings 0) middle.heap.strings
          ⟨stringType, .string none⟩ .nullString := rfl
      rcases filled.exists_append denotes with ⟨after, _, performs, further⟩
      exact ⟨after, lists', ⟨middle.heap, runs, 0, congrArg withoutResult performs⟩, further⟩
  | .list others value, before, lists, new, fills, fits => by
      rcases others.exists_run fills fits.1 with ⟨middle, lists', runs, filled⟩
      rcases value.exists_run filled.known
        (Route.Fits.mono filled.grows filled.frame.strings fits.2) with
        ⟨header, further, lists'', also, evaluates, depth, holds⟩
      have denotes : DenotesElement (Denotes lists'' further.heap.strings depth)
          further.heap.strings ⟨listType, .list (some header)⟩
          (.list (value.trees charSigned)) := ⟨header, rfl, holds⟩
      rcases (filled.evaluate evaluates).exists_append denotes with
        ⟨after, performs, _, result⟩
      exact ⟨after, lists'', ⟨middle.heap, header, further.heap, runs, also, 0,
        congrArg withoutResult performs⟩, result⟩
  | .nullList others, before, lists, new, fills, fits => by
      rcases others.exists_run fills fits with ⟨middle, lists', runs, filled⟩
      have denotes : DenotesElement (Denotes lists' middle.heap.strings 0) middle.heap.strings
          ⟨listType, .list none⟩ .nullList := rfl
      rcases filled.exists_append denotes with ⟨after, performs, _, further⟩
      exact ⟨after, lists', ⟨middle.heap, runs, 0, congrArg withoutResult performs⟩, further⟩

end

end Existence

section Determinism

variable {image : Image} {charSigned : Bool}

theorem AppendsPieces.unique {new : Nat} {heap after others : Heap}
    {pieces : List (List (BitVec 32))} (appends : AppendsPieces image new heap pieces after)
    (again : AppendsPieces image new heap pieces others) : others = after := by
  induction pieces generalizing heap with
  | nil => exact again.trans appends.symm
  | cons piece rest ih =>
      rcases appends with ⟨middle, performs, further⟩
      rcases again with ⟨other, performsAgain, furtherAgain⟩
      rcases performs.unique performsAgain with ⟨_, rfl⟩
      exact ih further furtherAgain

mutual

/-- A route has one result. -/
theorem Route.Runs.unique : forall {route : Route} {heap after others : Heap}
    {result other : Nat}, route.Runs image charSigned heap result after ->
      route.Runs image charSigned heap other others -> other = result ∧ others = after
  | .manifest _ _, _, _, _, _, _, runs, again => by
      rcases runs with ⟨rfl, rfl⟩
      exact again
  | .literalCopy _ _, _, _, _, _, _, runs, again => by
      rcases Performs.unique runs again with ⟨same, sameHeap⟩
      exact ⟨Option.some.inj same, sameHeap⟩
  | .expression operands, _, _, _, _, _, runs, again => by
      rcases runs with ⟨created, creates, appends⟩
      rcases again with ⟨other, createsAgain, appendsAgain⟩
      rcases creates.unique createsAgain with ⟨same, rfl⟩
      cases same
      exact ⟨rfl, Operands.Runs.unique appends appendsAgain⟩
  | .split _ _, _, _, _, _, _, runs, again => by
      rcases runs with ⟨created, creates, appends⟩
      rcases again with ⟨other, createsAgain, appendsAgain⟩
      rcases creates.unique createsAgain with ⟨same, rfl⟩
      cases same
      exact ⟨rfl, appends.unique appendsAgain⟩
  | .shallowCopy original, _, _, _, _, _, runs, again => by
      rcases runs with ⟨list, middle, first, performs⟩
      rcases again with ⟨otherList, otherMiddle, firstAgain, performsAgain⟩
      rcases Route.Runs.unique first firstAgain with ⟨rfl, rfl⟩
      rcases performs.unique performsAgain with ⟨same, sameHeap⟩
      exact ⟨Option.some.inj same, sameHeap⟩
  | .deepCopy original, _, _, _, _, _, runs, again => by
      rcases runs with ⟨list, middle, first, performs⟩
      rcases again with ⟨otherList, otherMiddle, firstAgain, performsAgain⟩
      rcases Route.Runs.unique first firstAgain with ⟨rfl, rfl⟩
      rcases performs.unique performsAgain with ⟨same, sameHeap⟩
      exact ⟨Option.some.inj same, sameHeap⟩
  | .concat _ _, _, _, _, _, _, runs, again => by
      rcases runs with ⟨list, middle, second, further, first, next, performs⟩
      rcases again with
        ⟨otherList, otherMiddle, otherSecond, otherFurther, firstAgain, nextAgain, performsAgain⟩
      rcases Route.Runs.unique first firstAgain with ⟨rfl, rfl⟩
      rcases Route.Runs.unique next nextAgain with ⟨rfl, rfl⟩
      rcases performs.unique performsAgain with ⟨same, sameHeap⟩
      exact ⟨Option.some.inj same, sameHeap⟩
  | .inner _ _, _, _, _, _, _, runs, again => by
      rcases runs with ⟨list, records, node, first, chain, isNode, value⟩
      rcases again with ⟨otherList, otherRecords, otherNode, firstAgain, chainAgain, isOther, isValue⟩
      rcases Route.Runs.unique first firstAgain with ⟨rfl, rfl⟩
      cases chain.unique chainAgain
      rw [isNode] at isOther
      cases isOther
      rw [value] at isValue
      cases isValue
      exact ⟨rfl, rfl⟩

theorem Operands.Runs.unique : forall {operands : Operands} {new : Nat}
    {heap after others : Heap}, operands.Runs image charSigned new heap after ->
      operands.Runs image charSigned new heap others -> others = after
  | .none, _, _, _, _, runs, again => again.trans runs.symm
  | .int _ _, _, _, _, _, runs, again | .float _ _, _, _, _, _, runs, again
  | .string _ _ _, _, _, _, _, runs, again | .nullString _, _, _, _, _, runs, again
  | .nullList _, _, _, _, _, runs, again => by
      rcases runs with ⟨middle, first, performs⟩
      rcases again with ⟨other, firstAgain, performsAgain⟩
      cases Operands.Runs.unique first firstAgain
      exact (performs.unique performsAgain).2
  | .list _ _, _, _, _, _, runs, again => by
      rcases runs with ⟨middle, list, further, first, next, performs⟩
      rcases again with ⟨other, otherList, otherFurther, firstAgain, nextAgain, performsAgain⟩
      cases Operands.Runs.unique first firstAgain
      rcases Route.Runs.unique next nextAgain with ⟨rfl, rfl⟩
      exact (performs.unique performsAgain).2

end

end Determinism

/-! ## Reading -/

def Content.isString : Content -> Bool
  | .string _ _ _ => true
  | _ => false

/-- When a consumer finds a string: it adds the bytes in front of the characters, which are
still the same. AS_STRING also needs a clear pad, and JOIN a list of strings. -/
structure Consumer.Suits (heap : Heap) (records : List Nat) (contents : List Content)
    (index : Nat) (place : StringPlace) (kept : Bool) (consumer : Consumer) : Prop where
  bytes : place.offset + consumer.addedBytes = 8
  kept : kept = true
  clear : consumer = .asString -> forall node, records[index]? = some node ->
    (heap.nodes node).pad = 0#32
  strings : consumer = .join -> contents.all Content.isString = true

section Reading

variable {nested : Nat -> List Tree -> Prop} {heap : Heap} {strings : Strings}
  {element : Element} {tree : Tree} {content : Content} {records : List Nat}
  {trees : List Tree} {contents : List Content}

/-- JOIN finds the characters of exactly the elements that are strings. -/
theorem isString_iff (denotes : DenotesElement nested strings element tree)
    (agrees : Agrees tree content) :
    (element.type = stringType ∧ exists address, element.address 8 = some address) <->
      content.isString = true := by
  cases tree with
  | plain other =>
      cases content with
      | plain same => exact iff_of_false (fun found => denotes.2.1 found.1) Bool.false_ne_true
      | _ => exact agrees.elim
  | nullString =>
      cases denotes
      cases content with
      | nullString =>
          refine iff_of_false ?_ Bool.false_ne_true
          rintro ⟨_, address, found⟩
          cases found
      | _ => exact agrees.elim
  | string place current =>
      rcases denotes with ⟨block, readOnly, rfl, _⟩
      cases content with
      | string characters other kept => exact iff_of_true ⟨rfl, _, rfl⟩ rfl
      | _ => exact agrees.elim
  | nullList =>
      cases denotes
      cases content with
      | nullList => exact iff_of_false (fun found => Snapshot.listType_ne_stringType found.1) Bool.false_ne_true
      | _ => exact agrees.elim
  | list trees =>
      rcases denotes with ⟨header, rfl, _⟩
      cases content with
      | list contents => exact iff_of_false (fun found => Snapshot.listType_ne_stringType found.1) Bool.false_ne_true
      | _ => exact agrees.elim

/-- The addresses that JOIN finds are those of the elements. -/
theorem joinAddresses_getElem {addresses : List Address}
    (finds : joinAddresses heap records = some addresses) (index : Nat) :
    addresses[index]? = records[index]?.bind fun node => (heap.element node).address 8 := by
  induction records generalizing addresses index with
  | nil =>
      cases finds
      rfl
  | cons node rest ih =>
      rw [joinAddresses] at finds
      split at finds
      · split at finds
        · rename_i address others isAddress isOthers
          cases finds
          cases index with
          | zero => exact isAddress.symm
          | succ index => exact ih isOthers index
        · cases finds
      · cases finds

/-- JOIN finds addresses exactly if all elements are strings. -/
theorem exists_joinAddresses_iff
    (all : List.Forall₂ (DenotesElement nested strings) (records.map heap.element) trees)
    (agrees : AgreeAll trees contents) :
    (exists addresses, joinAddresses heap records = some addresses) <->
      contents.all Content.isString = true := by
  induction records generalizing trees contents with
  | nil =>
      cases all
      cases contents with
      | nil => exact iff_of_true ⟨[], rfl⟩ rfl
      | cons content contents => exact agrees.elim
  | cons node rest ih =>
      cases all with
      | cons one others =>
          cases contents with
          | nil => exact agrees.elim
          | cons content contents =>
              rw [List.all_cons, Bool.and_eq_true, <- isString_iff one agrees.1,
                <- ih others agrees.2, joinAddresses]
              constructor
              · rintro ⟨addresses, finds⟩
                split at finds
                · rename_i isString
                  split at finds
                  · rename_i address further isAddress isFurther
                    exact ⟨⟨isString, address, isAddress⟩, further, isFurther⟩
                  · cases finds
                · cases finds
              · rintro ⟨⟨isString, address, isAddress⟩, further, isFurther⟩
                have isType : (heap.nodes node).type = stringType := isString
                rw [if_pos isType, isAddress, isFurther]
                exact ⟨_, rfl⟩

/-- The string at the address behind a stored pointer is the one that was put in. -/
theorem stringAt_iff {block bytes : Nat} {readOnly kept : Bool} {place : StringPlace}
    {current characters : List (BitVec 32)}
    (present : strings block = some ⟨readOnly, current⟩)
    (same : current = characters <-> kept = true) :
    StringAt strings ⟨block, place.offset + bytes⟩ characters <->
      place.offset + bytes = 8 ∧ kept = true := by
  rw [StringAt, <- same]
  apply and_congr_right
  intro _
  constructor
  · rintro ⟨other, isOther⟩
    rw [present] at isOther
    cases isOther
    rfl
  · rintro rfl
    exact ⟨readOnly, present⟩

/-- A consumer reads a string back exactly if it suits the place of the pointer. -/
theorem reads_iff_suits
    (all : List.Forall₂ (DenotesElement nested strings) (records.map heap.element) trees)
    (agrees : AgreeAll trees contents) {index : Nat} {characters : List (BitVec 32)}
    {place : StringPlace} {kept : Bool}
    (putIn : contents[index]? = some (.string characters place kept)) (consumer : Consumer) :
    (exists address, consumer.reads heap records index = some address ∧
        StringAt strings address characters) <->
      consumer.Suits heap records contents index place kept := by
  rcases agrees.getElem? index with ⟨_, missing⟩ | ⟨tree, content, isTree, isContent, agree⟩
  · rw [putIn] at missing
    cases missing
  rw [putIn] at isContent
  cases isContent
  cases tree with
  | string storedPlace current =>
      rcases agree with ⟨rfl, same, _⟩
      rcases Snapshot.denotes_getElem all isTree with
        ⟨element, isElement, block, readOnly, rfl, present⟩
      rw [List.getElem?_map, Option.map_eq_some_iff] at isElement
      rcases isElement with ⟨node, isNode, value⟩
      have address (bytes : Nat) : (heap.element node).address bytes =
          some ⟨block, storedPlace.offset + bytes⟩ := by
        rw [value]
        rfl
      have isString : (heap.nodes node).type = stringType := congrArg Element.type value
      have found (bytes : Nat) : (exists found, some (Address.mk block
          (storedPlace.offset + bytes)) = some found ∧ StringAt strings found characters) <->
            storedPlace.offset + bytes = 8 ∧ kept = true := by
        rw [<- stringAt_iff present same]
        constructor
        · rintro ⟨_, ⟨⟩, isAt⟩
          exact isAt
        · exact fun isAt => ⟨_, rfl, isAt⟩
      have plain (plainReads : consumer.reads heap records index =
          records[index]?.bind fun node => (heap.element node).address consumer.addedBytes)
          (notCast : consumer ≠ .asString) (notJoin : consumer ≠ .join) :
          (exists address, consumer.reads heap records index = some address ∧
            StringAt strings address characters) <->
              consumer.Suits heap records contents index storedPlace kept := by
        rw [plainReads, isNode, Option.bind_some, address, found]
        exact ⟨fun both => ⟨both.1, both.2, fun cast => absurd cast notCast,
          fun join => absurd join notJoin⟩, fun suits => ⟨suits.bytes, suits.kept⟩⟩
      cases consumer with
      | hd operand => exact plain rfl nofun nofun
      | forEach element => exact plain rfl nofun nofun
      | asString =>
          rw [Consumer.reads, isNode, Option.bind_some]
          by_cases clear : (heap.nodes node).pad = 0#32
          · rw [if_pos ⟨isString, clear⟩, address, found]
            refine ⟨fun both => ⟨both.1, both.2, ?_, nofun⟩, fun suits => ⟨suits.bytes, suits.kept⟩⟩
            intro _ other isOther
            rw [isNode] at isOther
            cases isOther
            exact clear
          · rw [if_neg fun both => clear both.2]
            refine iff_of_false ?_ fun suits => clear (suits.clear rfl node isNode)
            rintro ⟨_, ⟨⟩, _⟩
      | join =>
          rw [Consumer.reads]
          cases finds : joinAddresses heap records with
          | none =>
              refine iff_of_false ?_ ?_
              · rintro ⟨_, ⟨⟩, _⟩
              · intro suits
                rcases (exists_joinAddresses_iff all agrees).mpr (suits.strings rfl) with
                  ⟨addresses, isSome⟩
                rw [finds] at isSome
                cases isSome
          | some addresses =>
              rw [Option.bind_some, joinAddresses_getElem finds, isNode, Option.bind_some, address,
                found]
              exact ⟨fun both => ⟨both.1, both.2, nofun,
                fun _ => (exists_joinAddresses_iff all agrees).mp ⟨addresses, finds⟩⟩,
                fun suits => ⟨suits.bytes, suits.kept⟩⟩
  | _ => exact agree.elim

end Reading

/-- A route from a heap that fits gives one list, and a consumer reads a string of the list
back exactly if it suits it. -/
theorem strings_readBack_iff (image : Image) (charSigned : Bool) (before : Snapshot)
    (route : Route) (fits : route.Fits image charSigned before.store before.heap.strings) :
    (exists header after, route.Runs image charSigned before.heap header after) ∧
      forall header after, route.Runs image charSigned before.heap header after ->
        exists records, Chains.Chain after.next (after.headers header).head records ∧
          forall index characters place kept,
            (route.contents charSigned)[index]? = some (.string characters place kept) ->
            forall consumer : Consumer,
              (exists address, consumer.reads after records index = some address ∧
                StringAt after.strings address characters) <->
              consumer.Suits after records (route.contents charSigned) index place kept := by
  rcases route.exists_run image charSigned (fun _ _ live => live) fits with
    ⟨header, after, lists, runs, evaluates, depth, denotes⟩
  refine ⟨⟨header, after.heap, runs⟩, ?_⟩
  intro other others again
  rcases runs.unique again with ⟨rfl, rfl⟩
  cases depth with
  | zero => exact denotes.elim
  | succ depth =>
      rcases denotes with ⟨elements, isKnown, all⟩
      rcases after.lists other elements (evaluates.known other elements isKnown) with
        ⟨records, isOwned, represents⟩
      rw [<- represents] at all
      refine ⟨records, isOwned.chain, ?_⟩
      intro index characters place kept putIn consumer
      exact reads_iff_suits all (route.agrees charSigned) putIn consumer

/-- The one piece of a split text, read by HD of a list that was inferred to hold strings. -/
theorem splitPiece_readBack :
    exists header after, (Route.split [65#32] []).Runs noLiterals true
        (Snapshot.start oneString).heap header after ∧
      exists records address, Chains.Chain after.next (after.headers header).head records ∧
        (Consumer.hd (.list .string false)).reads after records 0 = some address ∧
          StringAt after.strings address [65#32] := by
  rcases strings_readBack_iff noLiterals true (Snapshot.start oneString) (.split [65#32] [])
    trivial with ⟨⟨header, after, runs⟩, readBack⟩
  rcases readBack header after runs with ⟨records, chain, suits⟩
  rcases (suits 0 [65#32] .lengthWord true rfl (.hd (.list .string false))).mpr
    ⟨rfl, rfl, nofun, nofun⟩ with ⟨address, reads, isThere⟩
  exact ⟨header, after, runs, records, address, chain, reads, isThere⟩

/-- No consumer finds the string in a deep copy of the pieces of a split text. -/
theorem copiedPiece_lost :
    ¬ forall (image : Image) (charSigned : Bool) (before : Snapshot) (route : Route),
      route.Fits image charSigned before.store before.heap.strings ->
      forall header after, route.Runs image charSigned before.heap header after ->
      forall records, Chains.Chain after.next (after.headers header).head records ->
      forall index characters place kept,
        (route.contents charSigned)[index]? = some (.string characters place kept) ->
      exists (consumer : Consumer) (address : Address),
        consumer.reads after records index = some address ∧
          StringAt after.strings address characters := by
  intro always
  let route : Route := .deepCopy (.split [65#32] [])
  let start := Snapshot.start oneString
  have fits : route.Fits noLiterals true start.store start.heap.strings := trivial
  rcases route.exists_run noLiterals true (fun _ _ live => live) fits with
    ⟨header, after, lists, runs, evaluates, depth, denotes⟩
  cases depth with
  | zero => exact denotes
  | succ depth =>
      rcases denotes with ⟨elements, isKnown, all⟩
      rcases after.lists header elements (evaluates.known header elements isKnown) with
        ⟨records, isOwned, represents⟩
      rw [<- represents] at all
      have putIn : (route.contents true)[0]? =
          some (.string [65#32] .firstCharacter false) := rfl
      rcases always noLiterals true start route fits header after.heap runs records
        isOwned.chain 0 [65#32] .firstCharacter false putIn with ⟨consumer, found⟩
      have suits := (reads_iff_suits all (route.agrees true) putIn consumer).mp found
      cases suits.kept

end Runtime
end NewBcpl
