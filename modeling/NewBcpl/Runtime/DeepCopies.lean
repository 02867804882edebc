import NewBcpl.Runtime.ListCopies
import NewBcpl.Runtime.ListTrees

namespace NewBcpl
namespace Runtime

open Foundations

/-!
# Deep copies

The copy of a nested list runs while the node for it is taken and not yet linked. It
leaves that node alone, and the lists that it creates are the new ones of the heap, so
that what they hold does not change when the outer loop goes on.
-/

namespace Snapshot

/-- The lists that exist only behind a step. -/
def newLists (before after : Store) : Store :=
  fun header => if before header = none then after header else none

theorem newLists_of_absent {before after : Store} {header : Nat} (absent : before header = none) :
    newLists before after header = after header := if_pos absent

theorem newLists_absent {before after : Store} {header : Nat} {elements : List Element}
    (new : newLists before after header = some elements) :
    before header = none ∧ after header = some elements := by
  unfold newLists at new
  by_cases absent : before header = none
  · rw [if_pos absent] at new
    exact ⟨absent, new⟩
  · rw [if_neg absent] at new
    cases new

variable {snapshot middle begun copied : Snapshot} {new node : Nat} {atom : ListAtom}
  {built : List Element}

/-! ## One element -/

/-- What a value that was copied while a node is taken leaves behind when the node is
filled and linked. -/
structure Receives (before copied : Snapshot) (new : Nat) (elements : List Element)
    (after : Snapshot) : Prop where
  store : after.store = Function.update copied.store new (some elements)
  length : (after.heap.headers new).length = (before.heap.headers new).length
  strings : after.heap.strings = copied.heap.strings
  frame : Frame [new] [] before after

theorem exists_receive (fills : middle.Fills node atom begun) (ends : atom.next = none)
    (live : middle.store new = some built) (frame : Frame [] [] begun copied) {count : Nat}
    (draws : begun.Draws copied count) (value : Value) :
    exists linked : Snapshot,
      (copied.heap.setValue node value).linkLast new node = some linked.heap ∧
      middle.Receives copied new (built ++ [⟨atom.type, value⟩]) linked ∧
      middle.Draws linked (1 + count) := by
  have taken := frame.taken node fills.taken fills.requested List.not_mem_nil
  have content := frame.contents node fills.taken fills.requested List.not_mem_nil
  rw [fills.content] at content
  have liveBegun : begun.store new = some built := by
    rw [fills.store]
    exact live
  let filled := copied.writeNode node { copied.heap.nodes node with value := value } taken
  have isAtom : filled.heap.nodes node = { copied.heap.nodes node with value := value } :=
    Function.update_self _ _ _
  have isElement : filled.heap.element node = ⟨atom.type, value⟩ := by
    have type := congrArg ListAtom.type content
    exact (congrArg ListAtom.element isAtom).trans (congrArg (Element.mk · value) type)
  have isLast : filled.heap.next node = none := by
    have link := congrArg ListAtom.next content
    exact (congrArg ListAtom.next isAtom).trans (link.trans ends)
  have liveFilled : filled.store new = some built := frame.live liveBegun List.not_mem_nil
  have writes : copied.Draws filled 0 := Draws.still rfl rfl rfl
  rcases exists_linkLast liveFilled taken (Nat.lt_of_lt_of_le fills.requested frame.nodesGrow)
    isLast with ⟨linked, performs, links⟩
  have noList : forall header : Nat, header ∈ ([] : List Nat) -> header ∈ [new] :=
    fun _ member => absurd member List.not_mem_nil
  have behind : Frame [new] [node] begun linked :=
      ((frame.weaken noList fun _ member => absurd member List.not_mem_nil).trans
        (((copied.writeNode_frame node { copied.heap.nodes node with value := value } taken
          (.inl rfl)).weaken noList fun _ member => member).trans links.frame))
  have opened : Frame [new] [node] middle linked :=
    (fills.frame.weaken noList fun _ member => member).trans behind
  refine ⟨linked, performs, ⟨?_, ?_, links.strings, ?_⟩,
    ((fills.draws.trans draws).trans writes).trans links.draws⟩
  · rw [links.store, isElement]
    rfl
  · rw [links.length, show filled.heap.headers new = middle.heap.headers new from
      (frame.header liveBegun List.not_mem_nil).trans (fills.header_eq new)]
  · apply opened.closeNodes
    · intro other member isTaken
      rw [List.mem_singleton] at member
      rw [member] at isTaken ⊢
      exact fills.new isTaken
    · intro other member
      rw [List.mem_singleton] at member
      rw [member]
      exact fills.padded_later behind

/-- What the new list holds behind the next element. -/
theorem holds_received {base after : Snapshot} {depth : Nat} {element : Element}
    {trees : List Tree} {tree : Tree} (frame : Frame [new] [] base middle)
    (liveBase : base.store new ≠ none) (live : middle.store new = some built)
    (receives : middle.Receives copied new (built ++ [element]) after)
    (holds : DenotesAll (newLists base.store middle.store) middle.heap.strings depth built trees)
    (denotes : DenotesElement (Denotes (newLists middle.store copied.store) copied.heap.strings depth)
      copied.heap.strings element tree) :
    DenotesAll (newLists base.store after.store) after.heap.strings depth (built ++ [element])
      (trees ++ [tree]) := by
  have different {header : Nat} (absent : base.store header = none) : header ∉ [new] := by
    intro member
    rw [List.mem_singleton] at member
    rw [member] at absent
    exact liveBase absent
  have grows : (newLists base.store middle.store).Within (newLists base.store after.store) := by
    intro header elements present
    rcases newLists_absent present with ⟨absent, here⟩
    rw [newLists_of_absent absent]
    exact receives.frame.live here (different absent)
  have added : (newLists middle.store copied.store).Within (newLists base.store after.store) := by
    intro header elements present
    rcases newLists_absent present with ⟨absent, here⟩
    have notNew : header ≠ new := by
      rintro rfl
      rw [live] at absent
      cases absent
    have earlier : base.store header = none := by
      by_contra present
      have kept := frame.store header present (by rw [List.mem_singleton]; exact notNew)
      rw [absent] at kept
      exact present kept.symm
    rw [newLists_of_absent earlier, receives.store, Function.update_of_ne notNew]
    exact here
  refine List.rel_append (holds.mono grows receives.frame.strings) (List.Forall₂.cons ?_ List.Forall₂.nil)
  rw [receives.strings]
  exact denotes.mono (fun _ _ nested => nested.mono added fun _ _ present => present)
    fun _ _ present => present

/-- A new list that holds the given trees, all of whose lists are new. -/
structure Duplicates (before : Snapshot) (new depth : Nat) (trees : List Tree)
    (after : Snapshot) : Prop where
  absent : before.store new = none
  frame : Frame [] [] before after
  holds : Denotes (newLists before.store after.store) after.heap.strings depth new trees
  draws : before.Draws after (nodesOfTrees trees)

/-- The function for nested lists, on the lists that hold trees of the given depth. -/
def CopiesNested (nested : Heap -> Option Nat -> Option (Option Nat × Heap)) (source : Store)
    (strings : Strings) (depth : Nat) (copy : List Tree -> List Tree) (before : Snapshot) : Prop :=
  nested before.heap none = some (none, before.heap) ∧
    forall header trees, Denotes source strings depth header trees ->
      exists new after, nested before.heap (some header) = some (some new, after.heap) ∧
        before.Duplicates new depth (copy trees) after

theorem listType_ne_stringType : listType ≠ stringType := by decide

section Values

variable {nested : Heap -> Option Nat -> Option (Option Nat × Heap)} {source : Store}
  {strings : Strings} {depth : Nat} {element : Element} {tree : Tree}

/-- The copy of one value. -/
structure CopiesValue (before : Snapshot) (depth : Nat) (element : Element) (tree : Tree)
    (after : Snapshot) : Prop where
  frame : Frame [] [] before after
  holds : DenotesElement (Denotes (newLists before.store after.store) after.heap.strings depth)
    after.heap.strings element tree
  draws : before.Draws after tree.nestedNodes

/-- A value that is copied as it is. -/
theorem copiesValue_same (flat : tree.nestedNodes = 0)
    (holds : DenotesElement (Denotes (newLists begun.store begun.store) begun.heap.strings depth)
      begun.heap.strings element tree) : begun.CopiesValue depth element tree begun where
  frame := Frame.refl _ _ _
  holds := holds
  draws := by
    rw [flat]
    exact Draws.still rfl rfl rfl

/-- The case `ATOM_LIST_POINTER` of both switches. -/
theorem exists_nestedValue {copy : List Tree -> List Tree} {trees : List Tree} {header : Nat}
    (copies : CopiesNested nested source strings depth copy begun)
    (denotes : Denotes source strings depth header trees) :
    exists new copied, nested begun.heap (some header) = some (some new, copied.heap) ∧
      begun.CopiesValue depth ⟨listType, .list (some new)⟩ (.list (copy trees)) copied := by
  rcases copies.2 header trees denotes with ⟨new, copied, performs, duplicates⟩
  exact ⟨new, copied, performs, duplicates.frame, ⟨new, rfl, duplicates.holds⟩, duplicates.draws⟩

/-- The switch of the deep copy. -/
theorem exists_duplicateValue
    (copies : CopiesNested nested source strings depth copiedTrees begun)
    (keeps : strings.Within begun.heap.strings)
    (denotes : DenotesElement (Denotes source strings depth) strings element tree) :
    exists value copied, begun.heap.duplicateValue nested element = some (value, copied.heap) ∧
      begun.CopiesValue depth ⟨element.type, value⟩ tree.copied copied := by
  cases tree with
  | plain other =>
      rcases denotes with ⟨rfl, notString, notList⟩
      refine ⟨element.value, begun, ?_, copiesValue_same rfl ⟨rfl, notString, notList⟩⟩
      rw [Heap.duplicateValue, if_neg notString, if_neg notList]
  | nullString =>
      cases denotes
      exact ⟨.string none, begun, rfl, copiesValue_same rfl rfl⟩
  | string place characters =>
      rcases denotes with ⟨block, readOnly, rfl, content⟩
      have present := keeps block _ content
      refine ⟨.string (some ⟨begun.heap.freshString, .firstCharacter⟩),
        begun.allocChars (StringBlock.scanned ⟨readOnly, characters⟩ place), ?_,
        begun.allocChars_frame _, ⟨begun.heap.freshString, false, rfl, ?_⟩,
        Draws.still rfl rfl rfl⟩
      · rw [Heap.duplicateValue, if_pos rfl]
        dsimp only
        rw [Heap.duplicateString]
        dsimp only
        rw [present]
        rfl
      · cases place <;> exact Function.update_self _ _ _
  | nullList =>
      cases denotes
      refine ⟨.list none, begun, ?_, copiesValue_same rfl rfl⟩
      rw [Heap.duplicateValue, if_neg listType_ne_stringType, if_pos rfl]
      dsimp only
      rw [copies.1]
      rfl
  | list trees =>
      rcases denotes with ⟨header, rfl, holds⟩
      rcases exists_nestedValue copies holds with ⟨new, copied, performs, value⟩
      refine ⟨.list (some new), copied, ?_, value⟩
      rw [Heap.duplicateValue, if_neg listType_ne_stringType, if_pos rfl]
      dsimp only
      rw [performs]
      rfl

/-- The switch of the copy of a literal, which keeps the pointers to strings. -/
theorem exists_literalValue
    (copies : CopiesNested nested source strings depth id begun)
    (keeps : strings.Within begun.heap.strings)
    (denotes : DenotesElement (Denotes source strings depth) strings element tree) :
    exists value copied, begun.heap.literalValue nested element = some (value, copied.heap) ∧
      begun.CopiesValue depth ⟨element.type, value⟩ tree copied := by
  cases tree with
  | plain other =>
      rcases denotes with ⟨rfl, notString, notList⟩
      refine ⟨element.value, begun, ?_, copiesValue_same rfl ⟨rfl, notString, notList⟩⟩
      rw [Heap.literalValue, if_neg notList]
  | nullString =>
      cases denotes
      exact ⟨.string none, begun, rfl, copiesValue_same rfl rfl⟩
  | string place characters =>
      rcases denotes with ⟨block, readOnly, rfl, content⟩
      exact ⟨.string (some ⟨block, place⟩), begun, rfl,
        copiesValue_same rfl ⟨block, readOnly, rfl, keeps block _ content⟩⟩
  | nullList =>
      cases denotes
      refine ⟨.list none, begun, ?_, copiesValue_same rfl rfl⟩
      rw [Heap.literalValue, if_pos rfl]
      dsimp only
      rw [copies.1]
      rfl
  | list trees =>
      rcases denotes with ⟨header, rfl, holds⟩
      rcases exists_nestedValue copies holds with ⟨new, copied, performs, value⟩
      refine ⟨.list (some new), copied, ?_, value⟩
      rw [Heap.literalValue, if_pos rfl]
      dsimp only
      rw [performs]
      rfl

end Values

/-! ## Lists -/

/-- The lists and the strings that a copy reads. -/
structure Sources (source : Store) (strings : Strings) (bound : Nat) (snapshot : Snapshot) :
    Prop where
  lists : source.Within snapshot.store
  strings : strings.Within snapshot.heap.strings
  bounded : forall header elements, source header = some elements -> elements.length <= bound

variable {source : Store} {strings : Strings} {bound depth fuel : Nat}

theorem Sources.closed {openNodes : List Nat} (sources : Sources source strings bound snapshot)
    (frame : Frame [] openNodes snapshot middle) : Sources source strings bound middle where
  lists header elements present := frame.live (sources.lists header elements present) List.not_mem_nil
  strings block content present := frame.strings block content (sources.strings block content present)
  bounded := sources.bounded

theorem Sources.opened (sources : Sources source strings bound snapshot)
    (absent : snapshot.store new = none) (frame : Frame [new] [] snapshot middle) :
    Sources source strings bound middle where
  lists header elements present := by
    apply frame.live (sources.lists header elements present)
    intro member
    rw [List.mem_singleton] at member
    have live := sources.lists header elements present
    rw [member, absent] at live
    cases live
  strings block content present := frame.strings block content (sources.strings block content present)
  bounded := sources.bounded

/-- What the loops of both copies keep: the new list holds the copies of the trees of the
passed nodes. -/
structure Holding (opened : Snapshot) (new depth : Nat) (trees : List Tree) (built : List Element)
    (middle : Snapshot) : Prop where
  live : middle.store new = some built
  holds : DenotesAll (newLists opened.store middle.store) middle.heap.strings depth built trees
  draws : opened.Draws middle (nodesOfTrees trees)

/-- The end of a copy. -/
theorem Opens.duplicates {opened after : Snapshot} {length : Word} {trees : List Tree}
    (opens : snapshot.Opens new length opened) (frame : Frame [new] [] opened after)
    (holding : Holding opened new depth trees built after) (isExact : Exact after.heap new built) :
    snapshot.Duplicates new (depth + 1) trees after where
  absent := opens.absent
  frame := (opens.frame.trans frame).closeList opens.absent holding.live isExact
  holds := by
    refine ⟨built, ?_, holding.holds.mono ?_ fun _ _ present => present⟩
    · rw [newLists_of_absent opens.absent]
      exact holding.live
    · intro header elements present
      rcases newLists_absent present with ⟨absent, here⟩
      have different : header ≠ new := by
        rintro rfl
        rw [opens.live] at absent
        cases absent
      rw [opens.store, Function.update_of_ne different] at absent
      rw [newLists_of_absent absent]
      exact here
  draws := by
    have total := opens.draws.trans holding.draws
    rw [Nat.zero_add] at total
    exact total

theorem Opens.holding {opened : Snapshot} {length : Word} (opens : snapshot.Opens new length opened) :
    Holding opened new depth [] [] opened where
  live := opens.live
  holds := List.Forall₂.nil
  draws := Draws.still rfl rfl rfl

/-- A node is taken, its value is copied and it is linked: the part of a round that both
loops share. -/
theorem exists_round {opened : Snapshot} {trees : List Tree} {tree : Tree} {value : Value}
    (fills : middle.Fills node atom begun) (ends : atom.next = none)
    (frame : Frame [new] [] opened middle) (liveOpened : opened.store new ≠ none)
    (holding : Holding opened new depth trees built middle)
    (copies : begun.CopiesValue depth ⟨atom.type, value⟩ tree copied) :
    exists linked : Snapshot,
      (copied.heap.setValue node value).linkLast new node = some linked.heap ∧
      (linked.heap.headers new).length = (middle.heap.headers new).length ∧
      Frame [new] [] middle linked ∧
      Holding opened new depth (trees ++ [tree]) (built ++ [⟨atom.type, value⟩]) linked := by
  rcases exists_receive fills ends holding.live copies.frame copies.draws value with
    ⟨linked, performs, receives, draws⟩
  have denotes := copies.holds
  rw [fills.store] at denotes
  refine ⟨linked, performs, receives.length, receives.frame, ?_,
    holds_received frame liveOpened holding.live receives holding.holds denotes, ?_⟩
  · rw [receives.store, Function.update_self]
  · rw [nodesOfTrees_append]
    exact holding.draws.trans draws

/-- One round of the loop of the deep copy. -/
theorem exists_appendDeepCopy {nested : Heap -> Option Nat -> Option (Option Nat × Heap)}
    {opened : Snapshot} {original header : Nat} {trees : List Tree} {tree : Tree}
    (frame : Frame [new] [] opened middle) (liveOpened : opened.store new ≠ none)
    (holding : Holding opened new depth trees built middle)
    (isExact : Exact middle.heap new built) (owned : middle.owner original = .list header)
    (sources : Sources source strings bound middle)
    (copies : forall before, Sources source strings bound before ->
      CopiesNested nested source strings depth copiedTrees before)
    (denotes : DenotesElement (Denotes source strings depth) strings
      (middle.heap.element original) tree) :
    exists after element, middle.heap.appendDeepCopy nested new original = some after.heap ∧
      Frame [new] [] middle after ∧
      Holding opened new depth (trees ++ [tree.copied]) (built ++ [element]) after ∧
      Exact after.heap new (built ++ [element]) := by
  rcases middle.exists_takeNode with ⟨node, taken, takes, isTaken⟩
  have begins : exists begun : Snapshot,
      taken.heap.beginAtom node (taken.heap.nodes original).type = begun.heap ∧
        middle.Fills node { taken.heap.nodes node with
          type := (taken.heap.nodes original).type, next := none } begun :=
    ⟨_, rfl, isTaken.copies _ rfl⟩
  rcases begins with ⟨begun, begins, fills⟩
  have sameElement : begun.heap.element original = middle.heap.element original :=
    congrArg ListAtom.element (fills.frame.nodes original header owned List.not_mem_nil)
  have sourcesBegun := sources.closed fills.frame
  rcases exists_duplicateValue (copies _ sourcesBegun) sourcesBegun.strings denotes with
    ⟨value, copied, duplicates, copiesValue⟩
  have type : (taken.heap.nodes original).type = (middle.heap.element original).type :=
    congrArg ListAtom.type (isTaken.node_eq owned)
  rw [<- type] at copiesValue
  rcases exists_round fills rfl frame liveOpened holding copiesValue with
    ⟨linked, performs, length, opens, further⟩
  refine ⟨setLength further.live ((linked.heap.headers new).length + 1#64),
    ⟨(taken.heap.nodes original).type, value⟩, ?_, opens.trans (setLength_frame _ _),
    ⟨further.live, further.holds, further.draws.before_still rfl rfl rfl⟩, ?_, ?_⟩
  · rw [Heap.appendDeepCopy, takes]
    dsimp only
    rw [begins, sameElement, duplicates]
    dsimp only
    rw [performs]
    rfl
  · rw [setLength_header, length, isExact.length, List.length_append]
    exact (BitVec.ofNat_add _ _).symm
  · intro empty
    exact absurd empty (List.append_ne_nil_of_right_ne_nil _ (List.cons_ne_nil _ _))

/-- `BCPL_DEEP_COPY_LIST`: the copy holds the copied trees. -/
theorem exists_deepCopy (sources : Sources source strings bound snapshot) {header : Nat}
    {trees : List Tree} (denotes : Denotes source strings depth header trees)
    (enough : depth + bound <= fuel) :
    exists new after,
      snapshot.heap.deepCopyList fuel (some header) = some (some new, after.heap) ∧
        snapshot.Duplicates new depth (copiedTrees trees) after := by
  induction depth generalizing snapshot header trees fuel with
  | zero => exact denotes.elim
  | succ depth ih =>
      rcases denotes with ⟨elements, sourceLive, all⟩
      cases fuel with
      | zero => exact absurd enough (by omega)
      | succ fuel =>
          have live := sources.lists header elements sourceLive
          rcases snapshot.exists_createEmpty with ⟨new, opened, creates, opens⟩
          have different : header ∉ [new] := by
            intro member
            rw [List.mem_singleton] at member
            rw [member, opens.absent] at live
            cases live
          have liveOpened := opens.frame.live live different
          rcases opened.lists header elements liveOpened with ⟨records, isOwned, represents⟩
          have liveNew : opened.store new ≠ none := by
            rw [opens.live]
            exact Option.some_ne_none []
          have copies (before : Snapshot) (still : Sources source strings bound before) :
              CopiesNested (Heap.deepCopyList fuel) source strings depth copiedTrees before := by
            constructor
            · cases fuel <;> rfl
            · intro nested nestedTrees holds
              exact ih still holds (by omega)
          have loop := @exists_loop new opened header records
            (Heap.appendDeepCopy (Heap.deepCopyList fuel) new)
            (fun passed middle => exists built, Exact middle.heap new built ∧
              Holding opened new depth (copiedTrees (trees.take passed.length)) built middle)
            isOwned different ⟨[], opens.isExact, opens.holding⟩
            (by
              rintro passed record rest middle split frame ⟨built, isExact, holding⟩
              rw [<- represents, split, List.map_append, List.map_cons] at all
              rcases forall₂_split all with ⟨tree, denotes, taken⟩
              rw [List.length_map] at taken
              have owned := isOwned.owned record (by
                rw [split]
                exact List.mem_append_right _ List.mem_cons_self)
              rw [show opened.heap.element record = middle.heap.element record from
                congrArg ListAtom.element (frame.nodes record header owned different).symm] at denotes
              rcases exists_appendDeepCopy frame liveNew holding isExact
                (frame.owner record header owned different)
                (sources.opened opens.absent (opens.frame.trans frame)) copies denotes with
                ⟨after, element, performs, opensNew, further, exactAfter⟩
              refine ⟨after, performs, opensNew, built ++ [element], exactAfter, ?_⟩
              rw [List.length_append, List.length_singleton, taken, copiedTrees_append]
              exact further)
            fuel (by
              have short := sources.bounded header elements sourceLive
              rw [<- represents, List.length_map] at short
              omega)
          rcases loop with ⟨after, performs, frame, built, isExact, holding⟩
          have count : records.length = trees.length := by
            rw [<- all.length_eq, <- represents, List.length_map]
          rw [count, List.take_length] at holding
          refine ⟨new, after, ?_, opens.duplicates frame holding isExact⟩
          rw [Heap.deepCopyList, creates]
          exact congrArg (Option.map fun copied => (some new, copied)) performs

/-! ## Literals -/

variable {image : Image}

/-- One round of the loop of the copy of a literal, which leaves the length alone. -/
theorem exists_appendLiteralCopy
    {nested : Heap -> Option Nat -> Option (Option Nat × Heap)}
    {opened : Snapshot} {original : Nat} {trees : List Tree} {tree : Tree}
    (frame : Frame [new] [] opened middle) (liveOpened : opened.store new ≠ none)
    (holding : Holding opened new depth trees built middle)
    (keeps : strings.Within middle.heap.strings)
    (copies : forall before : Snapshot, strings.Within before.heap.strings ->
      CopiesNested nested source strings depth id before)
    (denotes : DenotesElement (Denotes source strings depth) strings (image.element original)
      tree) :
    exists after element, middle.heap.appendLiteralCopy image nested new original =
        some after.heap ∧
      Frame [new] [] middle after ∧
      (after.heap.headers new).length = (middle.heap.headers new).length ∧
      Holding opened new depth (trees ++ [tree]) (built ++ [element]) after := by
  rcases middle.exists_takeNode with ⟨node, taken, takes, isTaken⟩
  have begins : exists begun : Snapshot,
      taken.heap.setNode node { taken.heap.nodes node with
          type := (image.nodes original).type, pad := 0#32, next := none } = begun.heap ∧
        middle.Fills node { taken.heap.nodes node with
          type := (image.nodes original).type, pad := 0#32, next := none } begun :=
    ⟨_, rfl, isTaken.fills _ rfl⟩
  rcases begins with ⟨begun, begins, fills⟩
  have keepsBegun : strings.Within begun.heap.strings := fun block content present =>
    fills.frame.strings block content (keeps block content present)
  rcases exists_literalValue (copies begun keepsBegun) keepsBegun denotes with
    ⟨value, copied, duplicates, copiesValue⟩
  rcases exists_round fills rfl frame liveOpened holding copiesValue with
    ⟨linked, performs, length, opens, further⟩
  refine ⟨linked, ⟨(image.nodes original).type, value⟩, ?_, opens, length, further⟩
  rw [Heap.appendLiteralCopy, takes]
  dsimp only
  rw [begins, duplicates]
  exact performs

end Snapshot

/-- The elements of the literals. -/
def Image.lists (image : Image) : Store := fun header =>
  (image.chains header).map fun records => records.map image.element

theorem Image.lists_chain {image : Image} {header : Nat} {elements : List Element}
    (live : image.lists header = some elements) :
    exists records, image.chains header = some records ∧
      records.map image.element = elements := by
  unfold Image.lists at live
  cases known : image.chains header with
  | none =>
      rw [known] at live
      cases live
  | some records =>
      rw [known] at live
      exact ⟨records, rfl, Option.some.inj live⟩

namespace Snapshot

variable {snapshot middle begun copied : Snapshot} {new node : Nat} {built : List Element}
  {strings : Strings} {bound depth fuel : Nat} {image : Image}

/-- `BCPL_DEEP_COPY_LITERAL_LIST`: the copy holds the trees of the literal. -/
theorem exists_literalCopy (keeps : strings.Within snapshot.heap.strings) {header : Nat}
    {trees : List Tree} (denotes : Denotes image.lists strings depth header trees)
    (enough : depth + image.size <= fuel) :
    exists new after,
      snapshot.heap.deepCopyLiteralList image fuel (some header) =
        some (some new, after.heap) ∧ snapshot.Duplicates new depth trees after := by
  induction depth generalizing snapshot header trees fuel with
  | zero => exact denotes.elim
  | succ depth ih =>
      rcases denotes with ⟨elements, literal, all⟩
      rcases Image.lists_chain literal with ⟨records, known, represents⟩
      cases fuel with
      | zero => exact absurd enough (by omega)
      | succ fuel =>
          rcases snapshot.exists_mallocHeader (image.headers header).length with
            ⟨new, opened, creates, opens⟩
          have liveNew : opened.store new ≠ none := by
            rw [opens.live]
            exact Option.some_ne_none []
          have copies (before : Snapshot) (still : strings.Within before.heap.strings) :
              CopiesNested (Heap.deepCopyLiteralList image fuel) image.lists strings depth id
                before := by
            constructor
            · cases fuel <;> rfl
            · intro nested nestedTrees holds
              exact ih still holds (by omega)
          have bounded := image.bounded header records known
          have chain := image.chain header records known
          have loop := @exists_walk new opened records (fun _ => image.next)
            (Heap.appendLiteralCopy image (Heap.deepCopyLiteralList image fuel) new)
            (fun passed middle => exists built,
              (middle.heap.headers new).length = (image.headers header).length ∧
              (built = [] -> (middle.heap.headers new).tail = none) ∧
              Holding opened new depth (trees.take passed.length) built middle)
            (by
              intro passed record rest after split frame
              rw [split] at chain
              exact chain.suffix.2.pointer_eq)
            ⟨[], by rw [opens.header], fun _ => by rw [opens.header], opens.holding⟩
            (by
              rintro passed record rest middle split frame ⟨built, length, _, holding⟩
              rw [<- represents, split, List.map_append, List.map_cons] at all
              rcases forall₂_split all with ⟨tree, denotes, taken⟩
              rw [List.length_map] at taken
              have keepsMiddle : strings.Within middle.heap.strings :=
                fun block content present =>
                  (opens.frame.trans frame).strings block content (keeps block content present)
              rcases exists_appendLiteralCopy frame liveNew holding keepsMiddle copies denotes with
                ⟨after, element, performs, opensNew, sameLength, further⟩
              refine ⟨after, performs, opensNew, built ++ [element], sameLength.trans length,
                fun empty => absurd empty
                  (List.append_ne_nil_of_right_ne_nil _ (List.cons_ne_nil _ _)), ?_⟩
              rw [List.length_append, List.length_singleton, taken]
              exact further)
            fuel (by omega)
          rcases loop with ⟨after, performs, frame, built, length, tail, holding⟩
          have count : records.length = trees.length := by
            rw [<- all.length_eq, <- represents, List.length_map]
          rw [count, List.take_length] at holding
          have isExact : Exact after.heap new built := by
            refine ⟨?_, tail⟩
            rw [length, image.length header records known, count, holding.holds.length_eq]
          refine ⟨new, after, ?_, opens.duplicates frame holding isExact⟩
          rw [Heap.deepCopyLiteralList, creates, chain.pointer_eq]
          exact congrArg (Option.map fun copied => (some new, copied)) performs

end Snapshot

end Runtime
end NewBcpl
