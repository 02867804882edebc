import NewBcpl.ControlFlow.GraphCalls

namespace NewBcpl
namespace ControlFlow

open Foundations.Digits

/-!
# When a graph keeps its blocks

The ids of two blocks of a function are equal only if both are labels and one is the other
one with digits behind it. As long as that does not happen, a call of the pass creates a
block under a new id, and the edges go between blocks that the map owns.
-/

/-! ## Ids of one function -/

/-- All prefixes but those of labels are ordinary. -/
theorem BlockPrefix.ordinary (idPrefix : BlockPrefix)
    (notLabel : forall labelName, idPrefix ≠ .label labelName) : OrdinaryPrefix idPrefix.text := by
  cases idPrefix with
  | label labelName => exact absurd rfl (notLabel labelName)
  | caseBranch index =>
      constructor
      · change ("Case_" ++ toString index ++ "_").toList.getLast? = some '_'
        rw [String.toList_append]
        exact List.getLast?_concat
      · change ("Case_" ++ toString index ++ "_").toList.head? ≠ some 'L'
        rw [String.toList_append, String.toList_append]
        exact nofun
  | _ => decide

/-- Two labels have one id exactly if their names overlap in the digits. -/
theorem labelId_eq_iff {functionName firstName secondName : String} {first second : Nat} :
    blockId functionName (.label firstName) first =
        blockId functionName (.label secondName) second <->
      (exists digits, firstName = secondName ++ digits ∧
          toString second = digits ++ toString first) ∨
        exists digits, secondName = firstName ++ digits ∧
          toString first = digits ++ toString second := by
  have cancel : blockId functionName (.label firstName) first =
        blockId functionName (.label secondName) second <->
      firstName.toList ++ (toString first).toList =
        secondName.toList ++ (toString second).toList := by
    rw [<- String.toList_inj]
    simp only [blockId, BlockPrefix.text, String.toList_append, List.append_assoc,
      List.append_cancel_left_eq]
  rw [cancel, List.append_eq_append_iff]
  constructor
  · rintro (⟨digits, name, number⟩ | ⟨digits, name, number⟩)
    · exact Or.inr ⟨String.ofList digits, String.toList_inj.mp (by simpa using name),
        String.toList_inj.mp (by simpa using number)⟩
    · exact Or.inl ⟨String.ofList digits, String.toList_inj.mp (by simpa using name),
        String.toList_inj.mp (by simpa using number)⟩
  · rintro (⟨digits, name, number⟩ | ⟨digits, name, number⟩)
    · exact Or.inr ⟨digits.toList, by rw [name, String.toList_append],
        by rw [number, String.toList_append]⟩
    · exact Or.inl ⟨digits.toList, by rw [name, String.toList_append],
        by rw [number, String.toList_append]⟩

/-- Different blocks of a function with one id are labels. -/
theorem labels_of_id_eq {functionName : String} {firstPrefix secondPrefix : BlockPrefix}
    {first second : Nat} (different : first ≠ second)
    (equal : blockId functionName firstPrefix first =
      blockId functionName secondPrefix second) :
    exists firstName secondName,
      firstPrefix = .label firstName ∧ secondPrefix = .label secondName := by
  by_cases isLabel : exists labelName, firstPrefix = .label labelName
  · rcases isLabel with ⟨firstName, rfl⟩
    by_cases isOther : exists labelName, secondPrefix = .label labelName
    · rcases isOther with ⟨secondName, rfl⟩
      exact ⟨firstName, secondName, rfl, rfl⟩
    · have ordinary := secondPrefix.ordinary fun labelName same => isOther ⟨labelName, same⟩
      exact absurd equal.symm (ordinary_ne_label firstName ordinary)
  · have ordinary := firstPrefix.ordinary fun labelName same => isLabel ⟨labelName, same⟩
    by_cases isOther : exists labelName, secondPrefix = .label labelName
    · rcases isOther with ⟨secondName, rfl⟩
      exact absurd equal (ordinary_ne_label secondName ordinary)
    · have other := secondPrefix.ordinary fun labelName same => isOther ⟨labelName, same⟩
      exact absurd (ordinary_distinct ordinary other equal) different

/-! ## What the calls do -/

namespace ControlFlowGraph

variable {graph next : ControlFlowGraph} {idPrefix : BlockPrefix} {number other : Nat}

@[simp] theorem length_createBlock :
    (graph.createBlock idPrefix).allocated.length = graph.allocated.length + 1 := by
  rw [createBlock, List.length_append, List.length_singleton]

theorem block_createBlock_old (isOld : number < graph.allocated.length) :
    (graph.createBlock idPrefix).block number = graph.block number := by
  simp only [block, createBlock, List.getD, List.getElem?_append_left isOld]

theorem block_createBlock_new :
    (graph.createBlock idPrefix).block graph.allocated.length =
      ⟨blockId graph.functionName idPrefix graph.allocated.length, [], []⟩ := by
  simp only [block, createBlock, List.getD, List.getElem?_concat_length, Option.getD_some]

@[simp] theorem length_link (source target : Nat) :
    (graph.link source target).allocated.length = graph.allocated.length := by
  rw [link, List.length_modify, List.length_modify]

/-- An edge is added to the successors of its source and to the predecessors of its
target. -/
theorem block_link (source target : Nat) (isOld : number < graph.allocated.length) :
    (graph.link source target).block number =
      { graph.block number with
        successors := (graph.block number).successors ++ if source = number then [target] else []
        predecessors :=
          (graph.block number).predecessors ++ if target = number then [source] else [] } := by
  have present : graph.allocated[number]? = some (graph.block number) := by
    rw [block, List.getD, List.getElem?_eq_getElem isOld]
    rfl
  rw [block, link, List.getD, List.getElem?_modify, List.getElem?_modify, present]
  by_cases isSource : source = number
  · by_cases isTarget : target = number
    · simp [isSource, isTarget]
    · simp [isSource, isTarget]
  · by_cases isTarget : target = number
    · simp [isSource, isTarget]
    · simp [isSource, isTarget]

/-- An edge leaves the ids and the map. -/
theorem isLive_link (source target : Nat) (isOld : number < graph.allocated.length) :
    (graph.link source target).isLive number = graph.isLive number := by
  rw [isLive, block_link source target isOld]
  rfl

/-- The blocks that were created with some prefixes. -/
structure Created (graph : ControlFlowGraph) (functionName : String)
    (prefixes : List BlockPrefix) : Prop where
  name : graph.functionName = functionName
  length : graph.allocated.length = prefixes.length
  ids : forall number idPrefix, prefixes[number]? = some idPrefix ->
    (graph.block number).id = blockId functionName idPrefix number

variable {functionName : String} {prefixes : List BlockPrefix} {calls : List Call}

theorem Created.empty : (empty functionName).Created functionName [] :=
  ⟨rfl, rfl, nofun⟩

theorem Created.createBlock (created : graph.Created functionName prefixes) :
    (graph.createBlock idPrefix).Created functionName (prefixes ++ [idPrefix]) := by
  constructor
  · exact created.name
  · rw [length_createBlock, created.length, List.length_append, List.length_singleton]
  · intro number other present
    by_cases isOld : number < prefixes.length
    · rw [List.getElem?_append_left isOld] at present
      rw [block_createBlock_old (created.length ▸ isOld)]
      exact created.ids number other present
    · have isNew : number = prefixes.length := by
        have bound := (List.getElem?_eq_some_iff.mp present).1
        rw [List.length_append, List.length_singleton] at bound
        omega
      rw [isNew, List.getElem?_concat_length, Option.some.injEq] at present
      rw [isNew, <- created.length, block_createBlock_new, created.name, present]

theorem Created.link (created : graph.Created functionName prefixes) (source target : Nat) :
    (graph.link source target).Created functionName prefixes := by
  refine ⟨created.name, by rw [length_link, created.length], ?_⟩
  intro number idPrefix present
  have isOld : number < graph.allocated.length :=
    created.length ▸ (List.getElem?_eq_some_iff.mp present).1
  rw [block_link source target isOld]
  exact created.ids number idPrefix present

/-- What one call creates. -/
theorem Created.call (created : graph.Created functionName prefixes) {one : Call}
    (calls : graph.call one = some next) :
    next.Created functionName (prefixes ++ createdPrefixes [one]) := by
  cases one with
  | createBlock idPrefix =>
      cases calls
      exact created.createBlock
  | addEdge source target =>
      change next.Created functionName (prefixes ++ [])
      rw [List.append_nil]
      cases source with
      | none =>
          cases calls
          exact created
      | some source =>
          cases target with
          | none =>
              cases calls
              exact created
          | some target =>
              rw [ControlFlowGraph.call] at calls
              split at calls
              · cases calls
                exact created.link source target
              · cases calls

theorem createdPrefixes_cons (one : Call) (rest : List Call) :
    createdPrefixes (one :: rest) = createdPrefixes [one] ++ createdPrefixes rest :=
  List.filterMap_append (l := [one])

theorem callAll_cons (graph : ControlFlowGraph) (one : Call) (rest : List Call) :
    graph.callAll (one :: rest) = (graph.call one).bind fun next => next.callAll rest :=
  List.foldlM_cons

/-- What a run creates. -/
theorem Created.callAll (created : graph.Created functionName prefixes)
    (runs : graph.callAll calls = some next) :
    next.Created functionName (prefixes ++ createdPrefixes calls) := by
  induction calls generalizing graph prefixes with
  | nil =>
      have same : graph = next := Option.some.inj runs
      change next.Created functionName (prefixes ++ [])
      rw [List.append_nil, <- same]
      exact created
  | cons one rest ih =>
      rw [callAll_cons, Option.bind_eq_some_iff] at runs
      rcases runs with ⟨middle, first, runs⟩
      rw [createdPrefixes_cons, <- List.append_assoc]
      exact ih (created.call first) runs

/-! ## Sound calls -/

theorem Sound.empty : (empty functionName).Sound :=
  ⟨fun _ isOld => absurd isOld (Nat.not_lt_zero _), fun _ _ isOld => absurd isOld (Nat.not_lt_zero _),
    fun _ _ isOld => absurd isOld (Nat.not_lt_zero _),
    fun _ _ isOld => absurd isOld (Nat.not_lt_zero _)⟩

/-- A block under a new id destroys no other. -/
theorem Sound.createBlock (sound : graph.Sound)
    (isNew : forall number, number < graph.allocated.length -> (graph.block number).id ≠
      blockId graph.functionName idPrefix graph.allocated.length) :
    (graph.createBlock idPrefix).Sound := by
  have cases_ {number : Nat} (bound : number < (graph.createBlock idPrefix).allocated.length) :
      number < graph.allocated.length ∨ number = graph.allocated.length := by
    rw [length_createBlock] at bound
    omega
  constructor
  · intro number bound
    rcases cases_ bound with isOld | rfl
    · have live := sound.live number isOld
      rw [isLive, decide_eq_true_iff] at live ⊢
      rw [block_createBlock_old isOld]
      change Function.update _ _ _ _ = _
      rw [Function.update_of_ne (isNew number isOld)]
      exact live
    · rw [isLive, decide_eq_true_iff, block_createBlock_new]
      exact Function.update_self _ _ _
  · intro first second firstBound secondBound equal
    rcases cases_ firstBound with isOld | rfl
    · rw [block_createBlock_old isOld] at equal
      rcases cases_ secondBound with alsoOld | rfl
      · rw [block_createBlock_old alsoOld] at equal
        exact sound.distinct first second isOld alsoOld equal
      · rw [block_createBlock_new] at equal
        exact absurd equal (isNew first isOld)
    · rcases cases_ secondBound with alsoOld | rfl
      · rw [block_createBlock_new, block_createBlock_old alsoOld] at equal
        exact absurd equal.symm (isNew second alsoOld)
      · rfl
  · intro number other bound member
    rcases cases_ bound with isOld | rfl
    · rw [block_createBlock_old isOld] at member
      rw [length_createBlock]
      exact Nat.lt_succ_of_lt (sound.closed number other isOld member)
    · rw [block_createBlock_new] at member
      simp at member
  · intro source target sourceBound targetBound
    -- nothing is linked to the new block, because the old blocks only know old ones
    rcases cases_ sourceBound with isOld | rfl
    · rw [block_createBlock_old isOld]
      rcases cases_ targetBound with alsoOld | rfl
      · rw [block_createBlock_old alsoOld]
        exact sound.symmetric source target isOld alsoOld
      · rw [block_createBlock_new, List.count_nil, List.count_eq_zero]
        intro member
        exact absurd (sound.closed source _ isOld (Or.inl member)) (Nat.lt_irrefl _)
    · rw [block_createBlock_new, List.count_nil]
      rcases cases_ targetBound with alsoOld | rfl
      · rw [block_createBlock_old alsoOld, eq_comm, List.count_eq_zero]
        intro member
        exact absurd (sound.closed target _ alsoOld (Or.inr member)) (Nat.lt_irrefl _)
      · rw [block_createBlock_new, List.count_nil]

/-- An edge between two blocks is recorded at both. -/
theorem Sound.link (sound : graph.Sound) {source target : Nat}
    (isSource : source < graph.allocated.length) (isTarget : target < graph.allocated.length) :
    (graph.link source target).Sound := by
  constructor
  · intro number bound
    rw [length_link] at bound
    rw [isLive_link source target bound]
    exact sound.live number bound
  · intro first second firstBound secondBound equal
    rw [length_link] at firstBound secondBound
    rw [block_link source target firstBound, block_link source target secondBound] at equal
    exact sound.distinct first second firstBound secondBound equal
  · intro number other bound member
    rw [length_link] at bound ⊢
    rw [block_link source target bound] at member
    simp only [List.mem_append] at member
    rcases member with (old | new) | (old | new)
    · exact sound.closed number other bound (Or.inl old)
    · split at new
      · rw [List.mem_singleton] at new
        exact new ▸ isTarget
      · cases new
    · exact sound.closed number other bound (Or.inr old)
    · split at new
      · rw [List.mem_singleton] at new
        exact new ▸ isSource
      · cases new
  · intro first second firstBound secondBound
    rw [length_link] at firstBound secondBound
    rw [block_link source target firstBound, block_link source target secondBound]
    simp only [List.count_append]
    rw [sound.symmetric first second firstBound secondBound, Nat.add_left_cancel_iff]
    by_cases sameSource : source = first
    · by_cases sameTarget : target = second
      · simp [sameSource, sameTarget]
      · simp [sameSource, sameTarget]
    · by_cases sameTarget : target = second
      · simp [sameSource, sameTarget]
      · simp [sameSource, sameTarget]

/-- A call of a pass is sound when it takes no id twice. -/
theorem Sound.exists_call (sound : graph.Sound) (one : Call)
    (known : KnownEnds graph.allocated.length [one])
    (isNew : forall idPrefix, one = .createBlock idPrefix ->
      forall number, number < graph.allocated.length -> (graph.block number).id ≠
        blockId graph.functionName idPrefix graph.allocated.length) :
    exists next, graph.call one = some next ∧ next.Sound := by
  cases one with
  | createBlock idPrefix => exact ⟨_, rfl, sound.createBlock (isNew idPrefix rfl)⟩
  | addEdge source target =>
      cases source with
      | none => exact ⟨graph, rfl, sound⟩
      | some source =>
          cases target with
          | none => exact ⟨graph, rfl, sound⟩
          | some target =>
              have isSource := known.1 source rfl
              have isTarget := known.2.1 target rfl
              refine ⟨graph.link source target, ?_, sound.link isSource isTarget⟩
              rw [ControlFlowGraph.call, sound.live source isSource, sound.live target isTarget]
              rfl

end ControlFlowGraph

/-! ## Sound constructions -/

theorem knownEnds_append {created : Nat} {before after : List Call} :
    KnownEnds created (before ++ after) <->
      KnownEnds created before ∧
        KnownEnds (created + (createdPrefixes before).length) after := by
  induction before generalizing created with
  | nil => exact ⟨fun known => ⟨trivial, known⟩, And.right⟩
  | cons one rest ih =>
      cases one with
      | createBlock idPrefix =>
          change KnownEnds (created + 1) (rest ++ after) <-> KnownEnds (created + 1) rest ∧
            KnownEnds (created + ((createdPrefixes rest).length + 1)) after
          rw [ih, Nat.add_assoc, Nat.add_comm 1]
      | addEdge source target =>
          change _ ∧ _ ∧ KnownEnds created (rest ++ after) <->
            (_ ∧ _ ∧ KnownEnds created rest) ∧
              KnownEnds (created + (createdPrefixes rest).length) after
          rw [ih, and_assoc, and_assoc]

namespace Construction

variable (construction : Construction)

/-- Labels that do not overlap give every block an id of its own. -/
theorem blockId_injective (apart : ¬ construction.LabelsOverlap)
    {first second : Nat} {firstPrefix secondPrefix : BlockPrefix}
    (isFirst : construction.prefixes[first]? = some firstPrefix)
    (isSecond : construction.prefixes[second]? = some secondPrefix)
    (equal : blockId construction.functionName firstPrefix first =
      blockId construction.functionName secondPrefix second) : first = second := by
  by_contra different
  rcases labels_of_id_eq different equal with ⟨firstName, secondName, rfl, rfl⟩
  rcases labelId_eq_iff.mp equal with ⟨digits, name, number⟩ | ⟨digits, name, number⟩
  · exact apart ⟨first, second, firstName, secondName, digits, different, isFirst, isSecond,
      name, number⟩
  · exact apart ⟨second, first, secondName, firstName, digits, Ne.symm different, isSecond,
      isFirst, name, number⟩

/-- The graph after some of the calls. -/
theorem exists_sound (apart : ¬ construction.LabelsOverlap) {before after : List Call}
    (split : construction.calls = before ++ after) :
    exists graph, (ControlFlowGraph.empty construction.functionName).callAll before =
        some graph ∧
      graph.Sound ∧ graph.Created construction.functionName (createdPrefixes before) := by
  induction before using List.reverseRecOn generalizing after with
  | nil => exact ⟨_, rfl, .empty, .empty⟩
  | append_singleton before one ih =>
      rw [List.append_assoc] at split
      rcases ih split with ⟨graph, runs, sound, created⟩
      have known := construction.known
      rw [split, knownEnds_append, Nat.zero_add, <- created.length, knownEnds_append] at known
      have prefixes : construction.prefixes =
          createdPrefixes before ++ createdPrefixes ([one] ++ after) := by
        rw [Construction.prefixes, split]
        exact List.filterMap_append
      rcases sound.exists_call one known.2.1 fun idPrefix isCreate number isOld equal => by
        have isFirst : exists firstPrefix, (createdPrefixes before)[number]? = some firstPrefix :=
          ⟨_, List.getElem?_eq_getElem (created.length ▸ isOld)⟩
        rcases isFirst with ⟨firstPrefix, isFirst⟩
        rw [created.ids number firstPrefix isFirst, created.name] at equal
        refine absurd (construction.blockId_injective apart ?_ ?_ equal) (Nat.ne_of_lt isOld)
        · rw [prefixes, List.getElem?_append_left (created.length ▸ isOld)]
          exact isFirst
        · rw [prefixes, created.length, List.getElem?_append_right (Nat.le_refl _), Nat.sub_self,
            isCreate]
          rfl
        with ⟨next, calls, isSound⟩
      have grown := created.call calls
      refine ⟨next, ?_, isSound, ?_⟩
      · rw [ControlFlowGraph.callAll, List.foldlM_append]
        change (ControlFlowGraph.callAll _ before).bind _ = _
        rw [runs, Option.bind_some, List.foldlM_cons, calls]
        rfl
      · rw [createdPrefixes, List.filterMap_append]
        exact grown

/-- The calls keep the graph sound exactly if the labels do not overlap. -/
theorem staysSound_iff : construction.StaysSound <-> ¬ construction.LabelsOverlap := by
  constructor
  · rintro sound ⟨first, second, longer, shorter, digits, different, isFirst, isSecond, name,
      number⟩
    rcases sound construction.calls [] (List.append_nil _).symm with ⟨graph, runs, isSound⟩
    have created := ControlFlowGraph.Created.empty.callAll runs
    have bound {position : Nat} {idPrefix : BlockPrefix}
        (present : construction.prefixes[position]? = some idPrefix) :
        position < graph.allocated.length := by
      rw [created.length]
      exact (List.getElem?_eq_some_iff.mp present).1
    refine different (isSound.distinct first second (bound isFirst) (bound isSecond) ?_)
    rw [created.ids first _ isFirst, created.ids second _ isSecond]
    exact labelId_eq_iff.mpr (Or.inl ⟨digits, name, number⟩)
  · intro apart before after split
    rcases construction.exists_sound apart split with ⟨graph, runs, sound, _⟩
    exact ⟨graph, runs, sound⟩

end Construction

end ControlFlow
end NewBcpl
