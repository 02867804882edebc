import NewBcpl.Linking.LabelTexts

namespace NewBcpl
namespace Linking

open ControlFlow

/-!
# When the labels of a program are different

As values, the labels of a stream are always different: the blocks and the canaries
come with the name of their function, and `create_label` counts. So the linker fails only
where two of them have one text.
-/

/-! ## The labels of one function -/

/-- The labels of a function that are made from its name. -/
inductive Owned (canaries : Bool) (function : FunctionCode) : StreamLabel -> Prop where
  | function : Owned canaries function (.function function.construction.functionName)
  | block {number : Nat} {idPrefix : BlockPrefix} :
      function.construction.prefixes[number]? = some idPrefix ->
      Owned canaries function (.block function.construction.functionName idPrefix number)
  | canary (upper : Bool) : canaries = true ->
      Owned canaries function (.canary function.construction.functionName upper)

/-- A label of `create_label`, with the counter between two values. -/
def CreatedBetween (low high : Nat) (label : StreamLabel) : Prop :=
  exists number, label = .created number ∧ low <= number ∧ number < high

theorem CreatedBetween.mono {low high lower higher : Nat} {label : StreamLabel}
    (created : CreatedBetween low high label) (below : lower <= low) (above : high <= higher) :
    CreatedBetween lower higher label := by
  rcases created with ⟨number, isCreated, bound, limit⟩
  exact ⟨number, isCreated, Nat.le_trans below bound, Nat.lt_of_lt_of_le limit above⟩

/-- What the labels of some blocks are. -/
structure BodyLabels (function : FunctionCode) (counter : Nat) (numbers : List Nat)
    (labels : List StreamLabel) (after : Nat) : Prop where
  counts : counter <= after
  members : forall label, label ∈ labels ->
    (exists number, number ∈ numbers ∧
      label = .block function.construction.functionName
        (function.construction.prefixes.getD number .plain) number) ∨
      CreatedBetween counter after label
  blocks : forall number, number ∈ numbers ->
    .block function.construction.functionName
      (function.construction.prefixes.getD number .plain) number ∈ labels
  once : labels.Nodup

theorem bodyLabels_labels (function : FunctionCode) {numbers : List Nat}
    (once : numbers.Nodup) (counter : Nat) :
    BodyLabels function counter numbers (bodyLabels function counter numbers).1
      (bodyLabels function counter numbers).2 := by
  induction numbers generalizing counter with
  | nil => exact ⟨Nat.le_refl _, nofun, nofun, List.nodup_nil⟩
  | cons number rest ih =>
      rw [List.nodup_cons] at once
      have others := ih once.2 (counter + (function.code number).created)
      let name := function.construction.functionName
      let first := StreamLabel.block name (function.construction.prefixes.getD number .plain) number
      let created := (function.code number).defined.map fun local_ =>
        StreamLabel.created (counter + local_)
      have isCreated {label : StreamLabel} (member : label ∈ created) :
          CreatedBetween counter (counter + (function.code number).created) label := by
        rcases List.mem_map.mp member with ⟨local_, isLocal, rfl⟩
        exact ⟨_, rfl, Nat.le_add_right _ _,
          Nat.add_lt_add_left ((function.code number).known local_ isLocal) counter⟩
      change BodyLabels function counter (number :: rest) (first :: created ++ _) _
      constructor
      · exact Nat.le_trans (Nat.le_add_right _ _) others.counts
      · intro label member
        rw [List.cons_append, List.mem_cons, List.mem_append] at member
        rcases member with rfl | member | member
        · exact Or.inl ⟨number, List.mem_cons_self, rfl⟩
        · exact Or.inr ((isCreated member).mono (Nat.le_refl _) others.counts)
        · rcases others.members label member with ⟨other, isOther, same⟩ | between
          · exact Or.inl ⟨other, List.mem_cons_of_mem _ isOther, same⟩
          · exact Or.inr (between.mono (Nat.le_add_right _ _) (Nat.le_refl _))
      · intro other member
        rcases List.mem_cons.mp member with rfl | member
        · exact List.mem_cons_self
        · exact List.mem_append_right _ (others.blocks other member)
      · rw [List.cons_append, List.nodup_cons, List.nodup_append]
        refine ⟨?_, ?_, others.once, ?_⟩
        · change StreamLabel.block _ _ _ ∉ _
          intro member
          rcases List.mem_append.mp member with member | member
          · rcases isCreated member with ⟨_, ⟨⟩, _⟩
          · rcases others.members _ member with ⟨other, isOther, same⟩ | ⟨_, ⟨⟩, _⟩
            have isSame : number = other := by
              injection same
            exact once.1 (isSame ▸ isOther)
        · refine (function.code number).once.map fun one other same => ?_
          have sum : counter + one = counter + other := by
            injection same
          exact Nat.add_left_cancel sum
        · intro label member other isOther same
          rcases isCreated member with ⟨created, rfl, _, limit⟩
          rcases others.members other isOther with ⟨_, _, isBlock⟩ | ⟨later, isLater, bound, _⟩
          · rw [isBlock] at same
            cases same
          · rw [isLater] at same
            have isSame : created = later := by
              injection same
            omega

/-- What the labels of a function are. -/
structure FunctionLabels (canaries : Bool) (function : FunctionCode) (counter : Nat)
    (labels : List StreamLabel) (after : Nat) : Prop where
  counts : counter < after
  members : forall label, label ∈ labels ->
    Owned canaries function label ∨ CreatedBetween counter after label
  owned : forall label, Owned canaries function label -> label ∈ labels
  once : labels.Nodup

/-- All blocks of a sound graph are emitted. -/
theorem emittedBlocks_sound {graph : ControlFlowGraph} (sound : graph.Sound) :
    (emittedBlocks graph).Nodup ∧
      forall number, number ∈ emittedBlocks graph <-> number < graph.allocated.length := by
  have same := List.mergeSort_perm
    ((List.range graph.allocated.length).filter graph.isLive) (comesFirst graph)
  constructor
  · exact same.nodup_iff.mpr (List.nodup_range.filter _)
  · intro number
    rw [emittedBlocks, same.mem_iff, List.mem_filter, List.mem_range]
    exact ⟨And.left, fun bound => ⟨bound, sound.live number bound⟩⟩

theorem functionLabels_labels (canaries : Bool) {function : FunctionCode}
    (sound : function.construction.StaysSound) (counter : Nat) :
    exists labels after, functionLabels canaries counter function = some (labels, after) ∧
      FunctionLabels canaries function counter labels after := by
  rcases function.construction.exists_sound
      (function.construction.staysSound_iff.mp sound) (List.append_nil _).symm with
    ⟨graph, runs, isSound, created⟩
  have emitted := emittedBlocks_sound isSound
  have body := bodyLabels_labels function emitted.1 (counter + 1)
  let name := function.construction.functionName
  refine ⟨_, _, by rw [functionLabels, runs]; rfl, ?_⟩
  have isPrefix {number : Nat} (isEmitted : number ∈ emittedBlocks graph) :
      function.construction.prefixes[number]? =
        some (function.construction.prefixes.getD number .plain) := by
    have bound := (emitted.2 number).mp isEmitted
    rw [created.length] at bound
    rw [List.getD, Construction.prefixes, List.getElem?_eq_getElem bound, Option.getD_some]
  have isCanary {label : StreamLabel} (member : label ∈ canaryLabels canaries name) :
      exists upper, canaries = true ∧ label = .canary name upper := by
    rw [canaryLabels] at member
    split at member
    · rename_i isOn
      rcases List.mem_cons.mp member with rfl | member
      · exact ⟨true, isOn, rfl⟩
      · exact ⟨false, isOn, List.mem_singleton.mp member⟩
    · cases member
  constructor
  · exact Nat.lt_of_lt_of_le (Nat.lt_succ_self counter) body.counts
  · intro label member
    rw [List.mem_cons, List.mem_append, List.mem_cons] at member
    rcases member with rfl | member | rfl | member
    · exact Or.inl .function
    · rcases body.members label member with ⟨number, isEmitted, rfl⟩ | between
      · exact Or.inl (.block (isPrefix isEmitted))
      · exact Or.inr (between.mono (Nat.le_succ _) (Nat.le_refl _))
    · exact Or.inr ⟨counter, rfl, Nat.le_refl _,
        Nat.lt_of_lt_of_le (Nat.lt_succ_self counter) body.counts⟩
    · rcases isCanary member with ⟨upper, isOn, rfl⟩
      exact Or.inl (.canary upper isOn)
  · intro label owned
    cases owned with
    | function => exact List.mem_cons_self
    | @block number idPrefix present =>
        have isEmitted : number ∈ emittedBlocks graph := by
          rw [emitted.2, created.length]
          exact (List.getElem?_eq_some_iff.mp present).1
        have member := body.blocks number isEmitted
        rw [isPrefix isEmitted, Option.some.injEq] at present
        rw [present] at member
        exact List.mem_cons_of_mem _ (List.mem_append_left _ member)
    | canary upper isOn =>
        refine List.mem_cons_of_mem _ (List.mem_append_right _ (List.mem_cons_of_mem _ ?_))
        rw [canaryLabels, if_pos isOn]
        cases upper
        · exact List.mem_cons_of_mem _ List.mem_cons_self
        · exact List.mem_cons_self
  · rw [List.nodup_cons, List.nodup_append, List.nodup_cons]
    refine ⟨?_, body.once, ⟨?_, ?_⟩, ?_⟩
    · intro member
      rw [List.mem_append, List.mem_cons] at member
      rcases member with member | same | member
      · rcases body.members _ member with ⟨_, _, ⟨⟩⟩ | ⟨_, ⟨⟩, _⟩
      · cases same
      · rcases isCanary member with ⟨_, _, ⟨⟩⟩
    · intro member
      rcases isCanary member with ⟨_, _, ⟨⟩⟩
    · rw [canaryLabels]
      split
      · simp
      · exact List.nodup_nil
    · intro label member other isOther same
      rw [<- same] at isOther
      rcases List.mem_cons.mp isOther with rfl | isOther
      · rcases body.members _ member with ⟨_, _, ⟨⟩⟩ | ⟨number, isSame, bound, _⟩
        have equal : counter = number := by
          injection isSame
        omega
      · rcases isCanary isOther with ⟨upper, _, rfl⟩
        rcases body.members _ member with ⟨_, _, ⟨⟩⟩ | ⟨_, ⟨⟩, _⟩

/-! ## The labels of a program -/

/-- A label tells the function from whose name it is made. -/
theorem Owned.name_eq {canaries : Bool} {function other : FunctionCode} {label : StreamLabel}
    (owned : Owned canaries function label) (also : Owned canaries other label) :
    function.construction.functionName = other.construction.functionName := by
  generalize isLabel : label = same at also
  cases owned <;> cases also <;> injection isLabel

theorem functionsLabels_labels (canaries : Bool) {functions : List FunctionCode}
    (distinct : (functions.map fun function => function.construction.functionName).Nodup)
    (sound : forall function, function ∈ functions -> function.construction.StaysSound)
    (counter : Nat) :
    exists labels, functionsLabels canaries counter functions = some labels ∧
      (forall label, label ∈ labels ->
        (exists function, function ∈ functions ∧ Owned canaries function label) ∨
          exists number, label = .created number ∧ counter <= number) ∧
      (forall function, function ∈ functions -> forall label,
        Owned canaries function label -> label ∈ labels) ∧
      labels.Nodup := by
  induction functions generalizing counter with
  | nil => exact ⟨[], rfl, nofun, nofun, List.nodup_nil⟩
  | cons function rest ih =>
      rw [List.map_cons, List.nodup_cons] at distinct
      rcases functionLabels_labels canaries (sound function List.mem_cons_self) counter with
        ⟨labels, after, isFirst, first⟩
      rcases ih distinct.2 (fun other member => sound other (List.mem_cons_of_mem _ member))
          after with
        ⟨others, isRest, members, owned, once⟩
      refine ⟨labels ++ others, ?_, ?_, ?_, ?_⟩
      · rw [functionsLabels, isFirst, Option.bind_eq_bind, Option.bind_some]
        change (functionsLabels canaries after rest).bind _ = _
        rw [isRest]
        rfl
      · intro label member
        rcases List.mem_append.mp member with member | member
        · rcases first.members label member with isOwned | ⟨number, rfl, bound, _⟩
          · exact Or.inl ⟨function, List.mem_cons_self, isOwned⟩
          · exact Or.inr ⟨number, rfl, bound⟩
        · rcases members label member with ⟨other, isOther, isOwned⟩ | ⟨number, rfl, bound⟩
          · exact Or.inl ⟨other, List.mem_cons_of_mem _ isOther, isOwned⟩
          · exact Or.inr ⟨number, rfl, Nat.le_trans (Nat.le_of_lt first.counts) bound⟩
      · intro other member label isOwned
        rcases List.mem_cons.mp member with rfl | member
        · exact List.mem_append_left _ (first.owned label isOwned)
        · exact List.mem_append_right _ (owned other member label isOwned)
      · rw [List.nodup_append]
        refine ⟨first.once, once, ?_⟩
        rintro label member _ isOther rfl
        rcases first.members label member with isOwned | ⟨number, rfl, _, limit⟩
        · rcases members label isOther with ⟨other, isMember, also⟩ | ⟨number, rfl, _⟩
          · refine distinct.1 ?_
            rw [isOwned.name_eq also]
            exact List.mem_map_of_mem isMember
          · cases isOwned
        · rcases members _ isOther with ⟨other, _, also⟩ | ⟨later, same, bound⟩
          · cases also
          · have isSame : number = later := by
              injection same
            omega

namespace Program

variable {program : Program}

/-- Where a label of a program comes from. -/
inductive Origin (program : Program) : StreamLabel -> Prop where
  | function {function : FunctionCode} : function ∈ program.functions ->
      Origin program (.function function.construction.functionName)
  | block {function : FunctionCode} {number : Nat} {idPrefix : BlockPrefix} :
      function ∈ program.functions -> function.construction.prefixes[number]? = some idPrefix ->
      Origin program (.block function.construction.functionName idPrefix number)
  | created (number : Nat) : Origin program (.created number)
  | canary {function : FunctionCode} (upper : Bool) : program.canaries = true ->
      function ∈ program.functions ->
      Origin program (.canary function.construction.functionName upper)
  | data {label : DataLabel} : label ∈ program.literals -> Origin program (.data label)

/-- Graphs that keep their blocks give different labels. -/
theorem exists_labels (sound : forall function, function ∈ program.functions ->
      function.construction.StaysSound) :
    exists labels, program.labels = some labels ∧
      (forall label, label ∈ labels -> program.Origin label) ∧
      (forall function, function ∈ program.functions -> forall label,
        Owned program.canaries function label -> label ∈ labels) ∧
      (forall label, label ∈ program.literals -> .data label ∈ labels) ∧ labels.Nodup := by
  rcases functionsLabels_labels program.canaries program.distinct sound 0 with
    ⟨labels, isLabels, members, owned, once⟩
  refine ⟨labels ++ program.literals.map .data, by rw [Program.labels, isLabels]; rfl, ?_, ?_, ?_,
    ?_⟩
  · intro label member
    rcases List.mem_append.mp member with member | member
    · rcases members label member with ⟨function, isFunction, isOwned⟩ | ⟨number, rfl, _⟩
      · cases isOwned with
        | function => exact .function isFunction
        | block present => exact .block isFunction present
        | canary upper isOn => exact .canary upper isOn isFunction
      · exact .created number
    · rcases List.mem_map.mp member with ⟨literal, isLiteral, rfl⟩
      exact .data isLiteral
  · intro function isFunction label isOwned
    exact List.mem_append_left _ (owned function isFunction label isOwned)
  · intro label isLiteral
    exact List.mem_append_right _ (List.mem_map_of_mem isLiteral)
  · rw [List.nodup_append]
    refine ⟨once, program.once.map fun _ _ same => by injection same, ?_⟩
    rintro label member _ isLiteral rfl
    rcases List.mem_map.mp isLiteral with ⟨literal, _, rfl⟩
    rcases members _ member with ⟨_, _, ⟨⟩⟩ | ⟨_, ⟨⟩, _⟩

/-- Functions with one name are the same. -/
theorem function_of_name {function other : FunctionCode} (isFunction : function ∈ program.functions)
    (isOther : other ∈ program.functions)
    (same : function.construction.functionName = other.construction.functionName) :
    function = other :=
  List.inj_on_of_nodup_map program.distinct isFunction isOther same

/-- The order in which the kinds of labels are compared. -/
def rank : StreamLabel -> Nat
  | .function _ => 0
  | .block _ _ _ => 1
  | .created _ => 2
  | .canary _ _ => 3
  | .data _ => 4

/-- Two labels with one text are the same, or the program has a clash. -/
theorem eq_or_clash {first second : StreamLabel} (isFirst : program.Origin first)
    (isSecond : program.Origin second) (equal : first.text = second.text) :
    first = second ∨ program.Clash := by
  wlog ordered : rank first <= rank second generalizing first second
  · rcases this isSecond isFirst equal.symm (Nat.le_of_not_le ordered) with same | clash
    · exact Or.inl same.symm
    · exact Or.inr clash
  cases isFirst with
  | function isFunction =>
      cases isSecond with
      | function _ => exact Or.inl (congrArg StreamLabel.function equal)
      | block isOther present => exact Or.inr (.blockName isFunction isOther present equal)
      | created number =>
          exact absurd equal (function_ne_created (program.identifiers _ isFunction) number)
      | canary upper isOn isOther => exact Or.inr (.canaryName isOn isFunction isOther equal)
      | data isLiteral => exact Or.inr (.literalName isFunction isLiteral equal)
  | @block function number idPrefix isFunction present =>
      cases isSecond with
      | function _ => exact absurd ordered (by decide : ¬ 1 <= 0)
      | @block other position otherPrefix isOther isPrefix =>
          by_cases same : function.construction.functionName = other.construction.functionName
          · cases function_of_name isFunction isOther same
            by_cases sameNumber : number = position
            · rw [sameNumber, isPrefix, Option.some.injEq] at present
              rw [sameNumber, present]
              exact Or.inl rfl
            · refine Or.inr (.overlap isFunction ?_)
              by_contra apart
              exact sameNumber (function.construction.blockId_injective apart present isPrefix equal)
          · rcases (blockId_eq_iff same).mp equal with
              ⟨labelName, rest, rfl, name, tail⟩ | ⟨labelName, rest, rfl, name, tail⟩
            · exact Or.inr (.labelBlock isFunction isOther present isPrefix name tail)
            · exact Or.inr (.labelBlock isOther isFunction isPrefix present name tail)
      | created other => exact absurd equal (block_ne_created _ _ _ _)
      | canary upper _ _ => exact absurd equal (block_ne_canary _ _ _ _ _)
      | data _ => exact absurd equal (block_ne_data _ _ _ _)
  | created number =>
      cases isSecond with
      | function _ => exact absurd ordered (by decide : ¬ 2 <= 0)
      | block _ _ => exact absurd ordered (by decide : ¬ 2 <= 1)
      | created other => exact Or.inl (congrArg StreamLabel.created (created_injective equal))
      | canary upper _ _ => exact absurd equal.symm (canary_ne_created _ _ _)
      | data _ => exact absurd equal (created_ne_data _ _)
  | canary upper _ isFunction =>
      cases isSecond with
      | function _ => exact absurd ordered (by decide : ¬ 3 <= 0)
      | block _ _ => exact absurd ordered (by decide : ¬ 3 <= 1)
      | created other => exact absurd ordered (by decide : ¬ 3 <= 2)
      | canary other _ _ =>
          have parts := canary_injective equal
          exact Or.inl (congrArg₂ StreamLabel.canary parts.1 parts.2)
      | data _ => exact absurd equal (canary_ne_data _ _ _)
  | data _ =>
      cases isSecond with
      | function _ => exact absurd ordered (by decide : ¬ 4 <= 0)
      | block _ _ => exact absurd ordered (by decide : ¬ 4 <= 1)
      | created other => exact absurd ordered (by decide : ¬ 4 <= 2)
      | canary other _ _ => exact absurd ordered (by decide : ¬ 4 <= 3)
      | data _ => exact Or.inl (congrArg StreamLabel.data (DataLabel.text_injective equal))

/-- The labels of a program are sound exactly if it has no clash. -/
theorem labelsSound_iff (program : Program) : program.LabelsSound <-> ¬ program.Clash := by
  constructor
  · intro sound clash
    rcases exists_labels sound.graphs with ⟨labels, isLabels, _, owned, literals, _⟩
    rcases sound.distinct with ⟨others, isOthers, texts⟩
    rw [isLabels, Option.some.injEq] at isOthers
    rw [<- isOthers] at texts
    have injective := @List.inj_on_of_nodup_map _ _ _ _ texts
    cases clash with
    | overlap isFunction overlap =>
        exact (Construction.staysSound_iff _).mp (sound.graphs _ isFunction) overlap
    | blockName isFunction isOther present same =>
        have equal := injective (owned _ isFunction _ .function) (owned _ isOther _ (.block present))
          same
        cases equal
    | canaryName isOn isFunction isOther same =>
        have equal := injective (owned _ isFunction _ .function)
          (owned _ isOther _ (.canary _ isOn)) same
        cases equal
    | literalName isFunction isLiteral same =>
        have equal := injective (owned _ isFunction _ .function) (literals _ isLiteral) same
        cases equal
    | @labelBlock function other number position labelName rest idPrefix isFunction isOther present
        isPrefix name tail =>
        have different : function.construction.functionName ≠ other.construction.functionName := by
          intro same
          have lengths := congrArg String.length (same.trans name)
          simp only [String.length_append] at lengths
          have positive : 0 < "_Label".length := by decide
          omega
        have equal := injective (owned _ isFunction _ (.block present))
          (owned _ isOther _ (.block isPrefix))
          ((blockId_eq_iff different).mpr (Or.inl ⟨labelName, rest, rfl, name, tail⟩))
        injection equal with sameName
        exact different sameName
  · intro apart
    have graphs (function : FunctionCode) (isFunction : function ∈ program.functions) :
        function.construction.StaysSound :=
      function.construction.staysSound_iff.mpr fun overlap => apart (.overlap isFunction overlap)
    rcases exists_labels graphs with ⟨labels, isLabels, origins, _, _, once⟩
    have texts : (labels.map StreamLabel.text).Nodup := by
      refine List.Nodup.map_on ?_ once
      intro first isFirst second isSecond equal
      exact (eq_or_clash (origins first isFirst) (origins second isSecond) equal).resolve_right apart
    refine ⟨graphs, ⟨labels, isLabels, texts⟩, ?_⟩
    intro others isOthers stream names codeBase dataBase
    rw [isLabels, Option.some.injEq] at isOthers
    rw [<- isOthers] at names
    rcases (assignFrom_succeeds (segmentBase stream.instructions codeBase dataBase) (fun _ => none)
        stream.instructions).mpr ⟨names ▸ texts, fun _ _ => rfl⟩ with ⟨placed, bound, assigns⟩
    exact ⟨(placed, bound), assigns⟩

/-- The calls for a routine that has a label `a1`, four `IF`s, a label `b` and a label `a`: the
block of `a` has the number 11. -/
def overlappingLabels : Construction where
  functionName := "START"
  calls :=
    [.createBlock .entry,
      .createBlock (.label "a1"), .addEdge (some 0) (some 1),
      .createBlock .thenBranch, .createBlock .join,
      .addEdge (some 1) (some 2), .addEdge (some 1) (some 3), .addEdge (some 2) (some 3),
      .createBlock .thenBranch, .createBlock .join,
      .addEdge (some 3) (some 4), .addEdge (some 3) (some 5), .addEdge (some 4) (some 5),
      .createBlock .thenBranch, .createBlock .join,
      .addEdge (some 5) (some 6), .addEdge (some 5) (some 7), .addEdge (some 6) (some 7),
      .createBlock .thenBranch, .createBlock .join,
      .addEdge (some 7) (some 8), .addEdge (some 7) (some 9), .addEdge (some 8) (some 9),
      .createBlock (.label "b"), .addEdge (some 9) (some 10),
      .createBlock (.label "a"), .addEdge (some 10) (some 11),
      .createBlock .exit, .addEdge (some 11) (some 12)]
  known := by simp [KnownEnds]

/-- The program with that routine only. -/
def overlappingProgram : Program where
  functions := [⟨overlappingLabels, fun _ => ⟨0, [], List.nodup_nil, nofun⟩⟩]
  literals := []
  canaries := false
  identifiers := by
    intro function member
    cases List.mem_singleton.mp member
    decide
  distinct := List.nodup_singleton _
  once := List.nodup_nil

/-- The block of the label `a` destroys that of `a1`. -/
theorem overlappingProgram_unsound : ¬ forall program : Program, program.LabelsSound := by
  intro sound
  have graph := (sound overlappingProgram).graphs _ List.mem_cons_self
  refine overlappingLabels.staysSound_iff.mp graph
    ⟨1, 11, "a1", "a", "1", by decide, rfl, rfl, by decide, by decide⟩

end Program

end Linking
end NewBcpl
