import NewBcpl.Peephole.EncodedRecords

namespace NewBcpl
namespace Peephole

/-!
# The windows that a pass rewrites

Of the registered patterns, six can replace a window of encoded instructions.
The others are placeholders, follow a branch target that no constructor sets,
or match windows with a label reference only. For every window that can be
replaced, the replacement has the same effect and is another list exactly if
the window is harmless.
-/

/-- A window, what replaces it, and the words behind it. -/
inductive Window : List Instruction -> List Instruction -> Prop
  | identity {i : Instruction} {rd rn : Fin 32} (opcode : i.opcode = .add ∨ i.opcode = .sub)
      (zero : ZeroAddition rd rn i.operation) : Window [i] [wideMove rd rn]
  | selfMove {i : Instruction} {wide : Bool} {register : Fin 32} (opcode : i.opcode = .mov)
      (operation : i.operation = .orr wide register register) : Window [i] []
  | loadAfterStore {first second : Instruction} {wide wide' : Bool} {rt rn : Fin 32}
      {position : Nat} {operand : Operand} {immediate : Int}
      (opcode : first.opcode = .str) (opcode' : second.opcode = .ldr)
      (operation : first.operation = .str wide rt rn position)
      (operation' : second.operation = .ldr wide' rt rn operand)
      (offset : RecordedStore wide immediate position)
      (offset' : operand.Recorded wide' immediate) : Window [first, second] [first]
  | redundantLoad {first second : Instruction} {wide wide' : Bool} {rt rt' rn : Fin 32}
      {operand operand' : Operand} {immediate : Int}
      (opcode : first.opcode = .ldr) (opcode' : second.opcode = .ldr)
      (operation : first.operation = .ldr wide rt rn operand)
      (operation' : second.operation = .ldr wide' rt' rn operand')
      (offset : operand.Recorded wide immediate)
      (offset' : operand'.Recorded wide' immediate) (apart : rt ≠ rn) :
      Window [first, second] [first, wideMove rt' rt]
  | deadStore {first second : Instruction} {wide wide' : Bool} {rt rt' rn : Fin 32}
      {position position' : Nat} {immediate : Int}
      (opcode : first.opcode = .str) (opcode' : second.opcode = .str)
      (operation : first.operation = .str wide rt rn position)
      (operation' : second.operation = .str wide' rt' rn position')
      (offset : RecordedStore wide immediate position)
      (offset' : RecordedStore wide' immediate position') : Window [first, second] [second]
  | comparison {first second : Instruction} {assembly : String} (opcode : first.opcode = .cmp)
      (opcode' : second.opcode = .bCond) (operation : first.operation = .other assembly) :
      Window [first, second] [first, second]

section Matching

/-! ## From patterns to windows -/

theorem drop_of_getElem? {instrs : List Instruction} {pos : Nat} {i : Instruction}
    (here : instrs[pos]? = some i) : instrs.drop pos = i :: instrs.drop (pos + 1) := by
  obtain ⟨below, rfl⟩ := List.getElem?_eq_some_iff.mp here
  exact List.drop_eq_getElem_cons below

theorem ofTest_matched {test : Bool} {length : Nat}
    (matched : (MatchResult.ofTest test length).matched = true) :
    test = true ∧ MatchResult.ofTest test length = { matched := true, length := length } := by
  cases test with
  | true => exact ⟨rfl, rfl⟩
  | false => cases matched

theorem onOne_matched {test : Instruction -> Bool}
    {replacements : Instruction -> Option (List Instruction)} {description : String}
    {instrs : List Instruction} {pos : Nat}
    (matched : ((InstructionPattern.onOne test replacements description).matcher
      instrs pos).matched = true) :
    exists i rest, instrs.drop pos = [i] ++ rest ∧ test i = true ∧
      ((InstructionPattern.onOne test replacements description).matcher instrs pos).length = 1 ∧
      (InstructionPattern.onOne test replacements description).transformer instrs pos =
        replacements i := by
  simp only [InstructionPattern.onOne] at matched ⊢
  cases here : instrs[pos]? with
  | none =>
      rw [here] at matched
      cases matched
  | some i =>
      rw [here] at matched
      obtain ⟨holds, result⟩ := ofTest_matched matched
      refine ⟨i, _, drop_of_getElem? here, holds, ?_, rfl⟩
      exact congrArg MatchResult.length result

theorem onTwo_matched {test : Instruction -> Instruction -> Bool}
    {replacements : Instruction -> Instruction -> Option (List Instruction)}
    {description : String} {instrs : List Instruction} {pos : Nat}
    (matched : ((InstructionPattern.onTwo test replacements description).matcher
      instrs pos).matched = true) :
    exists first second rest, instrs.drop pos = [first, second] ++ rest ∧
      test first second = true ∧
      ((InstructionPattern.onTwo test replacements description).matcher instrs pos).length = 2 ∧
      (InstructionPattern.onTwo test replacements description).transformer instrs pos =
        replacements first second := by
  simp only [InstructionPattern.onTwo] at matched ⊢
  cases here : instrs[pos]? with
  | none =>
      rw [here] at matched
      cases matched
  | some first =>
      cases next : instrs[pos + 1]? with
      | none =>
          rw [here, next] at matched
          cases matched
      | some second =>
          rw [here, next] at matched
          obtain ⟨holds, result⟩ := ofTest_matched matched
          refine ⟨first, second, instrs.drop (pos + 1 + 1), ?_, holds, ?_, rfl⟩
          · rw [drop_of_getElem? here, drop_of_getElem? next]
            rfl
          · exact congrArg MatchResult.length result

/-- What a matching pattern does at a position: it replaces one of the windows,
or its window carries a label reference. -/
def Fires (pattern : InstructionPattern) (instrs : List Instruction) (pos : Nat) : Prop :=
  exists window rest replacements, instrs.drop pos = window ++ rest ∧
    (pattern.matcher instrs pos).length = window.length ∧
    pattern.transformer instrs pos = some replacements ∧
    (Window window replacements ∨
      wouldBreakLabelReferences instrs pos window.length replacements = true)

theorem mem_of_drop {instrs window rest : List Instruction} {pos : Nat}
    (here : instrs.drop pos = window ++ rest) {i : Instruction} (member : i ∈ window) :
    i ∈ instrs := by
  have inDrop : i ∈ instrs.drop pos := by
    rw [here]
    exact List.mem_append_left _ member
  exact List.mem_of_mem_drop inDrop

theorem mem_first {first second : Instruction} : first ∈ [first, second] :=
  List.mem_cons_self

theorem mem_second {first second : Instruction} : second ∈ [first, second] :=
  List.mem_cons_of_mem _ (List.mem_singleton_self second)

variable {instrs : List Instruction} {pos : Nat}

theorem placeholder_silent (description : String) :
    ((placeholder description).matcher instrs pos).matched ≠ true := by
  intro matched
  obtain ⟨_, _, _, test, _⟩ := onOne_matched matched
  cases test

theorem identity_fires (encoded : forall i, i ∈ instrs -> FromEncoder i)
    (matched : (createIdentityOperationEliminationPattern.matcher instrs pos).matched = true) :
    Fires createIdentityOperationEliminationPattern instrs pos := by
  obtain ⟨i, rest, here, test, length, transformed⟩ := onOne_matched matched
  simp only [Bool.and_eq_true, Bool.or_eq_true, beq_iff_eq] at test
  obtain ⟨⟨opcode, uses⟩, zero⟩ := test
  obtain ⟨rd, rn, dest, source, operation⟩ :=
    (encoded i (mem_of_drop here (List.mem_singleton_self i))).arithmetic opcode uses
  refine ⟨[i], rest, [wideMove rd rn], here, length, transformed.trans ?_,
    Or.inl (.identity opcode (operation zero))⟩
  simp only [dest, source, getRegisterName_recorded, Option.bind_eq_bind, Option.bind_some,
    createMovReg_wide]

theorem removeSelfMove_fires (encoded : forall i, i ∈ instrs -> FromEncoder i)
    {description : String}
    (matched : ((removeSelfMove description).matcher instrs pos).matched = true) :
    Fires (removeSelfMove description) instrs pos := by
  obtain ⟨i, rest, here, test, length, transformed⟩ := onOne_matched matched
  simp only [Bool.and_eq_true, beq_iff_eq] at test
  obtain ⟨wide, register, operation⟩ :=
    (encoded i (mem_of_drop here (List.mem_singleton_self i))).selfMove test.1 test.2
  exact ⟨[i], rest, [], here, length, transformed, Or.inl (.selfMove test.1 operation)⟩

theorem createAdr_recorded (rd : Fin 32) (name : String) :
    exists adr, createAdr (.x rd.val) name = some adr := by
  simp only [createAdr, getRegEncoding, registerNumber_val, Option.bind_eq_bind, Option.bind_some]
  exact ⟨_, rfl⟩

/-- The windows of a fusion refer to a label, so it is never applied. -/
theorem adrFusion_fires (encoded : forall i, i ∈ instrs -> FromEncoder i)
    (matched : (createAdrFusionPattern.matcher instrs pos).matched = true) :
    Fires createAdrFusionPattern instrs pos := by
  obtain ⟨first, second, rest, here, test, length, transformed⟩ := onTwo_matched matched
  simp only [Bool.and_eq_true, beq_iff_eq, Bool.not_eq_true', Bool.or_eq_false_iff] at test
  obtain ⟨⟨⟨⟨⟨_, opcode'⟩, sameDest⟩, _⟩, labelled, _⟩, _⟩ := test
  obtain ⟨rd, dest⟩ := (encoded second (mem_of_drop here mem_second)).sum opcode'
  obtain ⟨adr, made⟩ := createAdr_recorded rd first.targetLabel
  refine ⟨[first, second], rest, [adr], here, length, transformed.trans ?_, Or.inr ?_⟩
  · rw [sameDest, dest, getRegisterName_recorded]
    simp only [Option.bind_eq_bind, Option.bind_some, made]
  · unfold wouldBreakLabelReferences
    rw [here, List.take_left' rfl, List.any_cons, labelled]
    rfl

theorem sameRecordedLocation_iff {first second : Instruction} {rn rn' : Fin 32}
    (base : first.baseReg = recorded rn) (base' : second.baseReg = recorded rn') :
    sameRecordedLocation first second = true <->
      rn = rn' ∧ first.immediate = second.immediate := by
  unfold sameRecordedLocation
  rw [base, base', areSameRegister_recorded, Bool.and_eq_true, beq_iff_eq, beq_iff_eq]

theorem loadAfterStore_fires (encoded : forall i, i ∈ instrs -> FromEncoder i)
    (matched : (createLoadAfterStorePattern.matcher instrs pos).matched = true) :
    Fires createLoadAfterStorePattern instrs pos := by
  obtain ⟨first, second, rest, here, test, length, transformed⟩ := onTwo_matched matched
  simp only [Bool.and_eq_true, beq_iff_eq] at test
  obtain ⟨⟨⟨opcode, opcode'⟩, location⟩, target⟩ := test
  obtain ⟨wide, rt, rn, position, operation, source, base, offset⟩ :=
    (encoded first (mem_of_drop here mem_first)).store opcode
  obtain ⟨wide', rt', rn', operand, operation', dest, base', _, offset'⟩ :=
    (encoded second (mem_of_drop here mem_second)).load opcode'
  obtain ⟨rfl, immediate⟩ := (sameRecordedLocation_iff base base').mp location
  rw [source, dest, areSameRegister_recorded, beq_iff_eq] at target
  subst target
  rw [<- immediate] at offset'
  exact ⟨[first, second], rest, [first], here, length, transformed,
    Or.inl (.loadAfterStore opcode opcode' operation operation' offset offset')⟩

theorem redundantLoad_fires (encoded : forall i, i ∈ instrs -> FromEncoder i)
    (matched : (createRedundantLoadEliminationPattern.matcher instrs pos).matched = true) :
    Fires createRedundantLoadEliminationPattern instrs pos := by
  obtain ⟨first, second, rest, here, test, length, transformed⟩ := onTwo_matched matched
  simp only [Bool.and_eq_true, beq_iff_eq, Bool.not_eq_true', Bool.or_eq_false_iff] at test
  obtain ⟨⟨⟨opcode, opcode'⟩, location⟩, notBase, _⟩ := test
  obtain ⟨wide, rt, rn, operand, operation, dest, base, _, offset⟩ :=
    (encoded first (mem_of_drop here mem_first)).load opcode
  obtain ⟨wide', rt', rn', operand', operation', dest', base', _, offset'⟩ :=
    (encoded second (mem_of_drop here mem_second)).load opcode'
  obtain ⟨rfl, immediate⟩ := (sameRecordedLocation_iff base base').mp location
  rw [dest, base', areSameRegister_recorded, beq_eq_false_iff_ne] at notBase
  rw [<- immediate] at offset'
  refine ⟨[first, second], rest, [first, wideMove rt' rt], here, length, transformed.trans ?_,
    Or.inl (.redundantLoad opcode opcode' operation operation' offset offset' notBase)⟩
  simp only [dest, dest', getRegisterName_recorded, Option.bind_eq_bind, Option.bind_some,
    createMovReg_wide]

/-- Two stores that are recorded with one location. -/
theorem stores_window (encoded : forall i, i ∈ instrs -> FromEncoder i)
    {first second : Instruction} {rest : List Instruction}
    (here : instrs.drop pos = [first, second] ++ rest) (opcode : first.opcode = .str)
    (opcode' : second.opcode = .str) (location : sameRecordedLocation first second = true) :
    Window [first, second] [second] := by
  obtain ⟨wide, rt, rn, position, operation, _, base, offset⟩ :=
    (encoded first (mem_of_drop here mem_first)).store opcode
  obtain ⟨wide', rt', rn', position', operation', _, base', offset'⟩ :=
    (encoded second (mem_of_drop here mem_second)).store opcode'
  obtain ⟨rfl, immediate⟩ := (sameRecordedLocation_iff base base').mp location
  rw [<- immediate] at offset'
  exact .deadStore opcode opcode' operation operation' offset offset'

theorem deadStore_fires (encoded : forall i, i ∈ instrs -> FromEncoder i)
    (matched : (createDeadStorePattern.matcher instrs pos).matched = true) :
    Fires createDeadStorePattern instrs pos := by
  obtain ⟨first, second, rest, here, test, length, transformed⟩ := onTwo_matched matched
  simp only [Bool.and_eq_true, beq_iff_eq] at test
  exact ⟨[first, second], rest, [second], here, length, transformed,
    Or.inl (stores_window encoded here test.1.1 test.1.2 test.2)⟩

theorem redundantStore_fires (encoded : forall i, i ∈ instrs -> FromEncoder i)
    (matched : (createRedundantStorePattern.matcher instrs pos).matched = true) :
    Fires createRedundantStorePattern instrs pos := by
  obtain ⟨first, second, rest, here, test, length, transformed⟩ := onTwo_matched matched
  simp only [Bool.and_eq_true, beq_iff_eq] at test
  exact ⟨[first, second], rest, [second], here, length, transformed,
    Or.inl (stores_window encoded here test.1.1.1 test.1.1.2 test.1.2)⟩

theorem compareZero_fires (encoded : forall i, i ∈ instrs -> FromEncoder i)
    (matched : (createCompareZeroBranchPattern.matcher instrs pos).matched = true) :
    Fires createCompareZeroBranchPattern instrs pos := by
  obtain ⟨first, second, rest, here, test, length, transformed⟩ := onTwo_matched matched
  simp only [Bool.and_eq_true, beq_iff_eq] at test
  obtain ⟨assembly, operation⟩ :=
    (encoded first (mem_of_drop here mem_first)).comparison test.1.1.1
  exact ⟨[first, second], rest, [first, second], here, length, transformed,
    Or.inl (.comparison test.1.1.1 test.1.1.2 operation)⟩

/-- A branch without a recorded target is not chained. -/
theorem branchChaining_silent (encoded : forall i, i ∈ instrs -> FromEncoder i) :
    (createBranchChainingPattern.matcher instrs pos).matched ≠ true := by
  intro matched
  simp only [createBranchChainingPattern] at matched
  cases here : instrs[pos]? with
  | none =>
      rw [here] at matched
      cases matched
  | some i =>
      have member : i ∈ instrs := List.mem_of_getElem? here
      rw [here] at matched
      simp only [(encoded i member).plain.1, if_true] at matched
      split at matched <;> cases matched

/-- Every registered pattern that matches fires. -/
theorem registered_fires (encoded : forall i, i ∈ instrs -> FromEncoder i)
    {pattern : InstructionPattern} (member : pattern ∈ registeredPatterns)
    (matched : (pattern.matcher instrs pos).matched = true) : Fires pattern instrs pos := by
  simp only [registeredPatterns, List.mem_cons, List.not_mem_nil, or_false] at member
  rcases member with rfl | rfl | rfl | rfl | rfl | rfl | rfl | rfl | rfl | rfl | rfl | rfl |
    rfl | rfl
  · exact absurd matched (placeholder_silent _)
  · exact identity_fires encoded matched
  · exact removeSelfMove_fires encoded matched
  · exact removeSelfMove_fires encoded matched
  · exact adrFusion_fires encoded matched
  · exact absurd matched (placeholder_silent _)
  · exact absurd matched (placeholder_silent _)
  · exact absurd matched (placeholder_silent _)
  · exact loadAfterStore_fires encoded matched
  · exact redundantLoad_fires encoded matched
  · exact deadStore_fires encoded matched
  · exact redundantStore_fires encoded matched
  · exact compareZero_fires encoded matched
  · exact absurd matched (branchChaining_silent encoded)

/-- The first pattern that may be applied, and that it exists or not is all that
can happen if no matching pattern throws. -/
theorem firstRewrite_cases {patterns : List InstructionPattern}
    (fires : forall pattern, pattern ∈ patterns ->
      (pattern.matcher instrs pos).matched = true -> Fires pattern instrs pos) :
    firstRewrite instrs pos patterns = some none ∨
      exists window rest rewrite, firstRewrite instrs pos patterns = some (some rewrite) ∧
        instrs.drop pos = window ++ rest ∧ rewrite.length = window.length ∧
        Window window rewrite.replacements := by
  induction patterns with
  | nil => exact Or.inl rfl
  | cons pattern patterns ih =>
      have rest := ih fun other member => fires other (List.mem_cons_of_mem _ member)
      by_cases matched : (pattern.matcher instrs pos).matched = true
      · obtain ⟨window, after, replacements, here, length, transformed, outcome⟩ :=
          fires pattern List.mem_cons_self matched
        simp only [firstRewrite, if_pos matched, transformed, length]
        by_cases breaks : wouldBreakLabelReferences instrs pos window.length replacements = true
        · rw [if_pos breaks]
          exact rest
        · rw [if_neg breaks]
          refine Or.inr ⟨window, after, _, rfl, here, rfl, ?_⟩
          exact outcome.resolve_right breaks
      · simp only [firstRewrite, if_neg matched]
        exact rest

end Matching

section Windows

/-! ## What is true of every window -/

/-- The words of a window. -/
def meanings (window : List Instruction) : List Operation :=
  window.map Instruction.operation

/-- Whether a window may be replaced. -/
def harmless (window : List Instruction) : Bool :=
  harmlessOperations (meanings window)

/-- How much work an instruction may still be. -/
def weight (i : Instruction) : Nat :=
  if i.opcode = .add ∨ i.opcode = .sub ∨ i.opcode = .ldr then 2 else 1

/-- How much work a list may still be. -/
def totalWeight (instrs : List Instruction) : Nat := (instrs.map weight).sum

variable {window replacements : List Instruction}

theorem ZeroAddition.sameEffect_iff {rd rn : Fin 32} {operation : Operation}
    (zero : ZeroAddition rd rn operation) :
    SameEffect [operation] [.orr true rd rn] <-> harmlessOperations [operation] = true := by
  cases zero with
  | addImm wide => exact addImm_sameEffect_iff wide rd rn
  | subImm wide => exact subImm_sameEffect_iff wide rd rn
  | addShifted wide rm shift => exact addShifted_sameEffect_iff wide rd rn rm shift
  | literal assembly =>
      exact iff_of_false (other_not_sameEffect assembly rd rn) (by simp [harmlessOperations])

theorem weight_positive (i : Instruction) : 0 < weight i := by
  unfold weight
  split <;> decide

theorem weight_wideMove (rd rn : Fin 32) : weight (wideMove rd rn) = 1 := rfl

/-- A replacement is less work than its window, except for the comparison that
is put back as it was. -/
theorem Window.progress (rewritten : Window window replacements) :
    totalWeight replacements < totalWeight window ∨
      replacements = window ∧ harmless window = false := by
  cases rewritten with
  | identity opcode _ =>
      left
      have heavy : weight _ = 2 := if_pos (opcode.elim Or.inl fun sub => Or.inr (Or.inl sub))
      simp [totalWeight, weight_wideMove, heavy]
  | selfMove _ _ =>
      left
      simpa [totalWeight] using weight_positive _
  | loadAfterStore _ _ _ _ _ _ =>
      left
      simpa [totalWeight] using weight_positive _
  | redundantLoad _ opcode' _ _ _ _ _ =>
      left
      have heavy : weight _ = 2 := if_pos (Or.inr (Or.inr opcode'))
      simp [totalWeight, weight_wideMove, heavy]
  | deadStore _ _ _ _ _ _ =>
      left
      simpa [totalWeight] using weight_positive _
  | comparison _ _ operation =>
      right
      refine ⟨rfl, ?_⟩
      simp only [harmless, meanings, List.map_cons, operation]
      rfl

/-- Where a replacement is less work than its window, the window is harmless
exactly if both have the same effect. -/
theorem Window.sameEffect_iff (rewritten : Window window replacements)
    (less : totalWeight replacements < totalWeight window) :
    SameEffect (meanings window) (meanings replacements) <-> harmless window = true := by
  unfold harmless meanings
  cases rewritten with
  | identity _ zero => exact zero.sameEffect_iff
  | selfMove _ operation =>
      simp only [List.map_cons, List.map_nil, operation]
      exact orr_sameEffect_iff _ _
  | loadAfterStore _ _ operation operation' offset offset' =>
      simp only [List.map_cons, List.map_nil, operation, operation']
      exact storeLoad_sameEffect_iff offset offset'
  | redundantLoad _ _ operation operation' offset offset' apart =>
      simp only [List.map_cons, List.map_nil, operation, operation']
      exact loadLoad_sameEffect_iff offset offset' apart
  | deadStore _ _ operation operation' offset offset' =>
      simp only [List.map_cons, List.map_nil, operation, operation']
      exact storeStore_sameEffect_iff offset offset'
  | comparison _ _ _ => exact absurd less (Nat.lt_irrefl _)

/-- A window is harmless exactly if its replacement has the same effect and is
not the window again. -/
theorem Window.harmless_iff (rewritten : Window window replacements) :
    harmless window = true <->
      SameEffect (meanings window) (meanings replacements) ∧ replacements ≠ window := by
  rcases rewritten.progress with less | ⟨equal, harmful⟩
  · have changed : replacements ≠ window := by
      rintro rfl
      exact Nat.lt_irrefl _ less
    rw [rewritten.sameEffect_iff less]
    exact (and_iff_left changed).symm
  · rw [harmful]
    exact iff_of_false Bool.false_ne_true fun both => both.2 equal

/-- Every instruction of a window or of its replacement has an operation type
that patterns ask for. -/
theorem Window.asked (rewritten : Window window replacements) {i : Instruction}
    (member : i ∈ window ∨ i ∈ replacements) : i.opcode.asked = true := by
  cases rewritten with
  | identity opcode _ =>
      rcases member with member | member
      · rw [List.mem_singleton.mp member]
        rcases opcode with equal | equal <;> rw [equal] <;> rfl
      · rw [List.mem_singleton.mp member]
        rfl
  | selfMove opcode _ =>
      rcases member with member | member
      · rw [List.mem_singleton.mp member, opcode]
        rfl
      · cases member
  | loadAfterStore opcode opcode' _ _ _ _ =>
      simp only [List.mem_cons, List.not_mem_nil, or_false] at member
      rcases member with (rfl | rfl) | rfl
      · rw [opcode]; rfl
      · rw [opcode']; rfl
      · rw [opcode]; rfl
  | redundantLoad opcode opcode' _ _ _ _ _ =>
      simp only [List.mem_cons, List.not_mem_nil, or_false] at member
      rcases member with (rfl | rfl) | rfl | rfl
      · rw [opcode]; rfl
      · rw [opcode']; rfl
      · rw [opcode]; rfl
      · rfl
  | deadStore opcode opcode' _ _ _ _ =>
      simp only [List.mem_cons, List.not_mem_nil, or_false] at member
      rcases member with (rfl | rfl) | rfl
      · rw [opcode]; rfl
      · rw [opcode']; rfl
      · rw [opcode']; rfl
  | comparison opcode opcode' _ =>
      simp only [List.mem_cons, List.not_mem_nil, or_false] at member
      rcases member with (rfl | rfl) | rfl | rfl
      · rw [opcode]; rfl
      · rw [opcode']; rfl
      · rw [opcode]; rfl
      · rw [opcode']; rfl

/-- What replaces a window is a part of the window or a move. -/
theorem Window.kept (rewritten : Window window replacements) {i : Instruction}
    (member : i ∈ replacements) : i ∈ window ∨ exists rd rn, i = wideMove rd rn := by
  cases rewritten with
  | identity _ _ => exact Or.inr ⟨_, _, List.mem_singleton.mp member⟩
  | selfMove _ _ => cases member
  | loadAfterStore _ _ _ _ _ _ =>
      rw [List.mem_singleton.mp member]
      exact Or.inl mem_first
  | redundantLoad _ _ _ _ _ _ _ =>
      simp only [List.mem_cons, List.not_mem_nil, or_false] at member
      rcases member with rfl | rfl
      · exact Or.inl mem_first
      · exact Or.inr ⟨_, _, rfl⟩
  | deadStore _ _ _ _ _ _ =>
      rw [List.mem_singleton.mp member]
      exact Or.inl mem_second
  | comparison _ _ _ => exact Or.inl member

/-- What replaces encoded instructions is encoded. -/
theorem Window.encoded (rewritten : Window window replacements)
    (encoded : forall i, i ∈ window -> FromEncoder i) {i : Instruction}
    (member : i ∈ replacements) : FromEncoder i := by
  rcases rewritten.kept member with inside | ⟨rd, rn, rfl⟩
  · exact encoded i inside
  · exact .movReg (createMovReg_wide rd rn)

end Windows

end Peephole
end NewBcpl
