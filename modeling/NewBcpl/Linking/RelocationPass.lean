import NewBcpl.Linking.RelocatedFields

namespace NewBcpl
namespace Linking

open Encoding
open Foundations.BitFields
open Foundations.SignedFields

/-!
# Where the relocations are right

An entry is linked when the field of its relocation can represent its target. The pass fails
only at an entry without a target, and cuts the others to their field.
-/

/-! ## One entry -/

/-- The slice of a target that a move holds. -/
theorem read_patchSlice (encoding : BitVec 32) (target : Word) (shift : Nat) :
    immediate16.read (applyMovzMovkRelocation.patchSlice encoding target shift) =
      target.extractLsb' shift 16 := by
  have ones : (0xFFFF#64 : Word) = BitVec.ofNat 64 (2 ^ 16 - 1) := rfl
  unfold applyMovzMovkRelocation.patchSlice
  rw [PatchField.read_patch]
  apply BitVec.eq_of_getLsbD_eq
  intro place below
  have inWord : place < 32 := by omega
  have inTarget : place < 64 := by omega
  rw [BitVec.getLsbD_setWidth, BitVec.getLsbD_setWidth, BitVec.getLsbD_setWidth,
    BitVec.getLsbD_and, ones, BitVec.getLsbD_ofNat, Nat.testBit_two_pow_sub_one,
    BitVec.getLsbD_ushiftRight, BitVec.getLsbD_extractLsb']
  simp [below, inWord, inTarget]

/-- What `ADD` adds is the place of the target in its page. -/
theorem addedImmediate_patch (encoding : BitVec 32) (target : Word) :
    addedImmediate (patch encoding ((target &&& pageMask).setWidth 32) immediate12) =
      target &&& pageMask := by
  have mask : pageMask = BitVec.ofNat 64 (2 ^ 12 - 1) := rfl
  unfold addedImmediate
  rw [PatchField.read_patch]
  apply BitVec.eq_of_getLsbD_eq
  intro place below
  rw [BitVec.getLsbD_setWidth, BitVec.getLsbD_setWidth, BitVec.getLsbD_setWidth,
    BitVec.getLsbD_and, mask, BitVec.getLsbD_ofNat, Nat.testBit_two_pow_sub_one]
  by_cases inPage : place < 12
  · have inWord : place < 32 := by omega
    simp [inPage, inWord, below]
  · simp [inPage]

/-- The bits outside of the two parts of a page number stay. -/
theorem patch_page_outside (encoding first second : BitVec 32) {place : Nat} (below : place < 32)
    (outsideHigh : place < 5 ∨ 24 <= place) (outsideLow : place < 29 ∨ 31 <= place) :
    (patch (patch encoding first pageLow) second pageHigh).getLsbD place =
      encoding.getLsbD place := by
  rw [patch_agreeOutside _ second pageHigh place below outsideHigh,
    patch_agreeOutside _ first pageLow place below outsideLow]

/-- An entry is patched without an error, and its target is read from it when the field can
represent the target. -/
theorem patchedEncoding_spec (instruction : RelocatedInstruction) (target : Word) :
    exists encoding, patchedEncoding instruction target = .ok encoding ∧
      (ReadsTarget instruction target encoding <->
        Represents instruction.relocation instruction.address target) := by
  obtain ⟨encoding, address, relocation, label, applied, symbol, resolved⟩ := instruction
  cases relocation with
  | none => exact ⟨_, rfl, iff_of_true rfl trivial⟩
  | jump => exact ⟨_, rfl, iff_of_true rfl trivial⟩
  | label => exact ⟨_, rfl, iff_of_true rfl trivial⟩
  | pcRelative26BitOffset =>
      refine ⟨_, rfl, Iff.trans (and_iff_left (patch_agreeOutside _ _ offset26)) ?_⟩
      rw [PatchField.read_patch]
      exact @branchTarget_eq_iff 25 address target (by decide)
  | pcRelative19BitOffset =>
      refine ⟨_, rfl, Iff.trans (and_iff_left (patch_agreeOutside _ _ offset19)) ?_⟩
      rw [PatchField.read_patch]
      exact @branchTarget_eq_iff 18 address target (by decide)
  | page21BitPcRelative =>
      refine ⟨_, rfl, Iff.trans (and_iff_left ?_) ?_⟩
      · intro place below outsideHigh outsideLow
        exact patch_page_outside _ _ _ below outsideHigh outsideLow
      · apply pageAddress_eq_iff address target _ _ rfl
        · exact PatchField.read_patch pageHigh _ _
        · rw [PatchField.read_patch_of_disjoint (by decide)]
          exact PatchField.read_patch pageLow _ _
  | add12BitUnsignedOffset =>
      exact ⟨_, rfl, iff_of_true
        ⟨addedImmediate_patch encoding target, patch_agreeOutside _ _ immediate12⟩ trivial⟩
  | movzMovkImm0 =>
      exact ⟨_, rfl, iff_of_true
        ⟨read_patchSlice encoding target 0, patch_agreeOutside _ _ immediate16⟩ trivial⟩
  | movzMovkImm16 =>
      exact ⟨_, rfl, iff_of_true
        ⟨read_patchSlice encoding target 16, patch_agreeOutside _ _ immediate16⟩ trivial⟩
  | movzMovkImm32 =>
      exact ⟨_, rfl, iff_of_true
        ⟨read_patchSlice encoding target 32, patch_agreeOutside _ _ immediate16⟩ trivial⟩
  | movzMovkImm48 =>
      exact ⟨_, rfl, iff_of_true
        ⟨read_patchSlice encoding target 48, patch_agreeOutside _ _ immediate16⟩ trivial⟩
  | absoluteAddressLo32 =>
      refine ⟨_, rfl, iff_of_true ?_ trivial⟩
      change (target &&& 0xFFFFFFFF#64).setWidth 32 = target.extractLsb' 0 32
      have ones : (0xFFFFFFFF#64 : Word) = BitVec.ofNat 64 (2 ^ 32 - 1) := rfl
      apply BitVec.eq_of_getLsbD_eq
      intro place below
      have inTarget : place < 64 := by omega
      rw [BitVec.getLsbD_setWidth, BitVec.getLsbD_and, ones, BitVec.getLsbD_ofNat,
        Nat.testBit_two_pow_sub_one, BitVec.getLsbD_extractLsb']
      simp [below, inTarget]
  | absoluteAddressHi32 =>
      refine ⟨_, rfl, iff_of_true ?_ trivial⟩
      change (target >>> 32).setWidth 32 = target.extractLsb' 32 32
      apply BitVec.eq_of_getLsbD_eq
      intro place below
      rw [BitVec.getLsbD_setWidth, BitVec.getLsbD_ushiftRight, BitVec.getLsbD_extractLsb']

/-- The four slices of an address. -/
theorem slices_append (target : Word) :
    target.extractLsb' 48 16 ++ target.extractLsb' 32 16 ++ target.extractLsb' 16 16 ++
      target.extractLsb' 0 16 = target := by
  apply BitVec.eq_of_getLsbD_eq
  intro place below
  rw [BitVec.getLsbD_append, BitVec.getLsbD_append, BitVec.getLsbD_append,
    BitVec.getLsbD_extractLsb', BitVec.getLsbD_extractLsb', BitVec.getLsbD_extractLsb',
    BitVec.getLsbD_extractLsb']
  by_cases first : place < 16
  · simp [first]
  · by_cases second : place - 16 < 16
    · have back : 16 + (place - 16) = place := by omega
      simp [first, second, back]
    · by_cases third : place - 16 - 16 < 16
      · have back : 32 + (place - 16 - 16) = place := by omega
        simp [first, second, third, back]
      · have fourth : place - 16 - 16 - 16 < 16 := by omega
        have back : 48 + (place - 16 - 16 - 16) = place := by omega
        simp [first, second, third, fourth, back]

/-- The two halves of an address. -/
theorem halves_append (target : Word) :
    target.extractLsb' 32 32 ++ target.extractLsb' 0 32 = target := by
  apply BitVec.eq_of_getLsbD_eq
  intro place below
  rw [BitVec.getLsbD_append, BitVec.getLsbD_extractLsb', BitVec.getLsbD_extractLsb']
  by_cases low : place < 32
  · simp [low]
  · have high : place - 32 < 32 := by omega
    have back : 32 + (place - 32) = place := by omega
    simp [low, high, back]

section Pass

variable (manager : LabelManager) (runtimeManager : RuntimeManager)

/-- A round of the loop fails when the entry has no target. -/
theorem relocate_undefined {instruction : RelocatedInstruction}
    (needs : needsRelocation instruction = true)
    (undefined : targetAddress manager runtimeManager instruction.targetLabel = none) :
    exists message, relocate manager runtimeManager instruction = .error message := by
  unfold relocate
  rw [if_pos needs, undefined]
  exact ⟨_, rfl⟩

/-- Otherwise it gives an entry with the same name and type, which is linked when the field can
represent the target. -/
theorem relocate_defined (instruction : RelocatedInstruction)
    (defined : needsRelocation instruction = true ->
      targetAddress manager runtimeManager instruction.targetLabel ≠ none) :
    exists relocated, relocate manager runtimeManager instruction = .ok relocated ∧
      relocated.relocation = instruction.relocation ∧
      relocated.targetLabel = instruction.targetLabel ∧
      relocated.address = instruction.address ∧
      (Links manager runtimeManager instruction relocated <->
        (needsRelocation instruction = true ->
          forall target, targetAddress manager runtimeManager instruction.targetLabel = some target ->
            Represents instruction.relocation instruction.address target)) := by
  by_cases needs : needsRelocation instruction = true
  · obtain ⟨target, resolved⟩ := Option.ne_none_iff_exists'.mp (defined needs)
    obtain ⟨encoding, patched, reads⟩ := patchedEncoding_spec instruction target
    unfold relocate Links
    simp only [if_pos needs, resolved, patched]
    refine ⟨_, rfl, rfl, rfl, rfl, ?_⟩
    constructor
    · rintro ⟨_, same, linked⟩ _ _ again
      cases same
      cases again
      exact reads.mp linked
    · intro fits
      exact ⟨target, rfl, reads.mpr (fits needs target rfl)⟩
  · unfold relocate Links
    rw [if_neg needs]
    refine ⟨instruction, rfl, rfl, rfl, rfl, ?_⟩
    rw [if_neg needs]
    exact iff_of_true rfl fun needed => absurd needed needs

/-! ## The loop -/

/-- The pass fails exactly when an entry has no target. -/
theorem performRelocations_undefined {instructions : List RelocatedInstruction}
    {instruction : RelocatedInstruction} (member : instruction ∈ instructions)
    (needs : needsRelocation instruction = true)
    (undefined : targetAddress manager runtimeManager instruction.targetLabel = none) :
    exists message, performRelocations manager runtimeManager instructions = .error message := by
  induction instructions with
  | nil => exact absurd member List.not_mem_nil
  | cons first rest hypothesis =>
      unfold performRelocations
      cases head : relocate manager runtimeManager first with
      | error message => exact ⟨message, rfl⟩
      | ok relocated =>
          rcases List.mem_cons.mp member with rfl | inRest
          · obtain ⟨message, fails⟩ := relocate_undefined manager runtimeManager needs undefined
            rw [head] at fails
            cases fails
          · obtain ⟨message, fails⟩ := hypothesis inRest
            rw [fails]
            exact ⟨message, rfl⟩

/-- Otherwise each entry gets its relocated one. -/
theorem performRelocations_defined (instructions : List RelocatedInstruction)
    (defined : forall instruction, instruction ∈ instructions ->
      needsRelocation instruction = true ->
        targetAddress manager runtimeManager instruction.targetLabel ≠ none) :
    exists results, performRelocations manager runtimeManager instructions = .ok results ∧
      List.Forall₂ (fun before after => relocate manager runtimeManager before = .ok after)
        instructions results := by
  induction instructions with
  | nil => exact ⟨[], rfl, List.Forall₂.nil⟩
  | cons first rest hypothesis =>
      obtain ⟨relocated, head, _⟩ :=
        relocate_defined manager runtimeManager first (defined first List.mem_cons_self)
      obtain ⟨others, runs, tail⟩ := hypothesis fun instruction member =>
        defined instruction (List.mem_cons_of_mem first member)
      refine ⟨relocated :: others, ?_, List.Forall₂.cons head tail⟩
      unfold performRelocations
      rw [head, runs]
      rfl

/-- The entries are linked when the fields can represent their targets. -/
theorem forall₂_links_iff {instructions results : List RelocatedInstruction}
    (defined : forall instruction, instruction ∈ instructions ->
      needsRelocation instruction = true ->
        targetAddress manager runtimeManager instruction.targetLabel ≠ none)
    (relocated : List.Forall₂
      (fun before after => relocate manager runtimeManager before = .ok after)
      instructions results) :
    List.Forall₂ (Links manager runtimeManager) instructions results <->
      forall instruction, instruction ∈ instructions -> needsRelocation instruction = true ->
        forall target, targetAddress manager runtimeManager instruction.targetLabel = some target ->
          Represents instruction.relocation instruction.address target := by
  induction relocated with
  | nil =>
      refine iff_of_true List.Forall₂.nil ?_
      intro instruction member
      exact absurd member List.not_mem_nil
  | @cons before after instructions results head _ hypothesis =>
      obtain ⟨_, same, _, _, _, link⟩ :=
        relocate_defined manager runtimeManager before (defined before List.mem_cons_self)
      cases head.symm.trans same
      have rest := hypothesis fun instruction member =>
        defined instruction (List.mem_cons_of_mem before member)
      rw [List.forall₂_cons, link, rest]
      constructor
      · rintro ⟨here, others⟩ instruction member
        rcases List.mem_cons.mp member with rfl | inRest
        · exact here
        · exact others instruction inRest
      · intro all
        exact ⟨all before List.mem_cons_self,
          fun instruction member => all instruction (List.mem_cons_of_mem before member)⟩

/-- What is read from an entry that comes from a list of linked ones. -/
theorem readsTarget_of_linked {instructions results : List RelocatedInstruction}
    (relocated : List.Forall₂
      (fun before after => relocate manager runtimeManager before = .ok after)
      instructions results)
    (linked : List.Forall₂ (Links manager runtimeManager) instructions results)
    {after : RelocatedInstruction} (member : after ∈ results) {labelName : String}
    (named : labelName ≠ "") (labelled : after.targetLabel = labelName)
    (typed : after.relocation ≠ .none) {target : Word}
    (resolved : targetAddress manager runtimeManager labelName = some target) :
    exists before : RelocatedInstruction, before.relocation = after.relocation ∧
      before.address = after.address ∧ ReadsTarget before target after.encoding := by
  induction relocated with
  | nil => exact absurd member List.not_mem_nil
  | @cons before first instructions results head _ hypothesis =>
      cases linked with
      | cons link links =>
          rcases List.mem_cons.mp member with rfl | inRest
          · have defined : needsRelocation before = true ->
                targetAddress manager runtimeManager before.targetLabel ≠ none := by
              intro needs undefined
              obtain ⟨message, fails⟩ := relocate_undefined manager runtimeManager needs undefined
              rw [head] at fails
              cases fails
            obtain ⟨_, same, type, label, address, _⟩ :=
              relocate_defined manager runtimeManager before defined
            cases head.symm.trans same
            have needs : needsRelocation before = true := by
              unfold needsRelocation
              rw [← type, ← label, labelled, bne_iff_ne.mpr typed, bne_iff_ne.mpr named]
              rfl
            unfold Links at link
            rw [if_pos needs, ← label, labelled, resolved] at link
            obtain ⟨_, found, reads⟩ := link
            cases found
            exact ⟨before, type.symm, address.symm, reads⟩
          · exact hypothesis links inRest

/-- Linked entries compute the address of their label together. -/
theorem groupsCompute_of_linked {instructions results : List RelocatedInstruction}
    (relocated : List.Forall₂
      (fun before after => relocate manager runtimeManager before = .ok after)
      instructions results)
    (linked : List.Forall₂ (Links manager runtimeManager) instructions results) :
    GroupsCompute manager runtimeManager results := by
  have reads := @readsTarget_of_linked manager runtimeManager instructions results relocated linked
  constructor
  · intro labelName target adrp add named resolved inAdrp adrpLabel adrpType inAdd addLabel addType
    obtain ⟨page, pageType, place, pageReads⟩ := reads inAdrp named adrpLabel
      (by rw [adrpType]; exact RelocationType.noConfusion) resolved
    obtain ⟨low, lowType, _, lowReads⟩ := reads inAdd named addLabel
      (by rw [addType]; exact RelocationType.noConfusion) resolved
    unfold ReadsTarget at pageReads lowReads
    rw [pageType, adrpType] at pageReads
    rw [lowType, addType] at lowReads
    rw [← place, pageReads.1, lowReads.1]
    exact page_add_pageOffset target
  · intro labelName target first second third fourth named resolved inFirst firstLabel firstType
      inSecond secondLabel secondType inThird thirdLabel thirdType inFourth fourthLabel fourthType
    obtain ⟨_, type0, _, reads0⟩ := reads inFirst named firstLabel
      (by rw [firstType]; exact RelocationType.noConfusion) resolved
    obtain ⟨_, type16, _, reads16⟩ := reads inSecond named secondLabel
      (by rw [secondType]; exact RelocationType.noConfusion) resolved
    obtain ⟨_, type32, _, reads32⟩ := reads inThird named thirdLabel
      (by rw [thirdType]; exact RelocationType.noConfusion) resolved
    obtain ⟨_, type48, _, reads48⟩ := reads inFourth named fourthLabel
      (by rw [fourthType]; exact RelocationType.noConfusion) resolved
    unfold ReadsTarget at reads0 reads16 reads32 reads48
    rw [type0, firstType] at reads0
    rw [type16, secondType] at reads16
    rw [type32, thirdType] at reads32
    rw [type48, fourthType] at reads48
    rw [reads0.1, reads16.1, reads32.1, reads48.1]
    exact slices_append target
  · intro labelName target low high named resolved inLow lowLabel lowType inHigh highLabel highType
    obtain ⟨_, typeLow, _, readsLow⟩ := reads inLow named lowLabel
      (by rw [lowType]; exact RelocationType.noConfusion) resolved
    obtain ⟨_, typeHigh, _, readsHigh⟩ := reads inHigh named highLabel
      (by rw [highType]; exact RelocationType.noConfusion) resolved
    unfold ReadsTarget at readsLow readsHigh
    rw [typeLow, lowType] at readsLow
    rw [typeHigh, highType] at readsHigh
    rw [readsLow, readsHigh]
    exact halves_append target

/-- The pass links what it patches, or rejects it, exactly when some entry has no target or the
fields can represent all targets. -/
theorem linksAll_iff (instructions : List RelocatedInstruction) :
    LinksAll manager runtimeManager instructions <->
      TargetsFit manager runtimeManager instructions := by
  by_cases undefined : exists instruction, instruction ∈ instructions ∧
      needsRelocation instruction = true ∧
        targetAddress manager runtimeManager instruction.targetLabel = none
  · refine iff_of_true ?_ (Or.inl undefined)
    obtain ⟨instruction, member, needs, missing⟩ := undefined
    obtain ⟨message, fails⟩ :=
      performRelocations_undefined manager runtimeManager member needs missing
    unfold LinksAll
    rw [fails]
    refine ⟨instruction, member, needs, ?_⟩
    intro target found
    rw [missing] at found
    cases found
  · have defined : forall instruction, instruction ∈ instructions ->
        needsRelocation instruction = true ->
          targetAddress manager runtimeManager instruction.targetLabel ≠ none :=
      fun instruction member needs missing => undefined ⟨instruction, member, needs, missing⟩
    obtain ⟨results, runs, relocated⟩ :=
      performRelocations_defined manager runtimeManager instructions defined
    have fits := forall₂_links_iff manager runtimeManager defined relocated
    unfold LinksAll TargetsFit
    rw [runs, or_iff_right undefined, ← fits]
    constructor
    · exact fun linked => linked.1
    · exact fun linked =>
        ⟨linked, groupsCompute_of_linked manager runtimeManager relocated linked⟩

end Pass

/-- A branch of 128 MiB: its offset is cut to the most negative one. -/
theorem farBranch_truncated :
    ¬ forall manager runtimeManager instructions,
      LinksAll manager runtimeManager instructions := by
  intro links
  have far := links (fun _ => some 0x8000000#64) (fun _ => none)
    [{ encoding := 0x14000000#32
       address := 0#64
       relocation := .pcRelative26BitOffset
       targetLabel := "L" }]
  obtain ⟨linked, _⟩ := far
  cases linked with
  | cons link _ =>
      obtain ⟨target, found, reads, _⟩ := link
      cases found
      exact absurd reads (by decide)

end Linking
end NewBcpl
