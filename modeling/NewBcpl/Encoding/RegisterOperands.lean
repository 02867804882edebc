import NewBcpl.Encoding.DecodedWords

namespace NewBcpl
namespace Encoding

open Peephole (RegisterName parseRegister parseComparedRegister registerNumber)

/-!
# Register 31

The encoders of moves and of arithmetic with an immediate take the names of the zero register
and of the stack pointer alike. A word does what its text says when no name stands where the
instruction means the other register.
-/

/-- The name is one of the zero register. -/
def namesZero (name : RegisterName) : Bool :=
  name = .xzr ∨ name = .wzr ∨ name = .x 31 ∨ name = .w 31

/-- The name is one of the stack pointer. -/
def namesStackPointer (name : RegisterName) : Bool := name = .sp ∨ name = .wsp

/-- The number of a name gives its register back, except where 31 means the other one. -/
structure ReadsAs (name : RegisterName) (number : Fin 32) (wide : Bool) (reg : Reg) : Prop where
  named : registerOf name = some (reg, wide)
  orZero : Reg.orZero (BitVec.ofNat 5 number.val) = reg <-> namesStackPointer name = false
  orStackPointer : Reg.orStackPointer (BitVec.ofNat 5 number.val) = reg <-> namesZero name = false
  pointer : reg = .stackPointer <-> namesStackPointer name = true
  zero : reg = .zero <-> namesZero name = true

/-- A number below 31 is a general register. -/
theorem reg_of_lt {number : Nat} (below : number < 31) :
    Reg.orZero (BitVec.ofNat 5 number) = .general ⟨number, below⟩ ∧
      Reg.orStackPointer (BitVec.ofNat 5 number) = .general ⟨number, below⟩ := by
  have value : (BitVec.ofNat 5 number).toNat = number := by
    rw [BitVec.toNat_ofNat]
    exact Nat.mod_eq_of_lt (by omega)
  constructor
  · unfold Reg.orZero
    rw [dif_pos (value.trans_lt below)]
    congr
  · unfold Reg.orStackPointer
    rw [dif_pos (value.trans_lt below)]
    congr

/-- A numbered register is read as itself, or as the zero register. -/
theorem numbered_eq (number : Fin 32) :
    exists reg, registerOf.numbered number.val = some reg ∧
      Reg.orZero (BitVec.ofNat 5 number.val) = reg ∧
      (Reg.orStackPointer (BitVec.ofNat 5 number.val) = reg <-> number.val ≠ 31) ∧
      reg ≠ .stackPointer ∧ (reg = .zero <-> number.val = 31) := by
  unfold registerOf.numbered
  by_cases below : number.val < 31
  · rw [dif_pos below]
    exact ⟨_, rfl, (reg_of_lt below).1, iff_of_true (reg_of_lt below).2 below.ne,
      Reg.noConfusion, iff_of_false Reg.noConfusion below.ne⟩
  · have last : number.val = 31 := by omega
    rw [dif_neg below, if_pos last, last]
    exact ⟨_, rfl, by decide, by decide, by decide, by decide⟩

/-- What the parser gives for a name is read as the register of the name. -/
theorem readsAs_of_parse {name : RegisterName} {number : Fin 32} {wide : Bool}
    (parsed : parseRegister name = some (number, wide)) :
    exists reg, ReadsAs name number wide reg := by
  have numbered : forall (value : Nat) (is64bit : Bool),
      (registerNumber value).map (fun number => (number, is64bit)) = some (number, wide) ->
        value = number.val ∧ is64bit = wide := by
    intro value is64bit mapped
    unfold registerNumber at mapped
    split at mapped
    · cases mapped
      exact ⟨rfl, rfl⟩
    · cases mapped
  cases name with
  | x value =>
      obtain ⟨rfl, rfl⟩ := numbered value true parsed
      obtain ⟨reg, named, zero, pointer, general, last⟩ := numbered_eq number
      refine ⟨reg, ?_, iff_of_true zero (by simp [namesStackPointer]), ?_,
        iff_of_false general (by simp [namesStackPointer]), ?_⟩
      · simp only [registerOf, named, Option.map_some]
      · rw [pointer]
        simp [namesZero]
      · rw [last]
        simp [namesZero]
  | w value =>
      obtain ⟨rfl, rfl⟩ := numbered value false parsed
      obtain ⟨reg, named, zero, pointer, general, last⟩ := numbered_eq number
      refine ⟨reg, ?_, iff_of_true zero (by simp [namesStackPointer]), ?_,
        iff_of_false general (by simp [namesStackPointer]), ?_⟩
      · simp only [registerOf, named, Option.map_some]
      · rw [pointer]
        simp [namesZero]
      · rw [last]
        simp [namesZero]
  | xzr =>
      cases parsed
      exact ⟨.zero, rfl, by decide, by decide, by decide, by decide⟩
  | wzr =>
      cases parsed
      exact ⟨.zero, rfl, by decide, by decide, by decide, by decide⟩
  | sp =>
      cases parsed
      exact ⟨.stackPointer, rfl, by decide, by decide, by decide, by decide⟩
  | wsp =>
      cases parsed
      exact ⟨.stackPointer, rfl, by decide, by decide, by decide, by decide⟩
  | d _ => cases parsed
  | v _ => cases parsed

/-- Two names of registers of one size. -/
theorem sameSize_of_readsAs {first second : RegisterName} {firstNum secondNum : Fin 32}
    {wide : Bool} {firstReg secondReg : Reg} (reads : ReadsAs first firstNum wide firstReg)
    (others : ReadsAs second secondNum wide secondReg) :
    Assembly.sameSize first second = some (wide, firstReg, secondReg) := by
  unfold Assembly.sameSize
  simp only [reads.named, others.named, Option.bind_eq_bind, Option.bind_some, if_true]

/-! ## What the encoders accept -/

theorem createAddImm_eq_some {xd xn : RegisterName} {immediate : Int} {encoded : Encoded}
    (made : createAddImm xd xn immediate = some encoded) :
    exists rdNum rnNum wide, 0 <= immediate ∧ immediate <= 4095 ∧
      parseRegister xd = some (rdNum, wide) ∧ parseRegister xn = some (rnNum, wide) ∧
      encoded.encoding = arithmeticWord 0x11000000#32 wide immediate rnNum rdNum ∧
      encoded.assembly = .add xd xn immediate := by
  unfold createAddImm at made
  split at made
  · cases made
  · rename_i range
    simp only [Option.bind_eq_bind, Option.bind_eq_some_iff] at made
    obtain ⟨⟨rdNum, wide⟩, parsedRd, ⟨rnNum, rnWide⟩, parsedRn, made⟩ := made
    split at made
    · cases made
    · rename_i sizes
      cases made
      have same : wide = rnWide := not_not.mp sizes
      subst same
      exact ⟨rdNum, rnNum, wide, by omega, by omega, parsedRd, parsedRn, addWord_eq _ _ _ _, rfl⟩

theorem createSubImm_eq_some {xd xn : RegisterName} {immediate : Int} {encoded : Encoded}
    (made : createSubImm xd xn immediate = some encoded) :
    exists rdNum rnNum wide, 0 <= immediate ∧ immediate <= 4095 ∧
      parseRegister xd = some (rdNum, wide) ∧ parseRegister xn = some (rnNum, wide) ∧
      encoded.encoding = arithmeticWord 0x51000000#32 wide immediate rnNum rdNum ∧
      encoded.assembly = .sub xd xn immediate := by
  unfold createSubImm at made
  split at made
  · cases made
  · rename_i range
    simp only [Option.bind_eq_bind, Option.bind_eq_some_iff] at made
    obtain ⟨⟨rdNum, wide⟩, parsedRd, ⟨rnNum, rnWide⟩, parsedRn, made⟩ := made
    split at made
    · cases made
    · rename_i sizes
      cases made
      have same : wide = rnWide := not_not.mp sizes
      subst same
      exact ⟨rdNum, rnNum, wide, by omega, by omega, parsedRd, parsedRn, rfl, rfl⟩

theorem createMovReg_eq_some {xd xn : RegisterName} {encoded : Encoded}
    (made : createMovReg xd xn = some encoded) :
    exists rdNum rnNum wide, parseRegister xd = some (rdNum, wide) ∧
      parseRegister xn = some (rnNum, wide) ∧ encoded.encoding = moveWord wide rdNum rnNum ∧
      encoded.assembly = .mov xd xn := by
  simp only [createMovReg, Option.bind_eq_bind, Option.bind_eq_some_iff] at made
  obtain ⟨⟨rdNum, wide⟩, parsedRd, ⟨rnNum, rnWide⟩, parsedRn, made⟩ := made
  split at made
  · cases made
  · rename_i sizes
    cases made
    have same : wide = rnWide := not_not.mp sizes
    subst same
    exact ⟨rdNum, rnNum, wide, parsedRd, parsedRn, rfl, rfl⟩

theorem createCmpImm_eq_some {xn : RegisterName} {immediate : Int} {encoded : Encoded}
    (made : createCmpImm xn immediate = some encoded) :
    exists rnNum wide, 0 <= immediate ∧ immediate <= 4095 ∧
      parseRegister xn = some (rnNum, wide) ∧
      encoded.encoding = arithmeticWord 0x71000000#32 wide immediate rnNum 31 ∧
      encoded.assembly = .cmp xn immediate := by
  unfold createCmpImm at made
  split at made
  · cases made
  · rename_i range
    simp only [Option.bind_eq_bind, Option.bind_eq_some_iff] at made
    obtain ⟨⟨rnNum, wide⟩, compared, made⟩ := made
    cases made
    have parsed : parseRegister xn = some (rnNum, wide) := by
      unfold parseComparedRegister at compared
      split at compared
      · cases compared
      · cases compared
      · exact compared
    exact ⟨rnNum, wide, by omega, by omega, parsed, rfl, rfl⟩

/-! ## Where the words are right -/

/-- The calls of the encoders with registers and an immediate. -/
inductive RegisterCall where
  | addImm (xd xn : RegisterName) (immediate : Int)
  | subImm (xd xn : RegisterName) (immediate : Int)
  | movReg (xd xn : RegisterName)
  | cmpImm (xn : RegisterName) (immediate : Int)
  deriving DecidableEq, Repr

namespace RegisterCall

/-- What a call gives. -/
def encode : RegisterCall -> Option Encoded
  | addImm xd xn immediate => createAddImm xd xn immediate
  | subImm xd xn immediate => createSubImm xd xn immediate
  | movReg xd xn => createMovReg xd xn
  | cmpImm xn immediate => createCmpImm xn immediate

/-- No operand of arithmetic with an immediate names the zero register, and none of a move the
stack pointer. -/
def FitsForm : RegisterCall -> Prop
  | addImm xd xn _ | subImm xd xn _ => namesZero xd = false ∧ namesZero xn = false
  | movReg xd xn => namesStackPointer xd = false ∧ namesStackPointer xn = false
  | cmpImm xn _ => namesZero xn = false

end RegisterCall

/-- A word does what its text says when the two operations are the same. -/
theorem Encoded.faithful_iff {encoded : Encoded} {denoted decoded : Operation}
    (denotes : encoded.assembly.denotes = some denoted)
    (decodes : decode encoded.encoding = some decoded) :
    encoded.Faithful <-> decoded = denoted := by
  unfold Encoded.Faithful
  rw [denotes, decodes]
  constructor
  · rintro ⟨operation, first, second⟩
    exact (Option.some.inj second).trans (Option.some.inj first).symm
  · rintro rfl
    exact ⟨_, rfl, rfl⟩

/-- A word does what its text says exactly when no operand names the other register 31. -/
theorem faithful_iff_fitsForm (call : RegisterCall) {encoded : Encoded}
    (accepted : call.encode = some encoded) : encoded.Faithful <-> call.FitsForm := by
  cases call with
  | addImm xd xn immediate =>
      obtain ⟨rdNum, rnNum, wide, positive, small, parsedRd, parsedRn, word, text⟩ :=
        createAddImm_eq_some accepted
      obtain ⟨target, readsTarget⟩ := readsAs_of_parse parsedRd
      obtain ⟨source, readsSource⟩ := readsAs_of_parse parsedRn
      have denotes : encoded.assembly.denotes = some (.add false wide target source immediate) := by
        simp only [text, Assembly.denotes, sameSize_of_readsAs readsTarget readsSource,
          Option.bind_eq_bind, Option.bind_some]
      have decodes : decode encoded.encoding =
          some (.add false wide (.orStackPointer (BitVec.ofNat 5 rdNum.val))
            (.orStackPointer (BitVec.ofNat 5 rnNum.val)) immediate) := by
        rw [word]
        exact decode_arithmeticWord (by decide) (by decide) (by decide) wide positive small
          rnNum rdNum
      rw [Encoded.faithful_iff denotes decodes]
      refine Iff.trans ?_ (and_congr readsTarget.orStackPointer readsSource.orStackPointer)
      simp only [Operation.add.injEq, true_and, and_true]
  | subImm xd xn immediate =>
      obtain ⟨rdNum, rnNum, wide, positive, small, parsedRd, parsedRn, word, text⟩ :=
        createSubImm_eq_some accepted
      obtain ⟨target, readsTarget⟩ := readsAs_of_parse parsedRd
      obtain ⟨source, readsSource⟩ := readsAs_of_parse parsedRn
      have denotes : encoded.assembly.denotes = some (.sub false wide target source immediate) := by
        simp only [text, Assembly.denotes, sameSize_of_readsAs readsTarget readsSource,
          Option.bind_eq_bind, Option.bind_some]
      have decodes : decode encoded.encoding =
          some (.sub false wide (.orStackPointer (BitVec.ofNat 5 rdNum.val))
            (.orStackPointer (BitVec.ofNat 5 rnNum.val)) immediate) := by
        rw [word]
        exact decode_arithmeticWord (by decide) (by decide) (by decide) wide positive small
          rnNum rdNum
      rw [Encoded.faithful_iff denotes decodes]
      refine Iff.trans ?_ (and_congr readsTarget.orStackPointer readsSource.orStackPointer)
      simp only [Operation.sub.injEq, true_and, and_true]
  | movReg xd xn =>
      obtain ⟨rdNum, rnNum, wide, parsedRd, parsedRn, word, text⟩ := createMovReg_eq_some accepted
      obtain ⟨target, readsTarget⟩ := readsAs_of_parse parsedRd
      obtain ⟨source, readsSource⟩ := readsAs_of_parse parsedRn
      have decodes := decode_moveWord wide rdNum rnNum
      rw [← word] at decodes
      change encoded.Faithful <->
        namesStackPointer xd = false ∧ namesStackPointer xn = false
      by_cases pointer : target = .stackPointer ∨ source = .stackPointer
      · have denotes : encoded.assembly.denotes = some (.add false wide target source 0) := by
          simp only [text, Assembly.denotes, sameSize_of_readsAs readsTarget readsSource,
            Option.bind_eq_bind, Option.bind_some, if_pos pointer]
        rw [Encoded.faithful_iff denotes decodes]
        apply iff_of_false Operation.noConfusion
        rintro ⟨notTarget, notSource⟩
        rw [readsTarget.pointer, readsSource.pointer, notTarget, notSource] at pointer
        simp at pointer
      · have denotes : encoded.assembly.denotes = some (.orr wide target .zero source) := by
          simp only [text, Assembly.denotes, sameSize_of_readsAs readsTarget readsSource,
            Option.bind_eq_bind, Option.bind_some, if_neg pointer]
        rw [Encoded.faithful_iff denotes decodes]
        refine Iff.trans ?_ (and_congr readsTarget.orZero readsSource.orZero)
        simp only [Operation.orr.injEq, true_and]
  | cmpImm xn immediate =>
      obtain ⟨rnNum, wide, positive, small, parsedRn, word, text⟩ := createCmpImm_eq_some accepted
      obtain ⟨source, readsSource⟩ := readsAs_of_parse parsedRn
      have denotes : encoded.assembly.denotes = some (.sub true wide .zero source immediate) := by
        simp only [text, Assembly.denotes, readsSource.named, Option.bind_eq_bind, Option.bind_some]
      have decodes : decode encoded.encoding =
          some (.sub true wide .zero (.orStackPointer (BitVec.ofNat 5 rnNum.val)) immediate) := by
        rw [word]
        exact decode_arithmeticWord (by decide) (by decide) (by decide) wide positive small
          rnNum 31
      rw [Encoded.faithful_iff denotes decodes]
      refine Iff.trans ?_ readsSource.orStackPointer
      simp only [Operation.sub.injEq, true_and, and_true]

/-- The condition at a subtraction from the stack pointer. -/
theorem subFromStackPointer_faithful :
    exists encoded, createSubImm .sp .sp 16 = some encoded ∧
      (encoded.Faithful <-> (RegisterCall.subImm .sp .sp 16).FitsForm) :=
  ⟨_, rfl, faithful_iff_fitsForm (.subImm .sp .sp 16) rfl⟩

/-- A move of the stack pointer moves the zero register. -/
theorem moveOfStackPointer_misencoded :
    ¬ forall (call : RegisterCall) (encoded : Encoded),
      call.encode = some encoded -> encoded.Faithful := by
  intro faithful
  obtain ⟨operation, denotes, decodes⟩ := faithful (.movReg (.x 0) .sp) _ rfl
  have denoted : operation = .add false true (.general 0) .stackPointer 0 :=
    Option.some.inj (denotes.symm.trans rfl)
  have decoded : decode (moveWord true 0 31) = some (.orr true (.general 0) .zero .zero) := by
    decide
  rw [denoted] at decodes
  exact Operation.noConfusion (Option.some.inj (decoded.symm.trans decodes))

end Encoding
end NewBcpl
