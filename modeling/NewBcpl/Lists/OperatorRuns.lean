import NewBcpl.Lists.ListOperators

namespace NewBcpl
namespace Lists

open Foundations Arm64

/-!
# What the list operators compute

HD and REST only use the head pointer, which both headers have at the same
offset. LEN reads the length of a literal and the tail pointer of a list of the
runtime. TL moves the head pointer, leaves the length as it is, and takes the
length of a runtime list for its tail pointer.
-/

/-- The operators. -/
inductive ListOperator where
  | hd | tl | rest | len
  deriving DecidableEq, Repr

/-- A list, the machine that holds it, and what the code generator and the runtime have
chosen. -/
structure OperatorSetting where
  layout : Layout
  nodes : List Word
  header : Word
  machine : Machine
  operand : OperandType
  registers : OperatorRegisters
  labels : OperatorLabels
  globals : FreeListGlobals
  clobbered : Machine -> Machine
  others : Callees
  isList : ListAt layout machine.memory header nodes
  placed : Placed globals header nodes
  inRegister : machine.read (.x registers.operand) = header
  isHeader : operand ≠ .listNode
  bounded : nodes.length < 2 ^ 64

namespace OperatorSetting

/-- The end of the run of some code. -/
def ends (setting : OperatorSetting) (code : Code) (after : Machine) : Prop :=
  runCode (runtimeCallees setting.globals setting.clobbered setting.others) code
    (.running setting.machine) = .running after

/-- What an element is used as: a string starts behind its length. -/
def elementValue (operand : OperandType) (stored : Word) : Word :=
  match operand with
  | .list .string _ => stored + 8#64
  | _ => stored

/-- The head value; an empty list has the value zero. -/
def headValue (setting : OperatorSetting) : Word :=
  match setting.nodes with
  | [] => 0#64
  | node :: _ =>
      elementValue setting.operand (field setting.machine.memory node valueOffset)

/-- The second node, or null. -/
def secondNode (setting : OperatorSetting) : Word :=
  setting.nodes.tail.head?.getD 0#64

/-- What the operator is to do. -/
def Sound (setting : OperatorSetting) : ListOperator -> Prop
  | .hd => exists after,
      setting.ends (headOf setting.registers setting.labels setting.operand) after ∧
        after.read (.x setting.registers.first) = setting.headValue ∧
        after.memory = setting.machine.memory
  | .rest => exists after,
      setting.ends (restOf setting.registers setting.labels setting.operand) after ∧
        after.read (.x setting.registers.first) = setting.secondNode ∧
        after.memory = setting.machine.memory
  | .len => exists code after, lengthOf setting.registers setting.operand = some code ∧
      setting.ends code after ∧
        after.read (.x setting.registers.first) = BitVec.ofNat 64 setting.nodes.length ∧
        after.memory = setting.machine.memory
  | .tl => exists after,
      setting.ends (tailOf setting.registers setting.labels) after ∧
        after.read (.x setting.registers.operand) = setting.header ∧
        ListAt setting.layout after.memory setting.header setting.nodes.tail

/-- When it does. -/
def Fits (setting : OperatorSetting) : ListOperator -> Prop
  | .hd | .rest => True
  | .len => (exists kind isConst, setting.operand = .list kind isConst ∧ kind ≠ .string) ∧
      (setting.layout = .literal ∨
        lastNode setting.nodes = BitVec.ofNat 64 setting.nodes.length)
  | .tl => setting.nodes = []

end OperatorSetting

section Selection

theorem runCode_operation (callees : Callees) (instruction : Instruction) (rest : Code)
    (machine : Machine) :
    runCode callees (.operation instruction :: rest) (.running machine) =
      runCode callees rest (.running (perform callees instruction machine)) := rfl

theorem runCode_nil (callees : Callees) (control : Control) :
    runCode callees [] control = control := rfl

theorem runCode_label (callees : Callees) (label : String) (rest : Code)
    (machine : Machine) :
    runCode callees (.label label :: rest) (.running machine) =
      runCode callees rest (.running machine) := rfl

/-- A branch goes by its condition. -/
theorem runCode_branchIf (callees : Callees) (condition : Condition) (label : String)
    (rest : Code) (machine : Machine) :
    runCode callees (.branchIf condition label :: rest) (.running machine) =
      runCode callees rest (if condition.holds machine.flags then .seeking machine label
        else .running machine) := by
  unfold runCode
  rw [LabelledCode.run_cons]
  cases holds : condition.holds machine.flags with
  | true =>
      rw [LabelledCode.step_branchIf_taken _ holds]
      rfl
  | false =>
      rw [LabelledCode.step_branchIf_passed _ holds]
      rfl

theorem execute_pair (callees : Callees) (first second : Instruction)
    (machine : Machine) :
    execute callees [first, second] machine =
      perform callees second (perform callees first machine) := rfl

theorem execute_single (callees : Callees) (instruction : Instruction)
    (machine : Machine) :
    execute callees [instruction] machine = perform callees instruction machine := rfl

/-- A comparison with zero and a branch to the second of two alternatives that end at
the same label. -/
theorem runCode_alternative (callees : Callees) (machine : Machine) {register : Register}
    (labels : OperatorLabels) (loads : List Instruction) (cleared : Instruction) :
    runCode callees ([.operation (.cmpImm register 0), .branchIf .eq labels.other] ++
        LabelledCode.operations loads ++
        [.branch labels.ending, .label labels.other, .operation cleared,
          .label labels.ending]) (.running machine) =
      .running (if machine.read register = 0#64 then
          perform callees cleared
            (machine.setFlags (compareFlags (machine.read register) 0#64))
        else execute callees loads
          (machine.setFlags (compareFlags (machine.read register) 0#64))) := by
  unfold runCode
  rw [List.append_assoc, LabelledCode.run_append, LabelledCode.run_append]
  simp only [LabelledCode.run_cons, LabelledCode.run_nil, LabelledCode.step_operation]
  change LabelledCode.step _ (LabelledCode.step _ (LabelledCode.step _ (LabelledCode.step _
    (LabelledCode.run _ _ (LabelledCode.step _ (.running
      (machine.setFlags (compareFlags (machine.read register) 0#64))) _)) _) _) _) _ = _
  have tested : Condition.eq.holds
      (machine.setFlags (compareFlags (machine.read register) 0#64)).flags =
        (machine.read register == 0#64) := by
    rw [Machine.flags_setFlags, eq_holds]
  by_cases isZero : machine.read register = 0#64
  · rw [if_pos isZero]
    rw [LabelledCode.step_branchIf_taken]
    · rw [LabelledCode.run_seeking]
      · rw [LabelledCode.step_seeking_branch, LabelledCode.step_label_found, LabelledCode.step_operation,
          LabelledCode.step_label_running]
        rfl
      · rw [LabelledCode.definedLabels_operations]
        exact List.not_mem_nil
    · refine tested.trans ?_
      rw [isZero]
      rfl
  · rw [if_neg isZero]
    rw [LabelledCode.step_branchIf_passed]
    · rw [LabelledCode.run_operations, LabelledCode.step_branch,
        LabelledCode.step_seeking_label _ labels.distinct, LabelledCode.step_seeking_operation,
        LabelledCode.step_label_found]
      rfl
    · refine tested.trans ?_
      exact beq_false_of_ne isZero

end Selection

section Loads

variable (registers : OperatorRegisters)

theorem OperatorRegisters.apart : registers.operand ≠ registers.first ∧
    registers.operand ≠ registers.second ∧ registers.operand ≠ registers.third ∧
    registers.first ≠ registers.second ∧ registers.first ≠ registers.third ∧
    registers.second ≠ registers.third := by
  have distinct := registers.distinct
  simp only [List.nodup_cons, List.mem_cons, List.not_mem_nil, not_or, not_false_eq_true,
    List.nodup_nil, and_true] at distinct
  exact ⟨distinct.1.1, distinct.1.2.1, distinct.1.2.2, distinct.2.1.1, distinct.2.1.2,
    distinct.2.2⟩

/-- The register of a different number is a different register. -/
theorem register_ne {first second : Fin 31} (different : first ≠ second) :
    Register.x first ≠ Register.x second := by
  intro equal
  cases equal
  exact different rfl

variable (callees : Callees) (machine : Machine)

/-- What a load from a list record reads. -/
theorem load_field (dest base : Fin 31) (offset : Nat) :
    perform callees (.ldr (.x dest) (.x base) offset) machine =
      machine.write (.x dest) (field machine.memory (machine.read (.x base)) offset) := by
  have same : BitVec.ofInt 64 (offset : Int) = BitVec.ofNat 64 offset := BitVec.ofInt_natCast
    64 offset
  change machine.write (.x dest) (machine.load (machine.read (.x base) +
    BitVec.ofInt 64 offset)) = _
  rw [same]
  rfl

/-- What a store to a list record writes. -/
theorem store_field (source : Register) (base : Fin 31) (offset : Nat) :
    perform callees (.str source (.x base) offset) machine =
      machine.store (machine.read (.x base) + BitVec.ofNat 64 offset)
        (machine.read source) := by
  have same : BitVec.ofInt 64 (offset : Int) = BitVec.ofNat 64 offset := BitVec.ofInt_natCast
    64 offset
  change machine.store (machine.read (.x base) + BitVec.ofInt 64 offset)
    (machine.read source) = _
  rw [same]

theorem compare_registers (left right : Register) :
    perform callees (.cmp left right) machine =
      machine.setFlags (compareFlags (machine.read left) (machine.read right)) := rfl

theorem move_register (dest source : Register) :
    perform callees (.mov dest source) machine =
      machine.write dest (machine.read source) := rfl

theorem read_cleared (dest : Fin 31) :
    (perform callees (.mov (.x dest) .xzr) machine).read (.x dest) = 0#64 := by
  unfold perform
  rw [Machine.read_write_same]
  · rfl
  · exact Register.noConfusion

end Loads

namespace OperatorSetting

variable (setting : OperatorSetting)

/-- The machine after the load of the head pointer. -/
def headLoaded : Machine :=
  setting.machine.write (.x setting.registers.second)
    (field setting.machine.memory setting.header headOffset)

theorem headLoaded_eq (callees : Callees) :
    perform callees (.ldr (.x setting.registers.second) (.x setting.registers.operand) 16)
      setting.machine = setting.headLoaded := by
  have loads := load_field callees setting.machine setting.registers.second
    setting.registers.operand 16
  rw [setting.inRegister] at loads
  exact loads

theorem headLoaded_read : setting.headLoaded.read (.x setting.registers.second) =
    setting.nodes.head?.getD 0#64 := by
  unfold headLoaded
  rw [Machine.read_write_same]
  · exact chain_head setting.isList.chain
  · exact Register.noConfusion

/-- A load of the head pointer, and then the two alternatives of HD and REST. -/
theorem ends_alternative (loads : List Instruction) :
    setting.ends (.operation (.ldr (.x setting.registers.second)
        (.x setting.registers.operand) 16) ::
      ([.operation (.cmpImm (.x setting.registers.second) 0),
        .branchIf .eq setting.labels.other] ++ LabelledCode.operations loads ++
        [.branch setting.labels.ending, .label setting.labels.other,
          .operation (.mov (.x setting.registers.first) .xzr),
          .label setting.labels.ending]))
      (if setting.nodes = [] then
        perform (runtimeCallees setting.globals setting.clobbered setting.others)
          (.mov (.x setting.registers.first) .xzr)
          (setting.headLoaded.setFlags
            (compareFlags (setting.headLoaded.read (.x setting.registers.second)) 0#64))
      else execute (runtimeCallees setting.globals setting.clobbered setting.others) loads
        (setting.headLoaded.setFlags
          (compareFlags (setting.headLoaded.read (.x setting.registers.second)) 0#64))) := by
  unfold ends
  rw [runCode_operation, headLoaded_eq]
  refine (runCode_alternative _ setting.headLoaded setting.labels loads _).trans ?_
  have isNull : setting.headLoaded.read (.x setting.registers.second) = 0#64 <->
      setting.nodes = [] := by
    have loaded := setting.headLoaded_read
    rw [<- chain_head setting.isList.chain] at loaded
    rw [loaded]
    exact chain_eq_null setting.isList.chain
  by_cases empty : setting.nodes = []
  · rw [if_pos empty, if_pos (isNull.mpr empty)]
  · rw [if_neg empty, if_neg fun null => empty (isNull.mp null)]

theorem headOf_eq : exists adjustment,
    headOf setting.registers setting.labels setting.operand =
      .operation (.ldr (.x setting.registers.second) (.x setting.registers.operand) 16) ::
        ([.operation (.cmpImm (.x setting.registers.second) 0),
          .branchIf .eq setting.labels.other] ++
          LabelledCode.operations
            (.ldr (.x setting.registers.first) (.x setting.registers.second) 8 ::
              adjustment) ++
          [.branch setting.labels.ending, .label setting.labels.other,
            .operation (.mov (.x setting.registers.first) .xzr),
            .label setting.labels.ending]) ∧
      forall callees (machine : Machine) value,
        machine.read (.x setting.registers.first) = value ->
          (execute callees adjustment machine).read (.x setting.registers.first) =
              elementValue setting.operand value ∧
            (execute callees adjustment machine).memory = machine.memory := by
  have isHeader := setting.isHeader
  cases operand : setting.operand with
  | listNode => exact absurd operand isHeader
  | other => exact ⟨[], rfl, fun _ _ _ value => ⟨value, rfl⟩⟩
  | list kind isConst =>
      cases kind with
      | any => exact ⟨[], rfl, fun _ _ _ value => ⟨value, rfl⟩⟩
      | int => exact ⟨[], rfl, fun _ _ _ value => ⟨value, rfl⟩⟩
      | float => exact ⟨[], rfl, fun _ _ _ value => ⟨value, rfl⟩⟩
      | string =>
          refine ⟨[.addImm (.x setting.registers.first) (.x setting.registers.first) 8], rfl,
            ?_⟩
          intro callees machine value isValue
          change (Machine.write _ _ _).read _ = _ ∧ (Machine.write _ _ _).memory = _
          rw [Machine.read_write_same, isValue]
          · exact ⟨rfl, rfl⟩
          · exact Register.noConfusion

theorem headOf_sound : setting.Sound .hd := by
  rcases setting.headOf_eq with ⟨adjustment, code, adjusts⟩
  have run := setting.ends_alternative
    (.ldr (.x setting.registers.first) (.x setting.registers.second) 8 :: adjustment)
  rw [<- code] at run
  cases nodes : setting.nodes with
  | nil =>
      rw [if_pos nodes] at run
      refine ⟨_, run, ?_, rfl⟩
      rw [read_cleared]
      unfold headValue
      rw [nodes]
  | cons node rest =>
      rw [if_neg (by rw [nodes]; exact List.cons_ne_nil node rest)] at run
      have loaded := setting.headLoaded_read
      rw [nodes] at loaded
      let tested := setting.headLoaded.setFlags
        (compareFlags (setting.headLoaded.read (.x setting.registers.second)) 0#64)
      let callees := runtimeCallees setting.globals setting.clobbered setting.others
      have loads : perform callees
          (.ldr (.x setting.registers.first) (.x setting.registers.second) 8) tested = _ :=
        load_field callees tested setting.registers.first setting.registers.second 8
      have first := adjusts callees
        (perform callees (.ldr (.x setting.registers.first) (.x setting.registers.second) 8)
          tested) (field setting.machine.memory node valueOffset) (by
            rw [loads, Machine.read_write_same _ _ Register.noConfusion,
              Machine.read_setFlags, loaded]
            rfl)
      refine ⟨_, run, ?_, ?_⟩
      · refine first.1.trans ?_
        unfold headValue
        rw [nodes]
      · refine first.2.trans ?_
        rw [loads]
        rfl

theorem restOf_sound : setting.Sound .rest := by
  have isHeader := setting.isHeader
  have code : restOf setting.registers setting.labels setting.operand =
      .operation (.ldr (.x setting.registers.second) (.x setting.registers.operand) 16) ::
        ([.operation (.cmpImm (.x setting.registers.second) 0),
          .branchIf .eq setting.labels.other] ++
          LabelledCode.operations
            [.ldr (.x setting.registers.first) (.x setting.registers.second) 16] ++
          [.branch setting.labels.ending, .label setting.labels.other,
            .operation (.mov (.x setting.registers.first) .xzr),
            .label setting.labels.ending]) := by
    cases operand : setting.operand with
    | listNode => exact absurd operand isHeader
    | other => rfl
    | list kind isConst => rfl
  have run := setting.ends_alternative
    [.ldr (.x setting.registers.first) (.x setting.registers.second) 16]
  rw [<- code] at run
  cases nodes : setting.nodes with
  | nil =>
      rw [if_pos nodes] at run
      refine ⟨_, run, ?_, rfl⟩
      rw [read_cleared]
      unfold secondNode
      rw [nodes]
      rfl
  | cons node rest =>
      rw [if_neg (by rw [nodes]; exact List.cons_ne_nil node rest)] at run
      have loaded := setting.headLoaded_read
      rw [nodes] at loaded
      have chain := setting.isList.chain
      rw [nodes] at chain
      let tested := setting.headLoaded.setFlags
        (compareFlags (setting.headLoaded.read (.x setting.registers.second)) 0#64)
      let callees := runtimeCallees setting.globals setting.clobbered setting.others
      have loads : perform callees
          (.ldr (.x setting.registers.first) (.x setting.registers.second) 16) tested = _ :=
        load_field callees tested setting.registers.first setting.registers.second 16
      rw [execute_single, loads] at run
      refine ⟨_, run, ?_, rfl⟩
      rw [Machine.read_write_same _ _ Register.noConfusion, Machine.read_setFlags, loaded]
      unfold secondNode
      rw [nodes]
      exact chain_head chain.2.2

/-- LEN yields the field that a literal has its length in. -/
theorem lengthOf_sound_iff : setting.Sound .len <-> setting.Fits .len := by
  have loads : perform (runtimeCallees setting.globals setting.clobbered setting.others)
      (.ldr (.x setting.registers.first) (.x setting.registers.operand) 24)
      setting.machine = _ :=
    load_field _ setting.machine setting.registers.first setting.registers.operand 24
  rw [setting.inRegister] at loads
  have read : (setting.machine.write (.x setting.registers.first)
      (field setting.machine.memory setting.header 24)).read (.x setting.registers.first) =
        field setting.machine.memory setting.header 24 :=
    Machine.read_write_same _ _ Register.noConfusion
  have stored : field setting.machine.memory setting.header 24 =
      BitVec.ofNat 64 setting.nodes.length <->
      setting.layout = .literal ∨
        lastNode setting.nodes = BitVec.ofNat 64 setting.nodes.length := by
    have length := setting.isList.length
    have tail := setting.isList.tail
    cases layout : setting.layout with
    | literal =>
        rw [layout] at length
        exact iff_of_true length (Or.inl rfl)
    | heap =>
        rw [layout] at tail
        change field setting.machine.memory setting.header 24 = _ at tail
        rw [tail]
        constructor
        · exact Or.inr
        · rintro (literal | equal)
          · cases literal
          · exact equal
  constructor
  · rintro ⟨code, after, emits, runs, value, _⟩
    cases operand : setting.operand with
    | listNode => exact absurd operand setting.isHeader
    | other =>
        rw [operand] at emits
        cases emits
    | list kind isConst =>
        rw [operand] at emits
        have notString : kind ≠ .string := by
          rintro rfl
          cases emits
        have isLoad : code = [.operation (.ldr (.x setting.registers.first)
            (.x setting.registers.operand) 24)] := by
          cases kind with
          | string => exact absurd rfl notString
          | any => exact (Option.some.inj emits).symm
          | int => exact (Option.some.inj emits).symm
          | float => exact (Option.some.inj emits).symm
        rw [isLoad] at runs
        unfold ends at runs
        rw [runCode_operation, runCode_nil, loads] at runs
        have same := congrArg LabelledCode.Control.state runs
        refine ⟨⟨kind, isConst, operand, notString⟩, stored.mp ?_⟩
        rw [<- value, <- read]
        exact congrArg (fun machine => Machine.read machine _) same
  · rintro ⟨⟨kind, isConst, operand, notString⟩, fits⟩
    refine ⟨[.operation (.ldr (.x setting.registers.first)
      (.x setting.registers.operand) 24)], _, ?_, ?_, read.trans (stored.mpr fits), rfl⟩
    · rw [operand]
      cases kind with
      | string => exact absurd rfl notString
      | any => rfl
      | int => rfl
      | float => rfl
    · unfold ends
      rw [runCode_operation, runCode_nil, loads]

end OperatorSetting

section Stores

variable {memory : ByteMemory.Memory 64} {header : Word}

/-- A store elsewhere leaves a field alone. -/
theorem field_store {machine : Machine} {address value : Word} {offset : Nat}
    (apart : ByteMemory.Disjoint (header + BitVec.ofNat 64 offset) 8 address 8) :
    field (machine.store address value).memory header offset =
      field machine.memory header offset := by
  unfold field Machine.store
  rw [ByteMemory.read_write_disjoint _ _ (by decide) apart]

/-- A store to one field of a record leaves the others alone. -/
theorem field_store_other {machine : Machine} {value : Word} {offset other : Nat}
    (small : offset <= 32) (otherSmall : other <= 32)
    (ordered : offset + 8 <= other ∨ other + 8 <= offset) :
    field (machine.store (header + BitVec.ofNat 64 other) value).memory header offset =
      field machine.memory header offset := by
  apply field_store
  exact ByteMemory.disjoint_fields header (by omega) (by omega) ordered

/-- A field that was stored is read back. -/
theorem field_store_same {machine : Machine} {value : Word} (offset : Nat) :
    field (machine.store (header + BitVec.ofNat 64 offset) value).memory header offset =
      value := by
  unfold field Machine.store
  rw [ByteMemory.read_write_same _ _ _ (by decide)]
  have bound := value.isLt
  rw [Nat.mod_eq_of_lt (by omega), BitVec.ofNat_toNat, BitVec.setWidth_eq]

/-- The return of a node to the free list leaves the fields of a header alone. -/
theorem field_returnNode {globals : FreeListGlobals} {nodes : List Word}
    (placed : Placed globals header nodes) (clobbered : Machine -> Machine)
    {machine : Machine} (isNode : machine.read (.x 0) ∈ nodes) {offset : Nat}
    (inHeader : offset + 8 <= headerSize) :
    field (returnNodeToFreelist globals clobbered machine).memory header offset =
      field machine.memory header offset := by
  have small : offset + 8 <= 32 := inHeader
  have node := (placed.nodes _ isNode).parts (by decide) (by decide) inHeader
    (by decide : nextOffset + 8 <= atomSize)
  have head := placed.head.parts (by decide) (by decide) inHeader (by decide : 0 + 8 <= 8)
  have nodeCount := placed.nodeCount.parts (by decide) (by decide) inHeader
    (by decide : 0 + 8 <= 8)
  rw [BitVec.add_zero] at head nodeCount
  unfold returnNodeToFreelist
  dsimp only
  split
  · rfl
  · rw [field_store nodeCount, field_store head, field_store node]

end Stores

namespace OperatorSetting

variable (setting : OperatorSetting)

/-- TL of an empty list does nothing. -/
theorem tailOf_empty (empty : setting.nodes = []) : setting.Sound .tl := by
  have apart := setting.registers.apart
  have loads : perform (runtimeCallees setting.globals setting.clobbered setting.others)
      (.ldr (.x setting.registers.first) (.x setting.registers.operand) 16)
      setting.machine = _ :=
    load_field _ setting.machine setting.registers.first setting.registers.operand 16
  have null := chain_head setting.isList.chain
  rw [empty] at null
  let loaded := setting.machine.write (.x setting.registers.first)
    (field setting.machine.memory setting.header headOffset)
  have isNull : loaded.read (.x setting.registers.first) = 0#64 :=
    (Machine.read_write_same _ _ Register.noConfusion).trans null
  refine ⟨loaded.setFlags (compareFlags (loaded.read (.x setting.registers.first)) 0#64),
    ?_, ?_, ?_⟩
  · have taken : Condition.eq.holds (loaded.setFlags
        (compareFlags (loaded.read (.x setting.registers.first)) 0#64)).flags = true := by
      rw [Machine.flags_setFlags, eq_holds, isNull]
      rfl
    unfold ends tailOf
    rw [runCode_operation, loads, setting.inRegister, runCode_operation, runCode_branchIf]
    change runCode _ _ (if Condition.eq.holds (loaded.setFlags
      (compareFlags (loaded.read (.x setting.registers.first)) 0#64)).flags then _ else _) = _
    rw [if_pos taken]
    unfold runCode
    simp only [LabelledCode.run_cons, LabelledCode.run_nil,
      LabelledCode.step_seeking_operation, LabelledCode.step_seeking_branchIf]
    rw [LabelledCode.step_seeking_label _ setting.labels.distinct]
    simp only [LabelledCode.step_seeking_operation, LabelledCode.step_label_found]
    rfl
  · rw [Machine.read_setFlags, Machine.read_write_other _ _ (register_ne apart.1)]
    exact setting.inRegister
  · have isList := setting.isList
    rw [empty] at isList ⊢
    exact isList

section Unlinking

variable (node : Word)

/-- The machine after the test of the head pointer of a list with nodes. -/
def tested : Machine :=
  (setting.machine.write (.x setting.registers.first) node).setFlags
    (compareFlags node 0#64)

/-- The machine after the head pointer is moved. -/
def unlinked : Machine :=
  (setting.tested node |>.write (.x setting.registers.second)
    (field setting.machine.memory node nextOffset)).store
    (setting.header + BitVec.ofNat 64 headOffset)
    (field setting.machine.memory node nextOffset)

/-- What TL takes for the tail pointer. -/
def tailField : Word := field (setting.unlinked node).memory setting.header 8

/-- The machine after the comparison with it. -/
def compared : Machine :=
  ((setting.unlinked node).write (.x setting.registers.third)
    (setting.tailField node)).setFlags (compareFlags (setting.tailField node) node)

/-- The machine after the tail pointer is cleared or not. -/
def cleared : Machine :=
  if setting.tailField node = node then
    (setting.compared node).store (setting.header + BitVec.ofNat 64 8) 0#64
  else setting.compared node

/-- The machine at the call. -/
def moved : Machine := (setting.cleared node).write (.x 0) node

theorem tested_reads :
    (setting.tested node).read (.x setting.registers.first) = node ∧
      (setting.tested node).read (.x setting.registers.operand) = setting.header := by
  unfold tested
  rw [Machine.read_setFlags, Machine.read_setFlags,
    Machine.read_write_same _ _ Register.noConfusion,
    Machine.read_write_other _ _ (register_ne setting.registers.apart.1)]
  exact ⟨rfl, setting.inRegister⟩

theorem unlinked_reads :
    (setting.unlinked node).read (.x setting.registers.first) = node ∧
      (setting.unlinked node).read (.x setting.registers.operand) = setting.header := by
  have apart := setting.registers.apart
  unfold unlinked
  rw [Machine.read_store, Machine.read_store,
    Machine.read_write_other _ _ (register_ne apart.2.2.2.1),
    Machine.read_write_other _ _ (register_ne apart.2.1)]
  exact setting.tested_reads node

theorem compared_reads :
    (setting.compared node).read (.x setting.registers.first) = node ∧
      (setting.compared node).read (.x setting.registers.operand) = setting.header := by
  have apart := setting.registers.apart
  unfold compared
  rw [Machine.read_setFlags, Machine.read_setFlags,
    Machine.read_write_other _ _ (register_ne apart.2.2.2.2.1),
    Machine.read_write_other _ _ (register_ne apart.2.2.1)]
  exact setting.unlinked_reads node

theorem cleared_read : (setting.cleared node).read (.x setting.registers.first) = node := by
  unfold cleared
  split
  · rw [Machine.read_store]
    exact (setting.compared_reads node).1
  · exact (setting.compared_reads node).1

variable (callees : Callees)

theorem unlinks :
    execute callees [.ldr (.x setting.registers.second) (.x setting.registers.first) 16,
      .str (.x setting.registers.second) (.x setting.registers.operand) 16]
      (setting.tested node) = setting.unlinked node := by
  have apart := setting.registers.apart
  have before := setting.tested_reads node
  have loads : perform callees (.ldr (.x setting.registers.second)
      (.x setting.registers.first) 16) (setting.tested node) = _ :=
    load_field callees (setting.tested node) setting.registers.second
      setting.registers.first 16
  rw [before.1] at loads
  have stores (machine : Machine) : perform callees (.str (.x setting.registers.second)
      (.x setting.registers.operand) 16) machine = _ :=
    store_field callees machine (.x setting.registers.second) setting.registers.operand 16
  rw [execute_pair, loads, stores, Machine.read_write_same _ _ Register.noConfusion,
    Machine.read_write_other _ _ (register_ne apart.2.1), before.2]
  rfl

theorem compares :
    execute callees [.ldr (.x setting.registers.third) (.x setting.registers.operand) 8,
      .cmp (.x setting.registers.third) (.x setting.registers.first)]
      (setting.unlinked node) = setting.compared node := by
  have apart := setting.registers.apart
  have before := setting.unlinked_reads node
  have loads : perform callees (.ldr (.x setting.registers.third)
      (.x setting.registers.operand) 8) (setting.unlinked node) = _ :=
    load_field callees (setting.unlinked node) setting.registers.third
      setting.registers.operand 8
  rw [before.2] at loads
  rw [execute_pair, loads, compare_registers,
    Machine.read_write_same _ _ Register.noConfusion,
    Machine.read_write_other _ _ (register_ne apart.2.2.2.2.1), before.1]
  rfl

/-- The store that clears the tail pointer is skipped if the comparison differs. -/
theorem clears (rest : Code) :
    runCode callees (.branchIf .ne setting.labels.other ::
      .operation (.str .xzr (.x setting.registers.operand) 8) ::
        .label setting.labels.other :: rest) (.running (setting.compared node)) =
      runCode callees rest (.running (setting.cleared node)) := by
  have before := (setting.compared_reads node).2
  have differs : Condition.ne.holds (setting.compared node).flags =
      (setting.tailField node != node) := ne_holds (setting.tailField node) node
  rw [runCode_branchIf, differs]
  unfold cleared
  by_cases same : setting.tailField node = node
  · rw [if_pos same, same, bne_self_eq_false, if_neg Bool.false_ne_true, runCode_operation,
      runCode_label]
    have stores : perform callees (.str .xzr (.x setting.registers.operand) 8)
        (setting.compared node) = _ :=
      store_field callees (setting.compared node) .xzr setting.registers.operand 8
    rw [stores, before]
    rfl
  · rw [if_neg same, if_pos (bne_iff_ne.mpr same)]
    unfold runCode
    rw [LabelledCode.run_cons, LabelledCode.run_cons, LabelledCode.step_seeking_operation,
      LabelledCode.step_label_found]

/-- The run of TL on a list with nodes. -/
theorem tailOf_runs {rest : List Word} (nodes : setting.nodes = node :: rest) :
    setting.ends (tailOf setting.registers setting.labels)
      (returnNodeToFreelist setting.globals setting.clobbered (setting.moved node)) := by
  let callees := runtimeCallees setting.globals setting.clobbered setting.others
  have chain := setting.isList.chain
  rw [nodes] at chain
  have loads : perform callees (.ldr (.x setting.registers.first)
      (.x setting.registers.operand) 16) setting.machine = _ :=
    load_field _ setting.machine setting.registers.first setting.registers.operand 16
  have isFirst : field setting.machine.memory setting.header 16 = node := chain.1
  rw [setting.inRegister, isFirst] at loads
  have compares (machine : Machine) : perform callees
      (.cmpImm (.x setting.registers.first) 0) machine = machine.setFlags
        (compareFlags (machine.read (.x setting.registers.first)) 0#64) := rfl
  have tests : perform callees (.cmpImm (.x setting.registers.first) 0)
      (setting.machine.write (.x setting.registers.first) node) = setting.tested node := by
    rw [compares, Machine.read_write_same _ _ Register.noConfusion]
    rfl
  have notNull : Condition.eq.holds (setting.tested node).flags = false := by
    change Condition.eq.holds (compareFlags node 0#64) = false
    rw [eq_holds]
    exact beq_false_of_ne chain.2.1
  have moves : perform callees (.mov (.x 0) (.x setting.registers.first))
      (setting.cleared node) = setting.moved node := by
    rw [move_register, cleared_read]
    rfl
  have calls : perform callees (.call returnNodeName) (setting.moved node) =
      returnNodeToFreelist setting.globals setting.clobbered (setting.moved node) := rfl
  unfold ends tailOf
  rw [runCode_operation, loads, runCode_operation, tests, runCode_branchIf, notNull,
    if_neg Bool.false_ne_true, runCode_operation, runCode_operation,
    <- execute_pair callees, unlinks, runCode_operation, runCode_operation,
    <- execute_pair callees, setting.compares, clears, runCode_operation, moves,
    runCode_operation, calls, runCode_label, runCode_nil]

end Unlinking

/-- TL of a list with nodes ends with the length of a literal and the tail pointer of
a runtime list as they were; the field at offset 8 is as it was or zero. -/
theorem tailOf_fields {node : Word} {rest : List Word} (nodes : setting.nodes = node :: rest)
    {after : Machine}
    (ends : setting.ends (tailOf setting.registers setting.labels) after) :
    field after.memory setting.header 24 = field setting.machine.memory setting.header 24 ∧
      (field after.memory setting.header 8 = field setting.machine.memory setting.header 8 ∨
        field after.memory setting.header 8 = 0#64) := by
  have isAfter := LabelledCode.Control.running_inj
    ((setting.tailOf_runs node nodes).symm.trans ends)
  have isNode : (setting.moved node).read (.x 0) = node := by
    unfold moved
    rw [Machine.read_write_same _ _ Register.noConfusion]
  have inNodes : (setting.moved node).read (.x 0) ∈ setting.nodes := by
    rw [isNode, nodes]
    exact List.mem_cons_self
  have unlinkedField {offset : Nat} (small : offset <= 24)
      (other : offset + 8 <= headOffset ∨ headOffset + 8 <= offset) :
      field (setting.unlinked node).memory setting.header offset =
        field setting.machine.memory setting.header offset := by
    unfold unlinked tested
    rw [field_store_other (by omega) (by decide) other, Machine.memory_write,
      Machine.memory_setFlags, Machine.memory_write]
  have last := unlinkedField (by decide : 24 <= 24) (by decide)
  have first := unlinkedField (by decide : 8 <= 24) (by decide)
  rw [<- isAfter, field_returnNode setting.placed _ inNodes (by decide),
    field_returnNode setting.placed _ inNodes (by decide)]
  unfold moved cleared
  rw [Machine.memory_write]
  split
  · rw [field_store_other (by decide) (by decide) (by decide), field_store_same]
    unfold compared
    rw [Machine.memory_setFlags, Machine.memory_write]
    exact ⟨last, Or.inr rfl⟩
  · unfold compared
    rw [Machine.memory_setFlags, Machine.memory_write]
    exact ⟨last, Or.inl first⟩

/-- TL leaves a list behind exactly when the list is empty. -/
theorem tailOf_sound_iff : setting.Sound .tl <-> setting.Fits .tl := by
  constructor
  · rintro ⟨after, ends, _, isList⟩
    cases nodes : setting.nodes with
    | nil => exact nodes
    | cons node rest =>
        exfalso
        have fields := setting.tailOf_fields nodes ends
        have before := setting.isList
        have bounded := setting.bounded
        have length := isList.length
        have tail := isList.tail
        have oldLength := before.length
        have oldTail := before.tail
        have notNull := (nodes ▸ before.chain : Chain _ _ (node :: rest)).2.1
        rw [nodes] at length tail oldLength oldTail bounded
        rw [List.tail_cons] at length tail
        rw [List.length_cons] at oldLength bounded
        have shorter : BitVec.ofNat 64 rest.length ≠ BitVec.ofNat 64 (rest.length + 1) := by
          intro equal
          have numbers := congrArg BitVec.toNat equal
          rw [BitVec.toNat_ofNat, BitVec.toNat_ofNat, Nat.mod_eq_of_lt (by omega),
            Nat.mod_eq_of_lt (by omega)] at numbers
          omega
        cases layout : setting.layout with
        | literal =>
            rw [layout] at length oldLength
            exact shorter (length.symm.trans (fields.1.trans oldLength))
        | heap =>
            rw [layout] at length oldLength tail oldTail
            rcases fields.2 with kept | zero
            · exact shorter (length.symm.trans (kept.trans oldLength))
            · have numbers := congrArg BitVec.toNat (length.symm.trans zero)
              rw [BitVec.toNat_ofNat, Nat.mod_eq_of_lt (by omega), BitVec.toNat_zero]
                at numbers
              rw [List.length_eq_zero_iff.mp numbers] at tail oldTail
              exact notNull (oldTail.symm.trans (fields.1.symm.trans tail))
  · exact fun empty => setting.tailOf_empty empty

end OperatorSetting

/-- A memory with the list of the integer 7: the header is at 0x1000, the node at
0x2000. -/
def oneElementMemory : ByteMemory.Memory 64 := fun address =>
  if address = 0x1008#64 then 1#8
  else if address = 0x1011#64 then 0x20#8
  else if address = 0x1019#64 then 0x20#8
  else if address = 0x2000#64 then 1#8
  else if address = 0x2008#64 then 7#8
  else 0#8

end Lists
end NewBcpl
