import NewBcpl.Linking.StreamLabels

namespace NewBcpl
namespace Linking

open ControlFlow Foundations.Digits

/-!
# When two labels have one text

A block id has a capital letter behind the underscore of its prefix, and ends with a digit.
Nothing else that the compiler writes has both. Two ids of different functions are the
same only if one of the blocks is a label: in the ids of other blocks each underscore behind
that of the prefix stands before a digit.
-/

/-! ## Ids of different functions -/

/-- A prefix starts with a capital letter. -/
theorem text_eq_cons (idPrefix : BlockPrefix) :
    exists first rest, idPrefix.text.toList = first :: rest ∧ first.isUpper = true := by
  cases idPrefix with
  | caseBranch index =>
      refine ⟨'C', ("ase_" ++ toString index ++ "_").toList, ?_, rfl⟩
      change ("Case_" ++ toString index ++ "_").toList = _
      simp only [String.toList_append]
      rfl
  | label labelName =>
      refine ⟨'L', ("abel_" ++ labelName).toList, ?_, rfl⟩
      change ("Label_" ++ labelName).toList = _
      simp only [String.toList_append]
      rfl
  | _ => exact ⟨_, _, rfl, rfl⟩

/-- The part of an id behind the name of the function. -/
def idTail (idPrefix : BlockPrefix) (number : Nat) : List Char :=
  idPrefix.text.toList ++ (toString number).toList

theorem blockId_toList (functionName : String) (idPrefix : BlockPrefix) (number : Nat) :
    (blockId functionName idPrefix number).toList =
      functionName.toList ++ '_' :: idTail idPrefix number := by
  simp only [blockId, idTail, String.toList_append, List.append_assoc]
  rfl

/-- A text with one underscore at its end. -/
theorem stem_of_text {idPrefix : BlockPrefix}
    (notLabel : forall labelName, idPrefix ≠ .label labelName)
    (notCase : forall index, idPrefix ≠ .caseBranch index) :
    exists stem, '_' ∉ stem ∧ idPrefix.text.toList = stem ++ ['_'] := by
  have witness (stem : String) (free : '_' ∉ stem.toList)
      (same : idPrefix.text.toList = stem.toList ++ ['_']) :
      exists stem, '_' ∉ stem ∧ idPrefix.text.toList = stem ++ ['_'] :=
    ⟨stem.toList, free, same⟩
  cases idPrefix with
  | entry => exact witness "Entry" (by decide) rfl
  | plain => exact witness "BB" (by decide) rfl
  | exit => exact witness "Exit" (by decide) rfl
  | thenBranch => exact witness "Then" (by decide) rfl
  | join => exact witness "Join" (by decide) rfl
  | forHeader => exact witness "ForHeader" (by decide) rfl
  | forBody => exact witness "ForBody" (by decide) rfl
  | forIncrement => exact witness "ForIncrement" (by decide) rfl
  | forExit => exact witness "ForExit" (by decide) rfl
  | forEachHeader => exact witness "ForEachHeader" (by decide) rfl
  | forEachBody => exact witness "ForEachBody" (by decide) rfl
  | forEachIncrement => exact witness "ForEachIncrement" (by decide) rfl
  | forEachExit => exact witness "ForEachExit" (by decide) rfl
  | forEachAdvance => exact witness "ForEachAdvance" (by decide) rfl
  | switchJoin => exact witness "SwitchJoin" (by decide) rfl
  | defaultCase => exact witness "DefaultCase" (by decide) rfl
  | caseBranch index => exact absurd rfl (notCase index)
  | label labelName => exact absurd rfl (notLabel labelName)

/-- Behind a prefix that is no label, underscores stand before digits. -/
theorem idTail_beforeDigits {idPrefix : BlockPrefix} (number : Nat)
    (notLabel : forall labelName, idPrefix ≠ .label labelName) :
    BeforeKind (fun char => char.isDigit = true) (idTail idPrefix number) := by
  have numberEnds (stem : List Char) (free : '_' ∉ stem) :
      BeforeKind (fun char => char.isDigit = true)
        (stem ++ '_' :: (toString number).toList) := by
    have ends := @BeforeKind.digits _ stem [] number free (fun _ isDigit => isDigit)
    rw [List.append_nil] at ends
    exact ends (beforeKind_of_free (underscore_not_mem_digits number))
  by_cases isCase : exists index, idPrefix = .caseBranch index
  · rcases isCase with ⟨index, rfl⟩
    have text : idTail (.caseBranch index) number =
        "Case".toList ++ '_' :: ((toString index).toList ++ '_' :: (toString number).toList) := by
      change ("Case_" ++ toString index ++ "_").toList ++ _ = _
      simp only [String.toList_append, List.append_assoc]
      rfl
    rw [text]
    exact .digits (by decide) (fun _ isDigit => isDigit)
      (numberEnds _ (underscore_not_mem_digits index))
  · rcases stem_of_text notLabel fun index same => isCase ⟨index, same⟩ with ⟨stem, free, text⟩
    rw [idTail, text, List.append_assoc]
    exact numberEnds stem free

/-- A capital letter is no digit. -/
theorem not_isDigit_of_isUpper {char : Char} (isUpper : char.isUpper = true) :
    ¬ char.isDigit = true := by
  intro isDigit
  have notBelow : 'A'.val ≤ char.val := (of_decide_eq_true isUpper).1
  have notAbove : char.val ≤ '9'.val := of_decide_eq_true (Bool.and_eq_true_iff.mp isDigit).2
  exact absurd (Nat.le_trans notBelow notAbove) (by decide)

/-- A function has the name of another one and more, and its block has the id of a label of
the other one. -/
def Extends (functionName : String) (idPrefix : BlockPrefix) (number : Nat) (other : String)
    (otherPrefix : BlockPrefix) (position : Nat) : Prop :=
  exists labelName rest, idPrefix = .label labelName ∧
    other = functionName ++ "_Label" ++ rest ∧
    "_" ++ labelName ++ toString number = rest ++ "_" ++ otherPrefix.text ++ toString position

/-- Where the name of the other function is longer. -/
theorem extends_of_tail {functionName other : String} {idPrefix otherPrefix : BlockPrefix}
    {number position : Nat} {gap : List Char} (longer : other.toList = functionName.toList ++ gap)
    (tail : '_' :: idTail idPrefix number = gap ++ '_' :: idTail otherPrefix position)
    (different : functionName ≠ other) :
    Extends functionName idPrefix number other otherPrefix position := by
  cases gap with
  | nil =>
      rw [List.append_nil] at longer
      exact absurd (String.toList_inj.mp longer).symm different
  | cons char gap =>
      rw [List.cons_append, List.cons.injEq] at tail
      rcases tail with ⟨rfl, tail⟩
      by_cases isLabel : exists labelName, idPrefix = .label labelName
      · rcases isLabel with ⟨labelName, rfl⟩
        have text : idTail (.label labelName) number =
            "Label".toList ++ '_' :: (labelName.toList ++ (toString number).toList) := by
          change ("Label_" ++ labelName).toList ++ _ = _
          simp only [String.toList_append, List.append_assoc]
          rfl
        rw [text] at tail
        rcases split_at_underscore (by decide) tail with ⟨rfl, rest⟩ | ⟨middle, rfl, rest⟩
        · refine ⟨labelName, "", rfl, String.toList_inj.mp ?_, String.toList_inj.mp ?_⟩
          · rw [longer]
            simp only [String.toList_append, List.append_assoc]
            rfl
          · simp only [String.toList_append, List.append_assoc, <- rest, idTail]
            rfl
        · refine ⟨labelName, "_" ++ String.ofList middle, rfl, String.toList_inj.mp ?_,
            String.toList_inj.mp ?_⟩
          · rw [longer]
            simp only [String.toList_append, List.append_assoc, String.toList_ofList]
            rfl
          · simp only [String.toList_append, List.append_assoc, String.toList_ofList, rest, idTail]
            rfl
      · -- the prefix of the other block starts with a letter behind an underscore
        have digits := idTail_beforeDigits number fun labelName same => isLabel ⟨labelName, same⟩
        rcases text_eq_cons otherPrefix with ⟨first, rest, text, isUpper⟩
        have starts : idTail otherPrefix position =
            first :: (rest ++ (toString position).toList) := by
          rw [idTail, text, List.cons_append]
        rw [starts] at tail
        exact absurd (digits gap first _ tail) (not_isDigit_of_isUpper isUpper)

/-- Blocks of different functions have one id only if one of the functions extends the
other one. -/
theorem blockId_eq_iff {functionName other : String} {idPrefix otherPrefix : BlockPrefix}
    {number position : Nat} (different : functionName ≠ other) :
    blockId functionName idPrefix number = blockId other otherPrefix position <->
      Extends functionName idPrefix number other otherPrefix position ∨
        Extends other otherPrefix position functionName idPrefix number := by
  have of_extends {functionName other : String} {idPrefix otherPrefix : BlockPrefix}
      {number position : Nat}
      (extended : Extends functionName idPrefix number other otherPrefix position) :
      blockId functionName idPrefix number = blockId other otherPrefix position := by
    rcases extended with ⟨labelName, rest, rfl, name, tail⟩
    have lists := congrArg String.toList tail
    simp only [String.toList_append, List.append_assoc] at lists
    have text : (BlockPrefix.label labelName).text = "Label_" ++ labelName := rfl
    apply String.toList_inj.mp
    rw [blockId, blockId, name, text]
    simp only [String.toList_append, List.append_assoc, List.append_cancel_left_eq]
    rw [<- lists]
    rfl
  constructor
  · intro equal
    have lists := congrArg String.toList equal
    rw [blockId_toList, blockId_toList, List.append_eq_append_iff] at lists
    rcases lists with ⟨gap, longer, tail⟩ | ⟨gap, longer, tail⟩
    · exact Or.inl (extends_of_tail longer tail different)
    · exact Or.inr (extends_of_tail longer tail (Ne.symm different))
  · rintro (extended | extended)
    · exact of_extends extended
    · exact (of_extends extended).symm

/-! ## Labels of different kinds -/

/-- The characters of the label of a literal. -/
def DataLabel.chars : DataLabel -> List Char
  | .string number => 'L' :: '_' :: 's' :: 't' :: 'r' :: (toString number).toList
  | .float number => 'L' :: '_' :: 'f' :: 'l' :: 'o' :: 'a' :: 't' :: (toString number).toList
  | .table number => 'L' :: '_' :: 't' :: 'b' :: 'l' :: (toString number).toList
  | .floatTable number => 'L' :: '_' :: 'f' :: 't' :: 'b' :: 'l' :: (toString number).toList
  | .listHeader number =>
      'L' :: '_' :: 'l' :: 'i' :: 's' :: 't' ::
        ((toString number).toList ++ '_' :: 'h' :: "eader".toList)
  | .listNode number index =>
      'L' :: '_' :: 'l' :: 'i' :: 's' :: 't' ::
        ((toString number).toList ++
          '_' :: 'n' :: ("ode".toList ++ '_' :: (toString index).toList))

theorem DataLabel.text_toList (label : DataLabel) : label.text.toList = label.chars := by
  cases label <;>
    · simp only [text, String.toList_append, List.append_assoc]
      rfl

/-- The labels of the literals are different. -/
theorem DataLabel.text_injective {first second : DataLabel} (equal : first.text = second.text) :
    first = second := by
  have same := congrArg String.toList equal
  rw [text_toList, text_toList] at same
  have numbers {stem other : List Char} {number position : Nat}
      (equal : (toString number).toList ++ '_' :: stem =
        (toString position).toList ++ '_' :: other) : number = position ∧ stem = other := by
    rcases split_at_underscore (underscore_not_mem_digits number) equal with
      ⟨digits, rest⟩ | ⟨middle, digits, _⟩
    · exact ⟨(digits_injective digits).symm, rest.symm⟩
    · refine absurd (underscore_not_mem_digits position) (not_not.mpr ?_)
      rw [digits]
      exact List.mem_append_right _ List.mem_cons_self
  cases first <;> cases second <;>
    simp only [chars, List.cons.injEq, true_and] at same
  case string.string => rw [digits_injective same]
  case float.float => rw [digits_injective same]
  case table.table => rw [digits_injective same]
  case floatTable.floatTable => rw [digits_injective same]
  case listHeader.listHeader => rw [(numbers same).1]
  case listNode.listNode =>
    have rest := (numbers same).2
    simp only [List.cons.injEq, true_and, List.append_cancel_left_eq] at rest
    rw [(numbers same).1, digits_injective rest]
  case listHeader.listNode => exact absurd (numbers same).2 (by simp)
  case listNode.listHeader => exact absurd (numbers same).2 (by simp)
  all_goals exact absurd same (by simp)

/-- No capital letter stands behind an underscore in the label of a literal. -/
theorem DataLabel.beforeSmall (label : DataLabel) :
    BeforeKind (fun char => ¬ char.isUpper = true) label.text.toList := by
  have small (char : Char) (isDigit : char.isDigit = true) : ¬ char.isUpper = true :=
    fun isUpper => not_isDigit_of_isUpper isUpper isDigit
  have front {char : Char} {rest : List Char} (isSmall : ¬ char.isUpper = true)
      (others : BeforeKind (fun char => ¬ char.isUpper = true) (char :: rest)) :
      BeforeKind (fun char => ¬ char.isUpper = true) ('L' :: '_' :: char :: rest) :=
    @BeforeKind.stem _ ['L'] rest char (by decide) isSmall others
  have numbered (stem : List Char) (free : '_' ∉ stem) (number : Nat) :
      BeforeKind (fun char => ¬ char.isUpper = true) (stem ++ (toString number).toList) := by
    apply beforeKind_of_free
    rw [List.mem_append, not_or]
    exact ⟨free, underscore_not_mem_digits number⟩
  have ends (number : Nat) (char : Char) (rest : List Char) (isSmall : ¬ char.isUpper = true)
      (others : BeforeKind (fun char => ¬ char.isUpper = true) (char :: rest)) :
      BeforeKind (fun char => ¬ char.isUpper = true)
        ("list".toList ++ (toString number).toList ++ '_' :: char :: rest) := by
    refine .stem ?_ isSmall others
    rw [List.mem_append, not_or]
    exact ⟨by decide, underscore_not_mem_digits number⟩
  rw [text_toList]
  cases label with
  | string number =>
      exact front (by decide) (numbered "str".toList (by decide) number)
  | float number =>
      exact front (by decide)
        (numbered "float".toList (by decide) number)
  | table number =>
      exact front (by decide) (numbered "tbl".toList (by decide) number)
  | floatTable number =>
      exact front (by decide)
        (numbered "ftbl".toList (by decide) number)
  | listHeader number =>
      exact front (by decide)
        (ends number 'h' _ (by decide) (beforeKind_of_free (by decide)))
  | listNode number index =>
      refine front (by decide)
        (ends number 'n' _ (by decide) ?_)
      have last := @BeforeKind.digits _ "node".toList [] index (by decide) small
      rw [List.append_nil] at last
      exact last (beforeKind_of_free (underscore_not_mem_digits index))

/-- The text of the label of an epilogue has no underscore. -/
theorem underscore_not_mem_created (number : Nat) :
    '_' ∉ (StreamLabel.created number).text.toList := by
  change '_' ∉ (".L" ++ toString number).toList
  rw [String.toList_append, List.mem_append, not_or]
  exact ⟨by decide, underscore_not_mem_digits number⟩

theorem underscore_mem_block (functionName : String) (idPrefix : BlockPrefix) (number : Nat) :
    '_' ∈ (StreamLabel.block functionName idPrefix number).text.toList := by
  change '_' ∈ (blockId functionName idPrefix number).toList
  rw [blockId_toList]
  exact List.mem_append_right _ List.mem_cons_self

/-- The text of the label of a canary. -/
theorem canary_toList (functionName : String) (upper : Bool) :
    (StreamLabel.canary functionName upper).text.toList =
      functionName.toList ++ ("_stackprot_".toList ++
        if upper then "upper".toList else "lower".toList) := by
  cases upper <;>
    · simp only [StreamLabel.text, String.toList_append]
      rfl

theorem underscore_mem_canary (functionName : String) (upper : Bool) :
    '_' ∈ (StreamLabel.canary functionName upper).text.toList := by
  rw [canary_toList]
  exact List.mem_append_right _ (List.mem_append_left _ (by decide))

theorem created_injective {first second : Nat}
    (equal : (StreamLabel.created first).text = (StreamLabel.created second).text) :
    first = second := by
  have same := congrArg String.toList equal
  simp only [StreamLabel.text, String.toList_append, List.append_cancel_left_eq] at same
  exact digits_injective same

theorem canary_injective {first second : String} {upper other : Bool}
    (equal : (StreamLabel.canary first upper).text = (StreamLabel.canary second other).text) :
    first = second ∧ upper = other := by
  have same := congrArg String.toList equal
  rw [canary_toList, canary_toList] at same
  have parts := List.append_inj' same (by cases upper <;> cases other <;> rfl)
  refine ⟨String.toList_inj.mp parts.1, ?_⟩
  have suffixes := List.append_cancel_left parts.2
  cases upper <;> cases other
  · rfl
  · exact absurd suffixes (by decide)
  · exact absurd suffixes (by decide)
  · rfl

/-- The label of a literal starts with an L. -/
theorem created_ne_data (number : Nat) (label : DataLabel) :
    (StreamLabel.created number).text ≠ (StreamLabel.data label).text := by
  intro equal
  have same := congrArg (fun text => text.toList.head?) equal
  have starts : (StreamLabel.data label).text.toList.head? = some 'L' := by
    change label.text.toList.head? = some 'L'
    rw [DataLabel.text_toList]
    cases label <;> rfl
  have other : (StreamLabel.created number).text.toList.head? = some '.' := by
    simp only [StreamLabel.text, String.toList_append]
    rfl
  rw [starts, other] at same
  exact absurd same (by decide)

theorem block_ne_created (functionName : String) (idPrefix : BlockPrefix)
    (number other : Nat) :
    (StreamLabel.block functionName idPrefix number).text ≠ (StreamLabel.created other).text := by
  intro equal
  have member := underscore_mem_block functionName idPrefix number
  rw [equal] at member
  exact underscore_not_mem_created other member

theorem canary_ne_created (functionName : String) (upper : Bool) (number : Nat) :
    (StreamLabel.canary functionName upper).text ≠ (StreamLabel.created number).text := by
  intro equal
  have member := underscore_mem_canary functionName upper
  rw [equal] at member
  exact underscore_not_mem_created number member

/-- The id of a block ends with a digit. -/
theorem block_ne_canary (functionName other : String) (idPrefix : BlockPrefix) (number : Nat)
    (upper : Bool) :
    (StreamLabel.block functionName idPrefix number).text ≠
      (StreamLabel.canary other upper).text := by
  intro equal
  have same := congrArg (fun text => text.toList.getLast?) equal
  have ends : (StreamLabel.canary other upper).text.toList.getLast? = some 'r' := by
    rw [canary_toList]
    cases upper <;>
      · rw [<- List.append_assoc, List.getLast?_append]
        rfl
  rcases getLast?_append_digits (functionName ++ "_" ++ idPrefix.text).toList number with
    ⟨digit, isLast, isDigit⟩
  have text : (StreamLabel.block functionName idPrefix number).text.toList =
      (functionName ++ "_" ++ idPrefix.text).toList ++ (toString number).toList := by
    rw [StreamLabel.text, blockId, String.toList_append]
  rw [ends, text, isLast, Option.some.injEq] at same
  rw [same] at isDigit
  exact absurd isDigit (by decide)

/-- The prefix of a block starts with a capital letter. -/
theorem block_ne_data (functionName : String) (idPrefix : BlockPrefix) (number : Nat)
    (label : DataLabel) :
    (StreamLabel.block functionName idPrefix number).text ≠ (StreamLabel.data label).text := by
  intro equal
  rcases text_eq_cons idPrefix with ⟨first, rest, text, isUpper⟩
  have same := congrArg String.toList equal
  change (blockId functionName idPrefix number).toList = label.text.toList at same
  rw [blockId_toList, idTail, text, List.cons_append] at same
  exact label.beforeSmall _ _ _ same.symm isUpper

/-- The third character from the end tells a canary from a list. -/
theorem canary_ne_data (functionName : String) (upper : Bool) (label : DataLabel) :
    (StreamLabel.canary functionName upper).text ≠ (StreamLabel.data label).text := by
  intro equal
  have same := congrArg (fun text => text.toList.reverse.take 3) equal
  have ends : (StreamLabel.canary functionName upper).text.toList.reverse.take 3 =
      if upper then ['r', 'e', 'p'] else ['r', 'e', 'w'] := by
    rw [canary_toList, List.reverse_append]
    cases upper <;> rfl
  have lastDigit (front : List Char) (number : Nat)
      (isText : label.text.toList = front ++ (toString number).toList) : False := by
    rcases getLast?_append_digits front number with ⟨digit, isLast, isDigit⟩
    have heads := congrArg List.head? same
    change _ = (label.text.toList.reverse.take 3).head? at heads
    rw [ends, List.head?_take, List.head?_reverse, isText, isLast] at heads
    cases upper <;>
      · have isR : 'r' = digit := Option.some.inj heads
        rw [<- isR] at isDigit
        exact absurd isDigit (by decide)
  have chars := label.text_toList
  cases label with
  | string number => exact lastDigit "L_str".toList number chars
  | float number => exact lastDigit "L_float".toList number chars
  | table number => exact lastDigit "L_tbl".toList number chars
  | floatTable number => exact lastDigit "L_ftbl".toList number chars
  | listNode number index =>
      refine lastDigit ("L_list".toList ++ (toString number).toList ++ "_node_".toList) index ?_
      rw [chars]
      simp only [DataLabel.chars, List.append_assoc]
      rfl
  | listHeader number =>
      change _ = (DataLabel.text _).toList.reverse.take 3 at same
      rw [ends, chars] at same
      have list : (DataLabel.listHeader number).chars =
          'L' :: '_' :: "list".toList ++ (toString number).toList ++ "_header".toList := by
        simp only [DataLabel.chars, List.append_assoc]
        rfl
      rw [list, List.reverse_append, List.take_append_of_le_length (by decide)] at same
      cases upper
      · exact absurd same (by decide)
      · exact absurd same (by decide)

/-- An identifier has no dot. -/
theorem function_ne_created {name : String} (identifier : isIdentifier name = true)
    (number : Nat) : (StreamLabel.function name).text ≠ (StreamLabel.created number).text := by
  intro equal
  change name = ".L" ++ toString number at equal
  rw [isIdentifier, List.all_eq_true] at identifier
  have dot := identifier '.' (by
    rw [equal, String.toList_append]
    exact List.mem_append_left _ (by decide))
  exact absurd dot (by decide)

end Linking
end NewBcpl
