import NewBcpl.Runtime.ListHeap

namespace NewBcpl
namespace Runtime

open Foundations

/-!
# Calls with more fuel

More fuel does not change the result of a call, so that a call has at most one result.
-/

theorem map_some {Input Output : Type} {function : Input -> Output} {first second : Option Input}
    (agrees : forall input, first = some input -> second = some input) {output : Output}
    (maps : first.map function = some output) : second.map function = some output := by
  cases known : first with
  | none =>
      rw [known] at maps
      cases maps
  | some input =>
      rw [agrees input known]
      rw [known] at maps
      exact maps

namespace Heap

variable {nested further : Heap -> Option Nat -> Option (Option Nat × Heap)}
  {heap : Heap} {fuel more : Nat}

theorem duplicateValue_mono
    (agrees : forall heap list result, nested heap list = some result ->
      further heap list = some result) {element : Element} {result : Value × Heap}
    (performs : heap.duplicateValue nested element = some result) :
    heap.duplicateValue further element = some result := by
  unfold duplicateValue at performs ⊢
  by_cases isString : element.type = stringType
  · rw [if_pos isString] at performs ⊢
    exact performs
  · rw [if_neg isString] at performs ⊢
    by_cases isList : element.type = listType
    · rw [if_pos isList] at performs ⊢
      cases known : element.value with
      | list pointer =>
          rw [known] at performs
          exact map_some (fun copy copies => agrees heap pointer copy copies) performs
      | word bits =>
          rw [known] at performs
          cases performs
      | string pointer =>
          rw [known] at performs
          cases performs
    · rw [if_neg isList] at performs ⊢
      exact performs

theorem literalValue_mono
    (agrees : forall heap list result, nested heap list = some result ->
      further heap list = some result) {element : Element} {result : Value × Heap}
    (performs : heap.literalValue nested element = some result) :
    heap.literalValue further element = some result := by
  unfold literalValue at performs ⊢
  by_cases isList : element.type = listType
  · rw [if_pos isList] at performs ⊢
    cases known : element.value with
    | list pointer =>
        rw [known] at performs
        exact map_some (fun copy copies => agrees heap pointer copy copies) performs
    | word bits =>
        rw [known] at performs
        cases performs
    | string pointer =>
        rw [known] at performs
        cases performs
  · rw [if_neg isList] at performs ⊢
    exact performs

theorem appendDeepCopy_mono
    (agrees : forall heap list result, nested heap list = some result ->
      further heap list = some result) {new original : Nat} {after : Heap}
    (performs : heap.appendDeepCopy nested new original = some after) :
    heap.appendDeepCopy further new original = some after := by
  unfold appendDeepCopy at performs ⊢
  dsimp only at performs ⊢
  generalize (heap.getNodeFromFreelist.2.beginAtom heap.getNodeFromFreelist.1
    (heap.getNodeFromFreelist.2.nodes original).type) = begun at performs ⊢
  cases known : begun.duplicateValue nested (begun.element original) with
  | none =>
      rw [known] at performs
      cases performs
  | some copy =>
      rw [duplicateValue_mono agrees known]
      rw [known] at performs
      exact performs

theorem appendLiteralCopy_mono {image : Image}
    (agrees : forall heap list result, nested heap list = some result ->
      further heap list = some result) {new original : Nat} {after : Heap}
    (performs : heap.appendLiteralCopy image nested new original = some after) :
    heap.appendLiteralCopy image further new original = some after := by
  unfold appendLiteralCopy at performs ⊢
  dsimp only at performs ⊢
  generalize (heap.getNodeFromFreelist.2.setNode heap.getNodeFromFreelist.1 _) = begun
    at performs ⊢
  cases known : begun.literalValue nested (image.element original) with
  | none =>
      rw [known] at performs
      cases performs
  | some copy =>
      rw [literalValue_mono agrees known]
      rw [known] at performs
      exact performs

theorem deepCopyList_mono (enough : fuel <= more) {list : Option Nat}
    {result : Option Nat × Heap} (performs : heap.deepCopyList fuel list = some result) :
    heap.deepCopyList more list = some result := by
  induction fuel generalizing heap list result more with
  | zero =>
      cases list with
      | none => cases more <;> exact performs
      | some header => cases performs
  | succ fuel ih =>
      cases more with
      | zero => exact absurd enough (Nat.not_succ_le_zero fuel)
      | succ more =>
          cases list with
          | none => exact performs
          | some header =>
              have less := Nat.le_of_succ_le_succ enough
              refine map_some ?_ performs
              intro copied walks
              exact Chains.walk_mono less (fun _ _ _ copies =>
                appendDeepCopy_mono (fun _ _ _ nests => ih less nests) copies) walks

theorem deepCopyLiteralList_mono {image : Image} (enough : fuel <= more) {list : Option Nat}
    {result : Option Nat × Heap}
    (performs : heap.deepCopyLiteralList image fuel list = some result) :
    heap.deepCopyLiteralList image more list = some result := by
  induction fuel generalizing heap list result more with
  | zero =>
      cases list with
      | none => cases more <;> exact performs
      | some header => cases performs
  | succ fuel ih =>
      cases more with
      | zero => exact absurd enough (Nat.not_succ_le_zero fuel)
      | succ more =>
          cases list with
          | none => exact performs
          | some header =>
              have less := Nat.le_of_succ_le_succ enough
              refine map_some ?_ performs
              intro copied walks
              exact Chains.walk_mono less (fun _ _ _ copies =>
                appendLiteralCopy_mono (fun _ _ _ nests => ih less nests) copies) walks

theorem shallowCopyList_mono (enough : fuel <= more) {list : Option Nat}
    {result : Option Nat × Heap} (performs : heap.shallowCopyList fuel list = some result) :
    heap.shallowCopyList more list = some result := by
  cases list with
  | none => exact performs
  | some header =>
      exact map_some (fun _ walks => Chains.walk_mono enough (fun _ _ _ same => same) walks) performs

theorem appendList_mono (enough : fuel <= more) {new : Nat} {list : Option Nat} {after : Heap}
    (performs : heap.appendList fuel new list = some after) :
    heap.appendList more new list = some after := by
  cases list with
  | none => exact performs
  | some header => exact Chains.walk_mono enough (fun _ _ _ same => same) performs

theorem concatLists_mono (enough : fuel <= more) {first second : Option Nat}
    {result : Option Nat × Heap} (performs : heap.concatLists fuel first second = some result) :
    heap.concatLists more first second = some result := by
  unfold concatLists at performs ⊢
  cases known : heap.shallowCopyList fuel first with
  | none =>
      rw [known] at performs
      cases performs
  | some copy =>
      rw [shallowCopyList_mono enough known]
      rw [known] at performs
      rcases copy with ⟨new, copied⟩
      cases new with
      | none => exact shallowCopyList_mono enough performs
      | some new => exact map_some (fun _ appends => appendList_mono enough appends) performs

theorem reverseList_mono (enough : fuel <= more) {list : Option Nat}
    {result : Option Nat × Heap} (performs : heap.reverseList fuel list = some result) :
    heap.reverseList more list = some result := by
  cases list with
  | none => exact performs
  | some header =>
      exact map_some (fun _ walks => Chains.walk_mono enough (fun _ _ _ same => same) walks) performs

theorem listFilter_mono (enough : fuel <= more) {list : Option Nat}
    {predicate : Option (Value -> Bool)} {result : Option Nat × Heap}
    (performs : heap.listFilter fuel list predicate = some result) :
    heap.listFilter more list predicate = some result := by
  cases list with
  | none => exact performs
  | some header =>
      cases predicate with
      | none => exact performs
      | some predicate =>
          exact map_some (fun _ walks => Chains.walk_mono enough (fun _ _ _ same => same) walks)
            performs

theorem freeNodes_mono (enough : fuel <= more) {pointer : Option Nat} {after : Heap}
    (performs : heap.freeNodes fuel pointer = some after) :
    heap.freeNodes more pointer = some after := by
  induction fuel generalizing heap pointer more with
  | zero =>
      cases pointer with
      | none => cases more <;> exact performs
      | some node => cases performs
  | succ fuel ih =>
      cases more with
      | zero => exact absurd enough (Nat.not_succ_le_zero fuel)
      | succ more =>
          cases pointer with
          | none => exact performs
          | some node =>
              rw [freeNodes] at performs ⊢
              cases known : heap.freeNode node with
              | none =>
                  rw [known] at performs
                  cases performs
              | some freed =>
                  rw [known] at performs
                  exact ih (Nat.le_of_succ_le_succ enough) performs

theorem bcplFreeList_mono (enough : fuel <= more) {list : Option Nat} {after : Heap}
    (performs : heap.bcplFreeList fuel list = some after) :
    heap.bcplFreeList more list = some after := by
  cases list with
  | none => exact performs
  | some header => exact map_some (fun _ frees => freeNodes_mono enough frees) performs

theorem freeCells_mono (enough : fuel <= more) {after : Heap}
    (performs : heap.freeCells fuel = some after) : heap.freeCells more = some after :=
  map_some (fun _ walks => Chains.walk_mono enough (fun _ _ _ same => same) walks) performs

end Heap

theorem perform_mono {image : Image} {heap : Heap} {fuel more : Nat} (enough : fuel <= more)
    {operation : Operation} {result : Option Nat × Heap}
    (performs : perform image fuel heap operation = some result) :
    perform image more heap operation = some result := by
  cases operation with
  | shallowCopy list => exact Heap.shallowCopyList_mono enough performs
  | deepCopy list => exact Heap.deepCopyList_mono enough performs
  | concat first second => exact Heap.concatLists_mono enough performs
  | reverse list => exact Heap.reverseList_mono enough performs
  | filter list predicate => exact Heap.listFilter_mono enough performs
  | literalCopy literal => exact Heap.deepCopyLiteralList_mono enough performs
  | freeList list => exact map_some (fun _ frees => Heap.bcplFreeList_mono enough frees) performs
  | freeCells => exact map_some (fun _ frees => Heap.freeCells_mono enough frees) performs
  | createEmpty => exact performs
  | appendInt list value => exact performs
  | appendFloat list value => exact performs
  | appendString list value => exact performs
  | appendList list value => exact performs
  | tailOf list => exact performs

/-- A call has at most one result. -/
theorem Performs.unique {image : Image} {heap : Heap} {operation : Operation}
    {result other : Option Nat} {after others : Heap}
    (performs : Performs image heap operation result after)
    (again : Performs image heap operation other others) : other = result ∧ others = after := by
  rcases performs with ⟨fuel, performs⟩
  rcases again with ⟨more, again⟩
  have first := perform_mono (Nat.le_max_left fuel more) performs
  have second := perform_mono (Nat.le_max_right fuel more) again
  rw [first] at second
  cases second
  exact ⟨rfl, rfl⟩

end Runtime
end NewBcpl
