import Mathlib.Data.List.Basic

namespace Foundations
namespace Inclusions

/-!
# Texts that include one another

A text is a list of items and of links to other texts. Its expansion has the expansion of the
text in the place of each link. A link can lead nowhere, and it can lead to a text that is being
expanded, so that there is no expansion. What has an expansion has no fault, and a text that is
not counted as being expanded makes a difference only when a link comes back to it.
-/

variable {Item Node : Type}

/-- A part of a text. -/
inductive Piece (Item Node : Type) where
  | item (item : Item)
  | link (target : Option Node)
  deriving DecidableEq

variable (body : Node -> List (Piece Item Node))

/-- The expansion of a text while others are being expanded. -/
inductive Expands : List Node -> List (Piece Item Node) -> List Item -> Prop
  | nil (active : List Node) : Expands active [] []
  | item {active : List Node} {rest : List (Piece Item Node)} {expanded : List Item} (item : Item) :
      Expands active rest expanded -> Expands active (.item item :: rest) (item :: expanded)
  | link {active : List Node} {node : Node} {rest : List (Piece Item Node)}
      {inner expanded : List Item} :
      node ∉ active -> Expands (node :: active) (body node) inner ->
        Expands active rest expanded ->
          Expands active (.link (some node) :: rest) (inner ++ expanded)

/-- Expanding a text meets a link that leads nowhere, or one to a text that is being expanded. -/
inductive Faults : List Node -> List (Piece Item Node) -> Prop
  | missing {active : List Node} {pieces : List (Piece Item Node)} :
      .link none ∈ pieces -> Faults active pieces
  | again {active : List Node} {pieces : List (Piece Item Node)} {node : Node} :
      .link (some node) ∈ pieces -> node ∈ active -> Faults active pieces
  | inside {active : List Node} {pieces : List (Piece Item Node)} {node : Node} :
      .link (some node) ∈ pieces -> Faults (node :: active) (body node) -> Faults active pieces

/-- The links of a text lead to another one, in one step or in more. -/
inductive Reaches : List (Piece Item Node) -> Node -> Prop
  | here {pieces : List (Piece Item Node)} {node : Node} :
      .link (some node) ∈ pieces -> Reaches pieces node
  | there {pieces : List (Piece Item Node)} {middle node : Node} :
      .link (some middle) ∈ pieces -> Reaches (body middle) node -> Reaches pieces node

variable {body : Node -> List (Piece Item Node)} {active others : List Node}
  {pieces rest : List (Piece Item Node)} {node : Node}

/-- A fault of what follows is a fault of the whole. -/
theorem Faults.cons (faults : Faults body active rest) (piece : Piece Item Node) :
    Faults body active (piece :: rest) := by
  cases faults with
  | missing member => exact .missing (List.mem_cons_of_mem _ member)
  | again member counted => exact .again (List.mem_cons_of_mem _ member) counted
  | inside member deeper => exact .inside (List.mem_cons_of_mem _ member) deeper

/-- The links behind an item. -/
theorem link_mem_of_item {item : Item} {target : Option Node}
    (member : .link target ∈ (.item item :: rest : List (Piece Item Node))) :
    .link target ∈ rest := by
  rcases List.mem_cons.mp member with same | later
  · cases same
  · exact later

/-- A text that has an expansion has no fault. -/
theorem Expands.not_faults {expanded : List Item} (expands : Expands body active pieces expanded) :
    ¬ Faults body active pieces := by
  induction expands with
  | nil =>
      intro faults
      cases faults with
      | missing member => cases member
      | again member _ => cases member
      | inside member _ => cases member
  | item item _ hypothesis =>
      intro faults
      apply hypothesis
      cases faults with
      | missing member => exact .missing (link_mem_of_item member)
      | again member counted => exact .again (link_mem_of_item member) counted
      | inside member deeper => exact .inside (link_mem_of_item member) deeper
  | link fresh _ _ innerHypothesis restHypothesis =>
      intro faults
      cases faults with
      | missing member =>
          rcases List.mem_cons.mp member with same | later
          · cases same
          · exact restHypothesis (.missing later)
      | again member counted =>
          rcases List.mem_cons.mp member with same | later
          · cases same
            exact fresh counted
          · exact restHypothesis (.again later counted)
      | inside member deeper =>
          rcases List.mem_cons.mp member with same | later
          · cases same
            exact innerHypothesis deeper
          · exact restHypothesis (.inside later deeper)

/-- An expansion does not depend on the texts that are being expanded, when there is no fault. -/
theorem Expands.of_not_faults {expanded : List Item} (expands : Expands body active pieces expanded)
    (sound : ¬ Faults body others pieces) : Expands body others pieces expanded := by
  induction expands generalizing others with
  | nil => exact .nil others
  | item item _ hypothesis => exact .item item (hypothesis fun faults => sound (faults.cons _))
  | link _ _ _ innerHypothesis restHypothesis =>
      apply Expands.link
      · intro counted
        exact sound (.again List.mem_cons_self counted)
      · apply innerHypothesis
        intro faults
        exact sound (.inside List.mem_cons_self faults)
      · apply restHypothesis
        intro faults
        exact sound (faults.cons _)

/-- More texts that are being expanded make more faults. -/
theorem Faults.mono (faults : Faults body active pieces)
    (more : forall node, node ∈ active -> node ∈ others) : Faults body others pieces := by
  induction faults generalizing others with
  | missing member => exact .missing member
  | again member counted => exact .again member (more _ counted)
  | inside member _ hypothesis =>
      apply Faults.inside member
      apply hypothesis
      intro other counted
      rcases List.mem_cons.mp counted with same | earlier
      · exact same ▸ List.mem_cons_self
      · exact List.mem_cons_of_mem _ (more other earlier)

/-- Coming back to a text that is being expanded is a fault. -/
theorem Reaches.faults (reaches : Reaches body pieces node) (counted : node ∈ active) :
    Faults body active pieces := by
  induction reaches generalizing active with
  | here member => exact .again member counted
  | there member _ hypothesis =>
      exact .inside member (hypothesis (List.mem_cons_of_mem _ counted))

/-- A fault is there without a text that is being expanded, or a link comes back to it. -/
theorem Faults.without (faults : Faults body active pieces)
    (among : forall other, other ∈ active -> other = node ∨ other ∈ others) :
    Faults body others pieces ∨ Reaches body pieces node := by
  induction faults generalizing others with
  | missing member => exact Or.inl (.missing member)
  | again member counted =>
      rcases among _ counted with same | earlier
      · exact Or.inr (.here (same ▸ member))
      · exact Or.inl (.again member earlier)
  | @inside counting _ inner member _ hypothesis =>
      have innerAmong : forall other, other ∈ inner :: counting ->
          other = node ∨ other ∈ inner :: others := by
        intro other counted
        rcases List.mem_cons.mp counted with same | earlier
        · exact Or.inr (same ▸ List.mem_cons_self)
        · exact (among other earlier).imp_right (List.mem_cons_of_mem _)
      rcases hypothesis innerAmong with faults | reaches
      · exact Or.inl (.inside member faults)
      · exact Or.inr (.there member reaches)

/-- Whether a text is being expanded matters only when a link comes back to it. -/
theorem faults_cons_iff (node : Node) :
    Faults body (node :: active) pieces <->
      Faults body active pieces ∨ Reaches body pieces node := by
  constructor
  · intro faults
    exact faults.without fun other counted => List.mem_cons.mp counted
  · rintro (faults | reaches)
    · exact faults.mono fun _ counted => List.mem_cons_of_mem _ counted
    · exact reaches.faults List.mem_cons_self

end Inclusions
end Foundations
