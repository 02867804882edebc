import Mathlib.Data.List.Infix

namespace Foundations
namespace LongestMatch

/-!
# The rule of the longest match

A lexicon says which pieces a text may begin with. What a piece is may depend on what
follows it and on a context that the pieces in front of it have left. A text is cut by
taking the longest piece each time; where a piece of a text has one kind only, there is
at most one way to cut it.
-/

/-- The pieces of texts, in front of what follows them, and the context they leave. -/
structure Lexicon (Letter Context Kind : Type) where
  IsPiece : Context -> List Letter -> List Letter -> Kind -> Prop
  next : Context -> Kind -> Context

variable {Letter Context Kind : Type} (lexicon : Lexicon Letter Context Kind)

/-- A piece in front of a rest that no other piece of the same text is longer than. -/
structure Longest (context : Context) (text rest : List Letter) (kind : Kind) : Prop where
  nonempty : text ≠ []
  isPiece : lexicon.IsPiece context text rest kind
  longest : forall {other behind : List Letter} {otherKind : Kind},
    other ++ behind = text ++ rest -> lexicon.IsPiece context other behind otherKind ->
      other.length ≤ text.length

/-- A piece of a cut text, with all that stands before it. -/
structure Piece (Letter Kind : Type) where
  before : List Letter
  text : List Letter
  kind : Kind

/-- The text behind what stands before it is cut into the pieces. -/
inductive Cuts : Context -> List Letter -> List Letter -> List (Piece Letter Kind) -> Prop
  | nothing {context before} : Cuts context before [] []
  | piece {context before text rest kind pieces} : Longest lexicon context text rest kind ->
      Cuts (lexicon.next context kind) (before ++ text) rest pieces ->
      Cuts context before (text ++ rest) (⟨before, text, kind⟩ :: pieces)

/-- A piece of a text has one kind. -/
def Lexicon.Functional : Prop :=
  forall {context text rest kind other}, lexicon.IsPiece context text rest kind ->
    lexicon.IsPiece context text rest other -> kind = other

section Uniqueness

variable {lexicon} {context : Context}

/-- A text begins with one longest piece. -/
theorem Longest.unique (functional : lexicon.Functional) {text rest other behind : List Letter}
    {kind otherKind : Kind} (longest : Longest lexicon context text rest kind)
    (again : Longest lexicon context other behind otherKind)
    (same : text ++ rest = other ++ behind) :
    text = other ∧ rest = behind ∧ kind = otherKind := by
  have length : text.length = other.length :=
    Nat.le_antisymm (again.longest same longest.isPiece) (longest.longest same.symm again.isPiece)
  rcases List.append_inj same length with ⟨rfl, rfl⟩
  exact ⟨rfl, rfl, functional longest.isPiece again.isPiece⟩

end Uniqueness

end LongestMatch
end Foundations
