import NewBcpl.Parsing.AcceptedPrograms
import NewBcpl.Parsing.LexerRuns

namespace NewBcpl
namespace Parsing

open Foundations.LongestMatch

/-!
# Source texts

The lexer and the parser together: a source is a program exactly when it is cut into
lexemes that spell one.
-/

/-- The tokens of a source, as the parser takes them. -/
def TokenStream.ofSource (source : List Char) : TokenStream where
  tokens := (lexed source).1
  ending := (lexed source).2
  inside := LexerState.tokens_inside _ _
  ends := congrArg Token.type
    (LexerState.tokens_read _ source (Nat.le_refl _) [] false (Nat.lt_succ_self _)).1

/-- The language of the compiler's front end: a source is taken without an error as a
program exactly when the longest match cuts it into lexemes that spell the program. -/
theorem accepts_source_iff (rounding : Rounding) (source : List Char) (program : Program)
    {rounds : Nat} (enough : 2 * source.length < rounds) :
    (exists final, (TokenStream.ofSource source).run rounding Observer.none rounds =
        .done program final ∧ final.errors = []) <->
      exists pieces trees, Cuts lexicon false [] source pieces ∧
        program.declarations = trees.map some ∧
          Spells rounding (.declarations trees) (pieces.filterMap tokenOf) .eof := by
  have few : (TokenStream.ofSource source).tokens.length ≤ source.length :=
    (LexerState.tokens_read _ source (Nat.le_refl _) [] false (Nat.lt_succ_self _)).2.1
  rw [TokenStream.accepts_iff rounding _ program (by omega)]
  constructor
  · rintro ⟨trees, same, spelled⟩
    rcases (lexed_iff source (lexed source).1 (lexed source).2).mp ⟨rfl, spelled.readable⟩ with
      ⟨pieces, cuts, tokens, _⟩
    refine ⟨pieces, trees, cuts, same, ?_⟩
    rw [<- tokens]
    exact spelled
  · rintro ⟨pieces, trees, cuts, same, spelled⟩
    have run := ((lexed_iff source _ _).mpr ⟨pieces, cuts, rfl, rfl⟩).1
    refine ⟨trees, same, ?_⟩
    change Spells rounding _ (lexed source).1 .eof
    rw [run]
    exact spelled

/-- `LET f() BE FINISH`. -/
theorem accepts_short :
    (exists final, (TokenStream.ofSource "LET f() BE FINISH".toList).run noDoubles
        Observer.none 40 =
          .done { declarations := [some (.routineDeclaration ['f'] [] (some .finish))] } final ∧
            final.errors = []) <->
      exists pieces trees, Cuts lexicon false [] "LET f() BE FINISH".toList pieces ∧
        [some (.routineDeclaration ['f'] [] (some .finish))] = trees.map some ∧
          Spells noDoubles (.declarations trees) (pieces.filterMap tokenOf) .eof :=
  accepts_source_iff noDoubles _ _ (by decide)

end Parsing
end NewBcpl
