import Mathlib.Computability.ContextFreeGrammar
import Mathlib.Order.CompletePartialOrder

namespace NewBcpl
namespace Grammars

/-!
# The phrases of a context-free grammar

The words that a symbol of a grammar derives, as a language. A rule says that the
product of the languages of its right side is included in that of its left side, so
that derivations are put together with the algebra of languages.
-/

section Phrases

variable {T : Type} (grammar : ContextFreeGrammar T)

/-- The words that a symbol derives. -/
def phrase : Symbol T grammar.NT -> Language T
  | .terminal letter => {[letter]}
  | .nonterminal name => { word | grammar.Derives [.nonterminal name] (word.map .terminal) }

/-- The words that a row of symbols derives one after another. -/
def row : List (Symbol T grammar.NT) -> Language T
  | [] => 1
  | [symbol] => phrase grammar symbol
  | symbol :: symbols => phrase grammar symbol * row symbols

theorem row_cons (symbol : Symbol T grammar.NT) (symbols : List (Symbol T grammar.NT)) :
    row grammar (symbol :: symbols) = phrase grammar symbol * row grammar symbols := by
  cases symbols with
  | nil => exact (mul_one _).symm
  | cons next symbols => rfl

theorem row_append (first rest : List (Symbol T grammar.NT)) :
    row grammar (first ++ rest) = row grammar first * row grammar rest := by
  induction first with
  | nil => exact (one_mul _).symm
  | cons symbol first hypothesis =>
      rw [List.cons_append, row_cons, row_cons, hypothesis, mul_assoc]

variable {grammar}

theorem derives_of_mem_phrase {symbol : Symbol T grammar.NT} {word : List T}
    (member : word ∈ phrase grammar symbol) :
    grammar.Derives [symbol] (word.map .terminal) := by
  cases symbol with
  | terminal letter =>
      have same : word = [letter] := member
      subst same
      exact .refl _
  | nonterminal name => exact member

theorem derives_of_mem_row {symbols : List (Symbol T grammar.NT)} {word : List T}
    (member : word ∈ row grammar symbols) :
    grammar.Derives symbols (word.map .terminal) := by
  induction symbols generalizing word with
  | nil =>
      have same : word = [] := member
      subst same
      exact .refl _
  | cons symbol symbols hypothesis =>
      rw [row_cons] at member
      rcases Language.mem_mul.mp member with ⟨first, inFirst, rest, inRest, same⟩
      subst same
      have here := (derives_of_mem_phrase inFirst).append_right symbols
      have later := (hypothesis inRest).append_left (first.map .terminal)
      rw [List.map_append]
      exact here.trans later

/-- A rule includes what its right side derives in what its left side derives. -/
theorem row_le_phrase {rule : ContextFreeRule T grammar.NT} (member : rule ∈ grammar.rules) :
    row grammar rule.output ≤ phrase grammar (.nonterminal rule.input) := by
  intro word derived
  have produced : grammar.Produces [.nonterminal rule.input] rule.output :=
    ⟨rule, member, .input_output⟩
  exact produced.trans_derives (derives_of_mem_row derived)

end Phrases

section Balance

variable {T N : Type}

variable [DecidableEq T] {grammar : ContextFreeGrammar T} {opening closing : T}

end Balance

section Lists

variable {T : Type} {item separator left mark right list : Language T}

/-- Items with separators between them are a list, when an item is one and an item
in front of a list makes another. -/
theorem separated_le (single : item ≤ list) (more : item * (separator * list) ≤ list)
    (count : Nat) : item * (separator * item) ^ count ≤ list := by
  induction count with
  | zero => simpa using single
  | succ count hypothesis =>
      calc item * (separator * item) ^ (count + 1)
          = item * (separator * (item * (separator * item) ^ count)) := by
            rw [pow_succ', mul_assoc separator]
        _ ≤ item * (separator * list) := by gcongr
        _ ≤ list := more

/-- As many items on the right of a mark as on its left. -/
theorem balanced_le (single : left * (mark * right) ≤ list)
    (more : left * (separator * (list * (separator * right))) ≤ list) (count : Nat) :
    left * (separator * left) ^ count * (mark * (right * (separator * right) ^ count)) ≤
      list := by
  induction count with
  | zero => simpa using single
  | succ count hypothesis =>
      calc left * (separator * left) ^ (count + 1) *
            (mark * (right * (separator * right) ^ (count + 1)))
          = left * (separator * ((left * (separator * left) ^ count *
              (mark * (right * (separator * right) ^ count))) * (separator * right))) := by
            rw [pow_succ' (separator * left), pow_succ (separator * right)]
            simp only [mul_assoc]
        _ ≤ left * (separator * (list * (separator * right))) := by gcongr
        _ ≤ list := more

end Lists

end Grammars
end NewBcpl
