import Cyk.Grammar.Rules

/-!
# Derivations

What it means for a nonterminal to stand for a row of terminals.
-/

namespace Cyk

/-- The rows of terminals that a nonterminal derives. -/
inductive Derives (rules : Rules) : String → List String → Prop where
  | lexical {symbol terminal : String} (rule : terminal ∈ rules.lexical.get symbol) :
    Derives rules symbol [terminal]
  | unit {symbol child : String} {terminals : List String}
    (rule : ⟨symbol, child⟩ ∈ rules.unit) (below : Derives rules child terminals) :
    Derives rules symbol terminals
  | binary {symbol left right : String} {front back : List String}
    (rule : ⟨symbol, left, right⟩ ∈ rules.binary)
    (before : Derives rules left front) (after : Derives rules right back) :
    Derives rules symbol (front ++ back)

namespace Derives

/-- No nonterminal derives the empty row. -/
theorem ne_nil {rules : Rules} {symbol : String} {terminals : List String}
    (derivation : Derives rules symbol terminals) : terminals ≠ [] := by
  induction derivation with
  | lexical => simp
  | unit _ _ below => exact below
  | binary _ _ _ before _ => simp [before]

end Derives

end Cyk
