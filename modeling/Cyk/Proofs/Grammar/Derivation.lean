import Cyk.Grammar.Derivation
import Cyk.Proofs.Grammar.Ancestors

/-!
# Derivations and unit rules

Every derivation is a path of unit rules above a lexical or a binary rule.  The path may be of any
length and may run in circles; what stands below it is a derivation of smaller rows.
-/

namespace Cyk.Derives

open Relation

variable {rules : Rules}

/-- A derivation is carried up along a path of unit rules. -/
theorem of_path {symbol child : String} {terminals : List String}
    (path : ReflTransGen (UnitRule.Leads rules.unit) symbol child)
    (below : Derives rules child terminals) : Derives rules symbol terminals := by
  induction path using ReflTransGen.head_induction_on with
  | refl => exact below
  | head step _ ih => exact Derives.unit step ih

/-- A lexical or a binary rule of the symbol itself begins the derivation. -/
inductive Direct (rules : Rules) (symbol : String) : List String → Prop where
  | lexical {terminal : String} (rule : terminal ∈ rules.lexical.get symbol) :
    Direct rules symbol [terminal]
  | binary {left right : String} {front back : List String}
    (rule : ⟨symbol, left, right⟩ ∈ rules.binary)
    (before : Derives rules left front) (after : Derives rules right back) :
    Direct rules symbol (front ++ back)

/-- Below its unit rules, a derivation is direct. -/
theorem exists_path_direct {symbol : String} {terminals : List String}
    (derivation : Derives rules symbol terminals) :
    ∃ core, ReflTransGen (UnitRule.Leads rules.unit) symbol core ∧
      Direct rules core terminals := by
  induction derivation with
  | lexical rule => exact ⟨_, ReflTransGen.refl, Direct.lexical rule⟩
  | unit rule _ ih =>
    rcases ih with ⟨core, path, direct⟩
    exact ⟨core, ReflTransGen.head rule path, direct⟩
  | binary rule before after => exact ⟨_, ReflTransGen.refl, Direct.binary rule before after⟩

end Cyk.Derives
