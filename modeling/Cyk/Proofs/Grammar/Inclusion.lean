import Cyk.Proofs.Grammar.Calls
import Cyk.Proofs.Grammar.Derivation

/-!
# More rules, more derivations

What a nonterminal derives depends on the set of rules only, and grows with it.  The set of rules
that calls give is read off the calls: neither their order nor their repetitions leave a trace.
-/

namespace Cyk

/-- The rule as a grammar keeps it: a terminal is in normal form. -/
def Addition.normal : Addition → Addition
  | .lexical lhs terminal => .lexical lhs (Text.normalizeTerminal terminal)
  | .binary lhs left right => .binary lhs left right
  | .unit lhs child => .unit lhs child

/-- The rules that calls give. -/
def Call.rules (calls : List Call) : List Addition :=
  (calls.filterMap Call.addition?).map Addition.normal

/-- Every rule is among the others. -/
structure Rules.Included (rules others : Rules) : Prop where
  lexical : ∀ {symbol terminal : String},
    terminal ∈ rules.lexical.get symbol → terminal ∈ others.lexical.get symbol
  binary : rules.binary ⊆ others.binary
  unit : rules.unit ⊆ others.unit

/-- With more rules, everything is derived that was derived before. -/
theorem Derives.mono {rules others : Rules} (included : rules.Included others) {symbol : String}
    {terminals : List String} (derivation : Derives rules symbol terminals) :
    Derives others symbol terminals := by
  induction derivation with
  | lexical rule => exact .lexical (included.lexical rule)
  | unit rule _ below => exact .unit (included.unit rule) below
  | binary rule _ _ before after => exact .binary (included.binary rule) before after

namespace Draft

variable {start : String} {calls : List Call}

theorem mem_lexical_ofCalls {lhs terminal : String} :
    terminal ∈ (ofCalls start calls).rules.lexical.get lhs ↔
      .lexical lhs terminal ∈ Call.rules calls := by
  rw [rules_ofCalls, mem_lexical_ofAdditions, Call.rules, List.mem_map]
  constructor
  · rintro ⟨given, member, rfl⟩
    exact ⟨_, member, rfl⟩
  · rintro ⟨addition, member, same⟩
    cases addition with
    | lexical _ given =>
      rcases Addition.lexical.inj same with ⟨rfl, rfl⟩
      exact ⟨given, member, rfl⟩
    | binary | unit => contradiction

theorem mem_binary_ofCalls {rule : BinaryRule} :
    rule ∈ (ofCalls start calls).rules.binary ↔
      .binary rule.lhs rule.left rule.right ∈ Call.rules calls := by
  rcases rule with ⟨lhs, left, right⟩
  rw [rules_ofCalls, mem_binary_ofAdditions, Call.rules, List.mem_map]
  constructor
  · intro member
    exact ⟨_, member, rfl⟩
  · rintro ⟨addition, member, same⟩
    cases addition with
    | binary => rwa [← same]
    | lexical | unit => contradiction

theorem mem_unit_ofCalls {rule : UnitRule} :
    rule ∈ (ofCalls start calls).rules.unit ↔ .unit rule.lhs rule.child ∈ Call.rules calls := by
  rcases rule with ⟨lhs, child⟩
  rw [rules_ofCalls, mem_unit_ofAdditions, Call.rules, List.mem_map]
  constructor
  · intro member
    exact ⟨_, member, rfl⟩
  · rintro ⟨addition, member, same⟩
    cases addition with
    | unit => rwa [← same]
    | lexical | binary => contradiction

/-- Calls whose rules are all given by others make a draft whose rules are all in the other's. -/
theorem included_of_calls {start' : String} {calls' : List Call}
    (given : Call.rules calls ⊆ Call.rules calls') :
    (ofCalls start calls).rules.Included (ofCalls start' calls').rules where
  lexical member := mem_lexical_ofCalls.mpr (given (mem_lexical_ofCalls.mp member))
  binary _ member := mem_binary_ofCalls.mpr (given (mem_binary_ofCalls.mp member))
  unit _ member := mem_unit_ofCalls.mpr (given (mem_unit_ofCalls.mp member))

end Draft

end Cyk
