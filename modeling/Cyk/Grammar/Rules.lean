import Cyk.Index

/-!
# Rules

The rules of a grammar in Chomsky normal form, with unit rules beside them: a nonterminal stands
for a terminal, for two nonterminals, or for one.
-/

namespace Cyk

/-- A nonterminal that stands for two in a row. -/
structure BinaryRule where
  lhs : String
  left : String
  right : String
deriving DecidableEq, Repr

/-- A nonterminal that stands for another. -/
structure UnitRule where
  lhs : String
  child : String
deriving DecidableEq, Repr

/-- The rule as a definition writes it. -/
def BinaryRule.text (rule : BinaryRule) : String :=
  rule.lhs ++ " -> " ++ rule.left ++ " " ++ rule.right

/-- The rule as a definition writes it. -/
def UnitRule.text (rule : UnitRule) : String :=
  rule.lhs ++ " -> " ++ rule.child

/-- The list with a rule at its end, unless it has that rule already. -/
def addOnce {Rule : Type} [DecidableEq Rule] (rules : List Rule) (rule : Rule) : List Rule :=
  if rule ∈ rules then rules else rules ++ [rule]

@[simp]
theorem mem_addOnce {Rule : Type} [DecidableEq Rule] {rules : List Rule} {rule other : Rule} :
    other ∈ addOnce rules rule ↔ other ∈ rules ∨ other = rule := by
  unfold addOnce
  split
  · rename_i known
    exact ⟨Or.inl, fun either => either.elim id fun same => same ▸ known⟩
  · simp

/-- Lexical rules by their left sides, and the other rules in the order they were first given. -/
structure Rules where
  lexical : Index := ∅
  binary : List BinaryRule := []
  unit : List UnitRule := []
deriving DecidableEq

namespace Rules

/-- Whether a nonterminal is the left side of a rule. -/
def isDefined (rules : Rules) (symbol : String) : Bool :=
  decide (symbol ∈ rules.lexical.keys) || rules.binary.any (·.lhs == symbol) ||
    rules.unit.any (·.lhs == symbol)

/-- The left sides of all rules. -/
def nonterminals (rules : Rules) : Names :=
  .ofList (rules.lexical.keys ++ rules.binary.map (·.lhs) ++ rules.unit.map (·.lhs))

/-- Every nonterminal on a right side, with the text of its rule: binary rules first, and the left
one of a pair before the right one. -/
def references (rules : Rules) : List (String × String) :=
  rules.binary.flatMap (fun rule => [(rule.left, rule.text), (rule.right, rule.text)]) ++
    rules.unit.map (fun rule => (rule.child, rule.text))

theorem isDefined_iff {rules : Rules} {symbol : String} :
    rules.isDefined symbol = true ↔ symbol ∈ rules.nonterminals := by
  simp [isDefined, nonterminals, or_assoc]

end Rules

end Cyk
