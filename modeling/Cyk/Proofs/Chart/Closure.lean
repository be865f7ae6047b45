import Cyk.Proofs.Chart.Filling
import Cyk.Proofs.Grammar.Walk
import Mathlib.Order.Bounds.Basic

/-!
# Closing cells under unit rules

The ancestors of a symbol are all symbols above it, not only those one rule away.  So adding the
ancestors of each member once closes a cell under the unit rules, and adds no more than it must.
-/

namespace Cyk

open Relation

/-- A set of nonterminals with the left side of every unit rule whose right side it has. -/
def UnitRule.Closed (rules : List UnitRule) (symbols : Set String) : Prop :=
  ∀ lhs child, Leads rules lhs child → child ∈ symbols → lhs ∈ symbols

/-- The sets that have a cell's nonterminals and are closed under unit rules. -/
def Names.closedSupersets (rules : List UnitRule) (cell : Names) : Set (Set String) :=
  {symbols | {name | name ∈ cell} ⊆ symbols ∧ UnitRule.Closed rules symbols}

/-- A closed set goes up all paths. -/
theorem UnitRule.Closed.mem_of_path {rules : List UnitRule} {symbols : Set String}
    (closed : Closed rules symbols) {name core : String}
    (path : ReflTransGen (Leads rules) name core) (member : core ∈ symbols) : name ∈ symbols := by
  induction path using ReflTransGen.head_induction_on with
  | refl => exact member
  | @head lhs child leads _ ih => exact closed lhs child leads ih

namespace Chart

theorem closed_closeUnits (grammar : Grammar) (cell : Names) :
    UnitRule.Closed grammar.rules.unit {name | name ∈ closeUnits grammar cell} := by
  intro lhs child leads member
  rcases mem_closeUnits.mp member with ⟨core, inCell, path⟩
  exact mem_closeUnits.mpr ⟨core, inCell, ReflTransGen.head leads path⟩

theorem isLeast_closeUnits (grammar : Grammar) (cell : Names) :
    IsLeast (cell.closedSupersets grammar.rules.unit)
      {name | name ∈ closeUnits grammar cell} := by
  refine ⟨⟨?_, closed_closeUnits grammar cell⟩, ?_⟩
  · intro name member
    exact mem_closeUnits.mpr ⟨name, member, ReflTransGen.refl⟩
  · rintro symbols ⟨superset, closed⟩ name member
    rcases mem_closeUnits.mp member with ⟨core, inCell, path⟩
    exact closed.mem_of_path path (superset inCell)

/-- A closed cell has nothing to be added. -/
theorem closeUnits_eq_self {grammar : Grammar} {cell : Names}
    (closed : UnitRule.Closed grammar.rules.unit {name | name ∈ cell}) :
    closeUnits grammar cell = cell := by
  ext name
  rw [mem_closeUnits]
  constructor
  · rintro ⟨core, inCell, path⟩
    exact closed.mem_of_path path inCell
  · intro member
    exact ⟨name, member, ReflTransGen.refl⟩

/-- **Unit rules are followed to their ends.**  Whatever unit rules there are, the walk up from a
symbol is over after at most one round more than there are rules, and the index lists what it has
seen without the symbol itself: in ascending order, and so each once, the other symbols from which
one or more rules lead to it.  Closing a cell once with these lists gives the least closed set that
has the cell's members, and closing it again changes nothing. -/
theorem unit_closure_is_exact (rules : List UnitRule) :
    (∀ symbol,
      (∃ rounds seen, rounds ≤ rules.length + 1 ∧
        Walk.after rules rounds (.start symbol) = some ⟨seen, []⟩ ∧
        (UnitRule.ancestorIndex rules).get symbol = seen.erase symbol) ∧
      ((UnitRule.ancestorIndex rules).get symbol).toList.Pairwise (· < ·) ∧
      ∀ name, name ∈ ((UnitRule.ancestorIndex rules).get symbol).toList ↔
        name ≠ symbol ∧ TransGen (UnitRule.Leads rules) name symbol) ∧
      ∀ (start : String) (lexical : Index) (binary : List BinaryRule) (cell : Names),
        IsLeast (cell.closedSupersets rules)
          {name | name ∈ closeUnits (.ofRules start ⟨lexical, binary, rules⟩) cell} ∧
        closeUnits (.ofRules start ⟨lexical, binary, rules⟩)
            (closeUnits (.ofRules start ⟨lexical, binary, rules⟩) cell) =
          closeUnits (.ofRules start ⟨lexical, binary, rules⟩) cell := by
  constructor
  · intro symbol
    refine ⟨Walk.exists_after_start_eq_ancestors rules symbol, Names.ascending _, ?_⟩
    intro name
    exact UnitRule.mem_get_ancestorIndex
  · intro start lexical binary cell
    exact ⟨isLeast_closeUnits (.ofRules start ⟨lexical, binary, rules⟩) cell,
      closeUnits_eq_self (closed_closeUnits _ cell)⟩

end Chart

end Cyk
