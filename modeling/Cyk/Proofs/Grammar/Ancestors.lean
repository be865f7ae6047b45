import Cyk.Grammar
import Mathlib.Logic.Relation

/-!
# Ancestors through unit rules

The search for the ancestors of a symbol drops the rules of every symbol it has looked at.  A path
that is lost with them passes through a parent that is already waiting, so what is reached from the
waiting symbols does not depend on the order of the search, and cycles do no harm.
-/

namespace Cyk

open Relation

namespace UnitRule

/-- There is a unit rule from a nonterminal to a symbol. -/
def Leads (rules : List UnitRule) (lhs child : String) : Prop :=
  ⟨lhs, child⟩ ∈ rules

theorem mem_parents {rules : List UnitRule} {lhs symbol : String} :
    lhs ∈ parents rules symbol ↔ Leads rules lhs symbol := by
  simp only [parents, Leads, List.mem_map, List.mem_filter, decide_eq_true_eq]
  constructor
  · rintro ⟨⟨_, _⟩, ⟨rule, rfl⟩, rfl⟩
    exact rule
  · intro rule
    exact ⟨_, ⟨rule, rfl⟩, rfl⟩

theorem leads_without {rules : List UnitRule} {symbol lhs child : String} :
    Leads (without rules symbol) lhs child ↔ Leads rules lhs child ∧ child ≠ symbol := by
  simp [without, Leads]

theorem leads_without_le (rules : List UnitRule) (symbol : String) :
    Leads (without rules symbol) ≤ Leads rules :=
  fun _ _ step => (leads_without.mp step).1

/-- A path either avoids the rules of a symbol altogether, or reaches one of the symbol's parents
without them. -/
theorem avoids_or_reaches_parent {rules : List UnitRule} (symbol : String)
    {start target : String} (path : TransGen (Leads rules) start target) :
    (target ≠ symbol ∧ TransGen (Leads (without rules symbol)) start target) ∨
      ∃ parent, Leads rules parent symbol ∧
        ReflTransGen (Leads (without rules symbol)) start parent := by
  -- Induction from the front: the first rule of the path is the new one.
  induction path using TransGen.head_induction_on with
  | single step =>
    by_cases here : target = symbol
    · subst here
      exact Or.inr ⟨_, step, ReflTransGen.refl⟩
    · exact Or.inl ⟨here, TransGen.single (leads_without.mpr ⟨step, here⟩)⟩
  | @head first next step _ ih =>
    by_cases here : next = symbol
    · subst here
      exact Or.inr ⟨first, step, ReflTransGen.refl⟩
    · have kept : Leads (without rules symbol) first next := leads_without.mpr ⟨step, here⟩
      rcases ih with ⟨elsewhere, avoiding⟩ | ⟨parent, last, avoiding⟩
      · exact Or.inl ⟨elsewhere, TransGen.head kept avoiding⟩
      · exact Or.inr ⟨parent, last, ReflTransGen.head kept avoiding⟩

/-- The search adds exactly the symbols from which a path leads to a waiting one. -/
theorem mem_climb {rules : List UnitRule} {reached : Names} {waiting : List String}
    {name : String} :
    name ∈ climb rules reached waiting ↔
      name ∈ reached ∨ ∃ target ∈ waiting, TransGen (Leads rules) name target := by
  induction rules, reached, waiting using climb.induct with
  | case1 rules reached => simp [climb]
  | case2 rules reached symbol waiting ih =>
    rw [climb, ih]
    constructor
    · rintro (known | ⟨target, member, path⟩)
      · rcases Names.mem_insertAll.mp known with parent | known
        · exact Or.inr ⟨symbol, by simp, TransGen.single (mem_parents.mp parent)⟩
        · exact Or.inl known
      · have path : TransGen (Leads rules) name target :=
          TransGen.mono (leads_without_le rules symbol) _ _ path
        rcases List.mem_append.mp member with parent | member
        · exact Or.inr ⟨symbol, by simp, path.tail (mem_parents.mp parent)⟩
        · exact Or.inr ⟨target, by simp [member], path⟩
    · rintro (known | ⟨target, member, path⟩)
      · exact Or.inl (Names.mem_insertAll.mpr (Or.inr known))
      · rcases avoids_or_reaches_parent symbol path with
          ⟨elsewhere, avoiding⟩ | ⟨parent, last, avoiding⟩
        · have member : target ∈ waiting := by simpa [elsewhere] using member
          exact Or.inr ⟨target, by simp [member], avoiding⟩
        · rcases reflTransGen_iff_eq_or_transGen.mp avoiding with rfl | avoiding
          · exact Or.inl (Names.mem_insertAll.mpr (Or.inl (mem_parents.mpr last)))
          · exact Or.inr ⟨parent, by simp [mem_parents.mpr last], avoiding⟩

theorem mem_ancestors {rules : List UnitRule} {symbol name : String} :
    name ∈ ancestors rules symbol ↔ name ≠ symbol ∧ TransGen (Leads rules) name symbol := by
  simp [ancestors, mem_climb, and_comm]

/-- A symbol that some path leads to is the right side of a rule. -/
theorem mem_children_of_path {rules : List UnitRule} {name symbol : String}
    (path : TransGen (Leads rules) name symbol) : symbol ∈ rules.map (·.child) := by
  rcases TransGen.tail'_iff.mp path with ⟨parent, -, last⟩
  exact List.mem_map.mpr ⟨_, last, rfl⟩

/-- The index of ancestors holds the paths of one rule or more between different symbols. -/
theorem mem_get_ancestorIndex {rules : List UnitRule} {symbol name : String} :
    name ∈ (ancestorIndex rules).get symbol ↔
      name ≠ symbol ∧ TransGen (Leads rules) name symbol := by
  simp only [ancestorIndex, Index.mem_get_ofPairs, List.mem_flatMap, List.mem_map,
    Prod.mk.injEq, ← Names.mem_def, Names.mem_ofList]
  constructor
  · rintro ⟨_, -, _, member, rfl, rfl⟩
    exact mem_ancestors.mp member
  · intro above
    have child := mem_children_of_path above.2
    exact ⟨symbol, List.mem_map.mp child, name, mem_ancestors.mpr above, rfl, rfl⟩

end UnitRule

namespace Grammar

theorem mem_get_ancestors {grammar : Grammar} {symbol name : String} :
    name ∈ grammar.ancestors.get symbol ↔
      name ≠ symbol ∧ TransGen (UnitRule.Leads grammar.rules.unit) name symbol := by
  rw [grammar.ancestors_eq]
  exact UnitRule.mem_get_ancestorIndex

theorem mem_get_categories {grammar : Grammar} {terminal name : String} :
    name ∈ grammar.categories.get terminal ↔ terminal ∈ grammar.rules.lexical.get name := by
  rw [grammar.categories_eq]
  exact Index.mem_get_converse

end Grammar

end Cyk
