import Cyk.Grammar.Rules

/-!
# Chains of unit rules

Which nonterminals lead to a given one through unit rules alone.  The search goes from right sides
to left sides and uses each rule once, so it ends on cycles too.
-/

namespace Cyk.UnitRule

/-- The left sides of the rules that lead to a symbol. -/
def parents (rules : List UnitRule) (symbol : String) : List String :=
  (rules.filter (·.child = symbol)).map (·.lhs)

/-- The rules that do not lead to a symbol. -/
def without (rules : List UnitRule) (symbol : String) : List UnitRule :=
  rules.filter (·.child ≠ symbol)

theorem length_parents_add_length_without (rules : List UnitRule) (symbol : String) :
    (parents rules symbol).length + (without rules symbol).length = rules.length := by
  induction rules with
  | nil => rfl
  | cons rule rest ih =>
    by_cases same : rule.child = symbol <;> simp_all [parents, without] <;> omega

/-- Everything reached so far and all that leads to the waiting symbols.  A symbol that has been
looked at takes its rules with it. -/
def climb (rules : List UnitRule) (reached : Names) : List String → Names
  | [] => reached
  | symbol :: waiting =>
    climb (without rules symbol) (reached.insertAll (parents rules symbol))
      (parents rules symbol ++ waiting)
termination_by waiting => rules.length + waiting.length
decreasing_by
  have := length_parents_add_length_without rules symbol
  simp only [List.length_append, List.length_cons]
  omega

/-- The nonterminals other than `symbol` from which unit rules lead to it. -/
def ancestors (rules : List UnitRule) (symbol : String) : Names :=
  (climb rules ∅ [symbol]).erase symbol

/-- The ancestors of every right side. -/
def ancestorIndex (rules : List UnitRule) : Index :=
  .ofPairs <| (Names.ofList (rules.map (·.child))).toList.flatMap fun child =>
    (ancestors rules child).toList.map (child, ·)

end Cyk.UnitRule
