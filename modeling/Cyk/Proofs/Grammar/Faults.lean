import Cyk.Proofs.Grammar.Build

/-!
# The faults of a draft

Which fault is found in a draft, and when there is none: each check finds the first offender in its
own order, and a check is only made where those before it find nothing.
-/

namespace Cyk.Draft

variable {draft : Draft} {fault : GrammarError}

theorem build_eq_error_iff : draft.build = .error fault ↔ draft.fault? = some fault := by
  unfold build
  cases draft.fault? with
  | none => simp
  | some other => simp

/-! ## Empty terminals -/

theorem emptyTerminal?_eq_none_iff :
    draft.emptyTerminal? = none ↔ ∀ lhs, "" ∉ draft.rules.lexical.get lhs := by
  rw [emptyTerminal?, Option.map_eq_none_iff, List.find?_eq_none]
  simp only [decide_eq_true_eq]
  constructor
  · intro none lhs member
    exact none lhs (Index.mem_keys.mpr ⟨"", member⟩) member
  · intro none lhs _
    exact none lhs

/-- Of the left sides that have an empty terminal, the smallest is found. -/
theorem emptyTerminal?_eq_some_iff :
    draft.emptyTerminal? = some fault ↔
      ∃ lhs, "" ∈ draft.rules.lexical.get lhs ∧
        (∀ other, "" ∈ draft.rules.lexical.get other → lhs ≤ other) ∧
          fault = .emptyTerminal lhs := by
  simp only [emptyTerminal?, Option.map_eq_some_iff, List.find?_eq_some_iff_append,
    decide_eq_true_eq, Bool.not_eq_true', decide_eq_false_iff_not]
  constructor
  · rintro ⟨lhs, ⟨empty, before, after, keys, earlier⟩, rfl⟩
    refine ⟨lhs, empty, ?_, rfl⟩
    intro other empty'
    have ascending := draft.rules.lexical.keys_ascending
    have listed : other ∈ draft.rules.lexical.keys := Index.mem_keys.mpr ⟨"", empty'⟩
    rw [keys] at ascending listed
    rcases List.mem_append.mp listed with inFront | behind
    · exact absurd empty' (earlier other inFront)
    · rcases List.mem_cons.mp behind with rfl | inBack
      · exact String.le_refl _
      · have after := (List.pairwise_cons.mp (List.pairwise_append.mp ascending).2.1).1
        exact String.not_lt.mp (String.lt_asymm (after other inBack))
  · rintro ⟨lhs, empty, least, rfl⟩
    refine ⟨lhs, ⟨empty, ?_⟩, rfl⟩
    have ascending := draft.rules.lexical.keys_ascending
    rcases List.append_of_mem (Index.mem_keys.mpr ⟨"", empty⟩) with ⟨before, after, keys⟩
    refine ⟨before, after, keys, ?_⟩
    intro other inFront empty'
    rw [keys] at ascending
    have smaller : other < lhs :=
      (List.pairwise_append.mp ascending).2.2 other inFront lhs List.mem_cons_self
    exact String.not_le.mpr smaller (least other empty')

/-! ## Symbols without rules -/

theorem forall_references_iff {rules : Rules} {holds : String → Prop} :
    (∀ reference ∈ rules.references, holds reference.1) ↔
      (∀ rule ∈ rules.binary, holds rule.left ∧ holds rule.right) ∧
        ∀ rule ∈ rules.unit, holds rule.child := by
  rw [Rules.references, List.forall_mem_append, List.forall_mem_flatMap, List.forall_mem_map]
  simp only [List.mem_cons, List.not_mem_nil, or_false, forall_eq_or_imp, forall_eq]

theorem isDefined_eq_false_iff {symbol : String} :
    draft.rules.isDefined symbol = false ↔ symbol ∉ draft.rules.nonterminals := by
  rw [← Rules.isDefined_iff, Bool.not_eq_true]

theorem undefinedNonterminal?_eq_none_iff :
    draft.undefinedNonterminal? = none ↔
      ∀ reference ∈ draft.rules.references, reference.1 ∈ draft.rules.nonterminals := by
  simp [undefinedNonterminal?, Rules.isDefined_iff]

theorem undefinedNonterminal?_eq_some_iff :
    draft.undefinedNonterminal? = some fault ↔
      ∃ before symbol rule after, draft.rules.references = before ++ (symbol, rule) :: after ∧
        (∀ earlier ∈ before, earlier.1 ∈ draft.rules.nonterminals) ∧
          symbol ∉ draft.rules.nonterminals ∧ fault = .undefinedNonterminal symbol rule := by
  simp only [undefinedNonterminal?, Option.map_eq_some_iff, List.find?_eq_some_iff_append,
    Bool.not_eq_true', Bool.not_not, isDefined_eq_false_iff, Rules.isDefined_iff]
  constructor
  · rintro ⟨⟨symbol, rule⟩, ⟨missing, before, after, references, earlier⟩, rfl⟩
    exact ⟨before, symbol, rule, after, references, earlier, missing, rfl⟩
  · rintro ⟨before, symbol, rule, after, references, earlier, missing, rfl⟩
    exact ⟨(symbol, rule), ⟨missing, before, after, references, earlier⟩, rfl⟩

theorem undefinedStart?_eq_none_iff :
    draft.undefinedStart? = none ↔ draft.start ∈ draft.rules.nonterminals := by
  simp [undefinedStart?, Rules.isDefined_iff]

theorem undefinedStart?_eq_some_iff :
    draft.undefinedStart? = some fault ↔
      draft.start ∉ draft.rules.nonterminals ∧ fault = .undefinedStart draft.start := by
  rw [← isDefined_eq_false_iff, undefinedStart?]
  cases draft.rules.isDefined draft.start with
  | true => simp
  | false => simp [eq_comm]

/-! ## All checks in a row -/

theorem fault?_eq_some_iff :
    draft.fault? = some fault ↔
      draft.emptyTerminal? = some fault ∨
        draft.emptyTerminal? = none ∧
          (draft.undefinedNonterminal? = some fault ∨
            draft.undefinedNonterminal? = none ∧ draft.undefinedStart? = some fault) := by
  unfold fault?
  cases draft.emptyTerminal? with
  | some found => simp
  | none =>
    cases draft.undefinedNonterminal? with
    | some found => simp
    | none => simp

theorem fault?_eq_none_iff :
    draft.fault? = none ↔
      (∀ lhs, "" ∉ draft.rules.lexical.get lhs) ∧
        (∀ reference ∈ draft.rules.references, reference.1 ∈ draft.rules.nonterminals) ∧
          draft.start ∈ draft.rules.nonterminals := by
  rw [← emptyTerminal?_eq_none_iff, ← undefinedNonterminal?_eq_none_iff,
    ← undefinedStart?_eq_none_iff]
  unfold fault?
  cases draft.emptyTerminal? with
  | some found => simp
  | none =>
    cases draft.undefinedNonterminal? with
    | some found => simp
    | none => simp

end Cyk.Draft
