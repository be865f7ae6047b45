import Cyk.Proofs.Grammar.Ancestors
import Cyk.Proofs.Grammar.Calls
import Cyk.Proofs.Grammar.Faults
import Cyk.Proofs.Grammar.Phrases

/-!
# What holds of every grammar

A grammar comes from a draft without faults, and may afterwards be given other start symbols.  Its
rules never change on the way, so what the checks made sure of stays true, and the tables that go
with the rules agree with them.
-/

namespace Cyk

open Text

/-- The grammars that come from a draft: the one that is built, and any that starts elsewhere. -/
inductive Draft.Yields (draft : Draft) : Grammar → Prop
  | built {grammar : Grammar} (success : draft.build = .ok grammar) : Yields draft grammar
  | startingAt {grammar other : Grammar} {start : String} (earlier : Yields draft grammar)
    (moved : grammar.startingAt start = .ok other) : Yields draft other

/-- What the parts of a grammar have to do with each other. -/
structure Grammar.WellFormed (grammar : Grammar) : Prop where
  start_defined : grammar.start ∈ grammar.rules.nonterminals
  binary_defined : ∀ rule ∈ grammar.rules.binary,
    rule.left ∈ grammar.rules.nonterminals ∧ rule.right ∈ grammar.rules.nonterminals
  unit_defined : ∀ rule ∈ grammar.rules.unit, rule.child ∈ grammar.rules.nonterminals
  lexical_filled : ∀ lhs ∈ grammar.rules.lexical.keys,
    ∃ terminal, terminal ∈ grammar.rules.lexical.get lhs
  terminals_normal : ∀ lhs terminal, terminal ∈ grammar.rules.lexical.get lhs →
    IsNormalTerminal terminal
  binary_nodup : grammar.rules.binary.Nodup
  unit_nodup : grammar.rules.unit.Nodup
  categories_agree : ∀ terminal symbol,
    symbol ∈ grammar.categories.get terminal ↔ terminal ∈ grammar.rules.lexical.get symbol
  /-- The phrases are the terminals of more than one word. -/
  mem_phrases : ∀ phrase, phrase ∈ grammar.phrases ↔
    (∃ lhs, phrase ∈ grammar.rules.lexical.get lhs) ∧ 1 < (splitWords phrase).length
  phrases_nodup : grammar.phrases.Nodup
  phrases_sorted : grammar.phrases.Pairwise Phrases.Precedes
  /-- In whatever order the terminals are listed, sorting them gives the same phrases. -/
  phrases_unique : ∀ order : List String, order.Perm grammar.categories.keys →
    Phrases.longestFirst order = grammar.phrases

/-! ## Other start symbols -/

theorem Grammar.startingAt_eq_ok_iff {grammar other : Grammar} {start : String} :
    grammar.startingAt start = .ok other ↔
      start ∈ grammar.rules.nonterminals ∧ other = { grammar with start } := by
  rw [← Rules.isDefined_iff, startingAt]
  cases grammar.rules.isDefined start with
  | true => simp [eq_comm]
  | false => simp

namespace Draft.Yields

variable {draft : Draft} {grammar : Grammar}

theorem rules_eq (yields : draft.Yields grammar) : grammar.rules = draft.rules := by
  induction yields with
  | built success => exact rules_of_build success
  | startingAt _ moved ih =>
    rcases Grammar.startingAt_eq_ok_iff.mp moved with ⟨-, rfl⟩
    exact ih

/-- The checks of the draft were passed before any grammar came of it. -/
theorem fault?_eq_none (yields : draft.Yields grammar) : draft.fault? = none := by
  induction yields with
  | built success => exact (build_eq_ok_iff.mp success).1
  | startingAt _ _ ih => exact ih

theorem start_defined (yields : draft.Yields grammar) :
    grammar.start ∈ grammar.rules.nonterminals := by
  cases yields with
  | built success =>
    rcases build_eq_ok_iff.mp success with ⟨faultless, rfl⟩
    exact (fault?_eq_none_iff.mp faultless).2.2
  | startingAt _ moved =>
    rcases Grammar.startingAt_eq_ok_iff.mp moved with ⟨defined, rfl⟩
    exact defined

theorem references_defined (yields : draft.Yields grammar) :
    ∀ reference ∈ grammar.rules.references, reference.1 ∈ grammar.rules.nonterminals := by
  rw [yields.rules_eq]
  exact (fault?_eq_none_iff.mp yields.fault?_eq_none).2.1

/-- Another draft with the same rules lacks nothing but, perhaps, its start symbol. -/
theorem build_eq_ok {other : Draft} (yields : draft.Yields grammar)
    (same : other.rules = draft.rules) (defined : other.start ∈ grammar.rules.nonterminals) :
    other.build = .ok { grammar with start := other.start } := by
  rcases fault?_eq_none_iff.mp yields.fault?_eq_none with ⟨filled, referenced, -⟩
  rw [yields.rules_eq, ← same] at defined
  rw [← same] at filled referenced
  apply build_eq_ok_iff.mpr
  constructor
  · exact fault?_eq_none_iff.mpr ⟨filled, referenced, defined⟩
  · rw [same, ← yields.rules_eq]
    exact Grammar.eq_ofRules _

end Draft.Yields

/-! ## The rules of calls -/

section Calls

variable {start : String} {calls : List Call} {grammar : Grammar}

theorem rules_of_yields (yields : (Draft.ofCalls start calls).Yields grammar) :
    grammar.rules = (Draft.ofAdditions start (calls.filterMap Call.addition?)).rules := by
  rw [yields.rules_eq, Draft.rules_ofCalls]

theorem isNormalTerminal_of_yields (yields : (Draft.ofCalls start calls).Yields grammar)
    {lhs terminal : String} (member : terminal ∈ grammar.rules.lexical.get lhs) :
    IsNormalTerminal terminal := by
  have nonempty : terminal ≠ "" := by
    rintro rfl
    rw [yields.rules_eq] at member
    exact (Draft.fault?_eq_none_iff.mp yields.fault?_eq_none).1 lhs member
  rw [rules_of_yields yields] at member
  rcases Draft.mem_lexical_ofAdditions.mp member with ⟨given, -, rfl⟩
  exact isNormalTerminal_normalizeTerminal nonempty

end Calls

/-! ## The tables -/

namespace Grammar

variable {grammar : Grammar}

theorem mem_categories_keys {terminal : String} :
    terminal ∈ grammar.categories.keys ↔ ∃ lhs, terminal ∈ grammar.rules.lexical.get lhs := by
  rw [Index.mem_keys]
  simp only [mem_get_categories]

/-- The phrases of a grammar with terminals in normal form. -/
theorem mem_phrases_iff
    (normal : ∀ lhs terminal, terminal ∈ grammar.rules.lexical.get lhs →
      IsNormalTerminal terminal)
    {phrase : String} :
    phrase ∈ grammar.phrases ↔
      (∃ lhs, phrase ∈ grammar.rules.lexical.get lhs) ∧ 1 < (splitWords phrase).length := by
  rw [grammar.phrases_eq, Phrases.mem_longestFirst, mem_categories_keys]
  intro terminal listed
  rcases mem_categories_keys.mp listed with ⟨lhs, member⟩
  exact normal lhs terminal member

theorem phrases_pairwise
    (normal : ∀ lhs terminal, terminal ∈ grammar.rules.lexical.get lhs →
      IsNormalTerminal terminal) :
    grammar.phrases.Pairwise Phrases.Precedes := by
  rw [grammar.phrases_eq]
  refine Phrases.pairwise_precedes ?_ grammar.categories.nodup_keys
  intro terminal listed
  rcases mem_categories_keys.mp listed with ⟨lhs, member⟩
  exact normal lhs terminal member

end Grammar

theorem Grammar.wellFormed_of_yields {start : String} {calls : List Call} {grammar : Grammar}
    (yields : (Draft.ofCalls start calls).Yields grammar) : grammar.WellFormed where
  start_defined := yields.start_defined
  binary_defined := (Draft.forall_references_iff.mp yields.references_defined).1
  unit_defined := (Draft.forall_references_iff.mp yields.references_defined).2
  lexical_filled _ listed := Index.mem_keys.mp listed
  terminals_normal _ _ := isNormalTerminal_of_yields yields
  binary_nodup := by
    rw [rules_of_yields yields, Draft.binary_ofAdditions]
    exact nodup_eraseDups _
  unit_nodup := by
    rw [rules_of_yields yields, Draft.unit_ofAdditions]
    exact nodup_eraseDups _
  categories_agree _ _ := mem_get_categories
  mem_phrases _ := mem_phrases_iff fun _ _ => isNormalTerminal_of_yields yields
  phrases_nodup := by
    rw [grammar.phrases_eq]
    exact Phrases.nodup_longestFirst grammar.categories.nodup_keys
  phrases_sorted := phrases_pairwise fun _ _ => isNormalTerminal_of_yields yields
  phrases_unique _ same := by
    rw [grammar.phrases_eq]
    exact Phrases.longestFirst_eq_of_perm same

/-- Every grammar is well formed, whatever calls it was made by and however often it was given
another start symbol; and it keeps the binary and the unit rules in the order of their first calls,
each of them once. -/
theorem Grammar.grammar_of_calls_is_wellFormed (start : String) (calls : List Call)
    (grammar : Grammar) (yields : (Draft.ofCalls start calls).Yields grammar) :
    grammar.WellFormed ∧
      grammar.rules.binary =
        ((calls.filterMap Call.addition?).filterMap Addition.binary?).eraseDups ∧
      grammar.rules.unit =
        ((calls.filterMap Call.addition?).filterMap Addition.unit?).eraseDups := by
  constructor
  · exact wellFormed_of_yields yields
  constructor
  · rw [rules_of_yields yields, Draft.binary_ofAdditions]
  · rw [rules_of_yields yields, Draft.unit_ofAdditions]

namespace Grammar

/-- Rules given twice and out of order, capitals with and without a form of their own, phrases of
equal length, and a start symbol that has no rules until the last call. -/
def shuffledCalls : List Call :=
  [.start "X", .add (.binary "S" "S" "N"), .add (.lexical "N" "  ΣΑΣ\tİsa"),
    .add (.unit "N" "S"), .add (.binary "S" "N" "N"), .add (.lexical "N" "Uli  MARA"),
    .add (.binary "S" "S" "N"), .add (.lexical "S" "mara pisan"), .start "S",
    .add (.unit "N" "S"), .add (.lexical "N" "a b c"), .add (.lexical "S" "A\u2003b C")]

theorem grammar_of_calls_is_wellFormed_of_shuffledCalls :
    ∃ grammar, (Draft.ofCalls "" shuffledCalls).Yields grammar ∧ grammar.start = "N" ∧
      grammar.WellFormed ∧ grammar.rules.binary = [⟨"S", "S", "N"⟩, ⟨"S", "N", "N"⟩] := by
  have built : (Draft.ofCalls "" shuffledCalls).build =
      .ok (Grammar.ofRules "S" (Draft.ofCalls "" shuffledCalls).rules) :=
    Draft.build_eq_ok_iff.mpr ⟨by decide +kernel, rfl⟩
  have moved : (Grammar.ofRules "S" (Draft.ofCalls "" shuffledCalls).rules).startingAt "N" =
      .ok { Grammar.ofRules "S" (Draft.ofCalls "" shuffledCalls).rules with start := "N" } :=
    startingAt_eq_ok_iff.mpr ⟨by decide +kernel, rfl⟩
  have yields := (Draft.Yields.built built).startingAt moved
  rcases grammar_of_calls_is_wellFormed _ _ _ yields with ⟨wellFormed, binary, -⟩
  refine ⟨_, yields, rfl, wellFormed, ?_⟩
  rw [binary]
  decide

end Grammar

end Cyk
