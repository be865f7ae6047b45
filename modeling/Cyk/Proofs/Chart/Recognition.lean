import Cyk.Proofs.Chart.Filling
import Cyk.Proofs.Grammar.Build

/-!
# Charts recognize what the grammar derives

The cells of a filled chart and the verdict drawn from them, compared with derivability by the rules
that were given for the grammar.
-/

namespace Cyk.Chart

theorem tokens_fill (grammar : Grammar) (tokens : List Token) :
    (new grammar tokens).fill.1.tokens = tokens :=
  tokens_fillSpans _ _

theorem grammar_fill (grammar : Grammar) (tokens : List Token) :
    (new grammar tokens).fill.1.grammar = grammar :=
  grammar_fillSpans _ _

/-- A span that fits has a cell, and its members are the symbols of the span. -/
theorem cell_eq_some_symbols {chart : Chart} {start len : Nat}
    (fits : Triangle.Fits chart.size start len) :
    chart.cell start len = some (chart.symbols start len) := by
  rcases Option.isSome_iff_exists.mp ((chart.isSome_cell start len).mpr fits) with ⟨names, found⟩
  rw [symbols, found, Option.getD_some]

/-- A filled chart accepts exactly the nonempty sentences that its start symbol derives. -/
theorem accepted_fill_iff {grammar : Grammar} {tokens : List Token} :
    (new grammar tokens).fill.1.accepted = true ↔
      tokens ≠ [] ∧ Derives grammar.rules grammar.start (tokens.map (·.text)) := by
  have width : (new grammar tokens).fill.1.size = tokens.length := by
    rw [size, tokens_fill]
  rw [accepted, decide_eq_true_eq, grammar_fill, width, mem_symbols_fill, spanTexts_all]
  apply and_congr_left
  intro _
  rw [← List.length_pos_iff]
  constructor
  · intro fits
    exact fits.2.1
  · intro nonempty
    exact ⟨Nat.le_refl 1, nonempty, Nat.le_of_eq (Nat.add_comm 1 _)⟩

/-- Filling decides derivability: whatever rules a grammar was built from, with cycles of unit
rules, recursion, ambiguity or symbols out of reach, every cell of a filled chart holds the
nonterminals that derive the texts of its span and no others, and the chart accepts a sentence just
when it has tokens and the start symbol derives all of them. -/
theorem filled_chart_decides_derivability (draft : Draft) (grammar : Grammar)
    (built : draft.build = .ok grammar) (tokens : List Token) :
    (grammar.start = draft.start ∧ grammar.rules = draft.rules) ∧
      (∀ start len, Triangle.Fits tokens.length start len →
        ∃ cell, (new grammar tokens).fill.1.cell start len = some cell ∧
          ∀ symbol, symbol ∈ cell ↔
            Derives grammar.rules symbol (spanTexts tokens start len)) ∧
      ((new grammar tokens).fill.1.accepted = true ↔
        tokens ≠ [] ∧ Derives grammar.rules grammar.start (tokens.map (·.text))) := by
  constructor
  · exact ⟨Draft.start_of_build built, Draft.rules_of_build built⟩
  constructor
  · intro start len fits
    have inside : Triangle.Fits (new grammar tokens).fill.1.size start len := by
      rwa [size, tokens_fill]
    apply Exists.intro
    constructor
    · exact cell_eq_some_symbols inside
    · intro symbol
      rw [mem_symbols_fill]
      exact and_iff_right fits
  · exact accepted_fill_iff

/-- A nonterminal that doubles itself, on a circle of two unit rules, with one out of reach. -/
def circularDraft : Draft :=
  Draft.ofAdditions "S"
    [.binary "S" "S" "S", .unit "S" "A", .unit "A" "S", .lexical "A" "A", .binary "U" "U" "S"]

theorem filled_chart_decides_derivability_of_circle :
    ∃ grammar, circularDraft.build = .ok grammar ∧
      ∃ cell, (new grammar [⟨"a", 7, ⟨0, 1⟩⟩, ⟨"a", 3, ⟨2, 3⟩⟩]).fill.1.cell 1 2 = some cell ∧
        ∀ symbol, symbol ∈ cell ↔ Derives grammar.rules symbol ["a", "a"] := by
  have built : circularDraft.build =
      .ok (Grammar.ofRules circularDraft.start circularDraft.rules) :=
    Draft.build_eq_ok_iff.mpr ⟨by decide +kernel, rfl⟩
  have decided := filled_chart_decides_derivability _ _ built
    [⟨"a", 7, ⟨0, 1⟩⟩, ⟨"a", 3, ⟨2, 3⟩⟩]
  exact ⟨_, built, decided.2.1 1 2 (by decide)⟩

end Cyk.Chart
