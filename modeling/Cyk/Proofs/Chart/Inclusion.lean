import Cyk.Chart.View
import Cyk.Proofs.Chart.Counting
import Cyk.Proofs.Grammar.Inclusion

/-!
# Charts of grammars with more rules

A chart shows of its grammar no more than the set of rules and the start symbol, and of its tokens
no more than their texts.  With more rules its cells can only grow; with the same rules, however
they were given, everything stays the same.
-/

namespace Cyk.Chart

variable {grammar other : Grammar} {tokens : List Token}

/-- With more rules, every cell of a filled chart keeps what it had. -/
theorem symbols_fill_mono (included : grammar.rules.Included other.rules) {start len : Nat}
    {symbol : String} (member : symbol ∈ (new grammar tokens).fill.1.symbols start len) :
    symbol ∈ (new other tokens).fill.1.symbols start len := by
  rcases mem_symbols_fill.mp member with ⟨fits, derivation⟩
  exact mem_symbols_fill.mpr ⟨fits, derivation.mono included⟩

/-- The symbols of all spans are the same if each grammar has the rules of the other. -/
theorem symbols_fill_congr (included : grammar.rules.Included other.rules)
    (conversely : other.rules.Included grammar.rules) (tokens : List Token) (start len : Nat) :
    (new grammar tokens).fill.1.symbols start len =
      (new other tokens).fill.1.symbols start len := by
  ext symbol
  exact ⟨symbols_fill_mono included, symbols_fill_mono conversely⟩

section Congruence

variable {chart twin : Chart} (sameTexts : chart.tokens.map (·.text) = twin.tokens.map (·.text))
  (sameSymbols : ∀ start len, chart.symbols start len = twin.symbols start len)

include sameTexts

theorem size_congr : chart.size = twin.size := by
  have sizes := congrArg List.length sameTexts
  rwa [List.length_map, List.length_map] at sizes

include sameSymbols

theorem cell_congr (start len : Nat) : chart.cell start len = twin.cell start len := by
  by_cases fits : Triangle.Fits chart.size start len
  · have fits' := fits
    rw [size_congr sameTexts] at fits'
    rw [cell_eq_some_symbols fits, cell_eq_some_symbols fits', sameSymbols]
  · have none : (chart.cell start len).isSome = false := by
      rwa [← isSome_cell, Bool.not_eq_true] at fits
    have none' : (twin.cell start len).isSome = false := by
      rwa [size_congr sameTexts, ← isSome_cell, Bool.not_eq_true] at fits
    rw [Option.isSome_eq_false_iff, Option.isNone_iff_eq_none] at none none'
    rw [none, none']

theorem entries_congr : chart.entries = twin.entries := by
  have sizes : chart.cellSize = twin.cellSize := by
    funext span
    rw [cellSize, sameSymbols, cellSize]
  rw [entries, entries, size_congr sameTexts, sizes]

variable (sameStart : chart.grammar.start = twin.grammar.start)

include sameStart

theorem accepted_congr : chart.accepted = twin.accepted := by
  rw [accepted, accepted, sameStart, size_congr sameTexts, sameSymbols]

theorem verdict_congr : chart.verdict = twin.verdict := by
  rw [verdict, verdict, accepted_congr sameTexts sameSymbols sameStart, size_congr sameTexts]

theorem view_congr : chart.view = twin.view := by
  have cells : chart.viewCell = twin.viewCell := by
    funext span
    simp only [viewCell, sameSymbols, sameStart]
  rw [view, view, accepted_congr sameTexts sameSymbols sameStart, size_congr sameTexts, cells,
    sameTexts]

end Congruence

/-- **Charts depend on the set of rules only, and grow with it.**  If all rules that some calls give
are given by other calls too, in whatever order and however often, then each cell of the first
grammar's filled chart is part of the second's.  If the calls give the same rules, then the cells
and the counts of what filling adds are equal, and so are the view and the verdict if the start
symbols are. -/
theorem charts_grow_with_rules (start start' : String) (calls calls' : List Call)
    (grammar other : Grammar) (built : (Draft.ofCalls start calls).build = .ok grammar)
    (built' : (Draft.ofCalls start' calls').build = .ok other)
    (given : Call.rules calls ⊆ Call.rules calls') (tokens : List Token) :
    (∀ start len, Triangle.Fits tokens.length start len →
      ∃ cell larger, (new grammar tokens).fill.1.cell start len = some cell ∧
        (new other tokens).fill.1.cell start len = some larger ∧
        ∀ symbol ∈ cell, symbol ∈ larger) ∧
      (Call.rules calls' ⊆ Call.rules calls →
        (∀ start len, (new grammar tokens).fill.1.cell start len =
          (new other tokens).fill.1.cell start len) ∧
        (new grammar tokens).fill.2 = (new other tokens).fill.2 ∧
        (grammar.start = other.start →
          (new grammar tokens).fill.1.view = (new other tokens).fill.1.view ∧
          (new grammar tokens).fill.1.verdict = (new other tokens).fill.1.verdict)) := by
  have included : grammar.rules.Included other.rules := by
    rw [Draft.rules_of_build built, Draft.rules_of_build built']
    exact Draft.included_of_calls given
  have sameTexts : (new grammar tokens).fill.1.tokens.map (·.text) =
      (new other tokens).fill.1.tokens.map (·.text) := by
    rw [tokens_fill, tokens_fill]
  constructor
  · intro start len fits
    have inside : Triangle.Fits (new grammar tokens).fill.1.size start len := by
      rwa [size, tokens_fill]
    have inside' : Triangle.Fits (new other tokens).fill.1.size start len := by
      rwa [size, tokens_fill]
    refine ⟨_, _, cell_eq_some_symbols inside, cell_eq_some_symbols inside', ?_⟩
    intro symbol member
    exact symbols_fill_mono included member
  · intro given'
    have conversely : other.rules.Included grammar.rules := by
      rw [Draft.rules_of_build built, Draft.rules_of_build built']
      exact Draft.included_of_calls given'
    have sameSymbols := symbols_fill_congr included conversely tokens
    constructor
    · exact cell_congr sameTexts sameSymbols
    constructor
    · rw [← entries_fill, ← entries_fill, entries_congr sameTexts sameSymbols]
    · intro sameStart
      rw [← grammar_fill grammar tokens, ← grammar_fill other tokens] at sameStart
      exact ⟨view_congr sameTexts sameSymbols sameStart,
        verdict_congr sameTexts sameSymbols sameStart⟩

/-- A circle of unit rules and a phrase. -/
def circleCalls : List Call :=
  [.add (.binary "S" "A" "B"), .add (.unit "A" "B"), .add (.unit "B" "A"),
    .add (.lexical "A" "Bli  Wayan"), .add (.lexical "B" "pules")]

/-- The same rules backwards, some of them twice and in other letters. -/
def reversedCalls : List Call :=
  [.start "X", .add (.lexical "B" "PULES"), .add (.lexical "A" "bli wayan"),
    .add (.unit "B" "A"), .add (.lexical "B" "pules"), .add (.unit "A" "B"),
    .add (.binary "S" "A" "B"), .start "S", .add (.unit "B" "A")]

theorem charts_grow_with_rules_of_circleCalls :
    ∃ grammar other, (Draft.ofCalls "S" circleCalls).build = .ok grammar ∧
      (Draft.ofCalls "" reversedCalls).build = .ok other ∧
      grammar.rules.unit ≠ other.rules.unit ∧
      ∀ tokens, (new grammar tokens).fill.1.view = (new other tokens).fill.1.view ∧
        (new grammar tokens).fill.2 = (new other tokens).fill.2 := by
  have built : (Draft.ofCalls "S" circleCalls).build =
      .ok (Grammar.ofRules "S" (Draft.ofCalls "S" circleCalls).rules) :=
    Draft.build_eq_ok_iff.mpr ⟨by decide +kernel, rfl⟩
  have built' : (Draft.ofCalls "" reversedCalls).build =
      .ok (Grammar.ofRules "S" (Draft.ofCalls "" reversedCalls).rules) :=
    Draft.build_eq_ok_iff.mpr ⟨by decide +kernel, rfl⟩
  have rules : Call.rules circleCalls =
      [.binary "S" "A" "B", .unit "A" "B", .unit "B" "A", .lexical "A" "bli wayan",
        .lexical "B" "pules"] := by decide +kernel
  have rules' : Call.rules reversedCalls =
      [.lexical "B" "pules", .lexical "A" "bli wayan", .unit "B" "A", .lexical "B" "pules",
        .unit "A" "B", .binary "S" "A" "B", .unit "B" "A"] := by decide +kernel
  have given : Call.rules circleCalls ⊆ Call.rules reversedCalls := by
    rw [rules, rules']
    decide
  have given' : Call.rules reversedCalls ⊆ Call.rules circleCalls := by
    rw [rules, rules']
    decide
  -- Through the start symbol itself: comparing the two grammars would compare all of their rules.
  have sameStart : (Grammar.ofRules "S" (Draft.ofCalls "S" circleCalls).rules).start =
      (Grammar.ofRules "S" (Draft.ofCalls "" reversedCalls).rules).start :=
    Eq.trans (rfl : _ = "S") rfl
  refine ⟨_, _, built, built', by decide +kernel, ?_⟩
  intro tokens
  rcases (charts_grow_with_rules _ _ _ _ _ _ built built' given tokens).2 given' with
    ⟨-, counts, alike⟩
  exact ⟨(alike sameStart).1, counts⟩

end Cyk.Chart
