import Cyk.Proofs.Chart.LifeCycle
import Cyk.Proofs.Chart.View
import Cyk.Proofs.Checker.Unknown

/-!
# Other start symbols

A grammar that is given another start symbol keeps its rules and its tables.  No step of filling a
chart asks for the start symbol, so the same is done for both grammars; only the verdict and the
marks in the view look for another nonterminal, and they look for it in the same cells.
-/

namespace Cyk

/-! ## Charts -/

namespace Chart

/-- The chart with another start symbol. -/
def startingAt (chart : Chart) (start : String) : Chart :=
  { chart with grammar := { chart.grammar with start } }

variable (chart : Chart) (symbol : String)

/-- Filling a span does not ask for the start symbol. -/
theorem fillSpan_startingAt (span : Nat × Nat) :
    (chart.startingAt symbol).fillSpan span = (chart.fillSpan span).startingAt symbol := by
  have found : (chart.startingAt symbol).found span.1 span.2 = chart.found span.1 span.2 := rfl
  rw [fillSpan, found]
  rfl

theorem fillSpans_startingAt (spans : List (Nat × Nat)) :
    (chart.startingAt symbol).fillSpans spans =
      ((chart.fillSpans spans).1.startingAt symbol, (chart.fillSpans spans).2) := by
  induction spans generalizing chart with
  | nil => rfl
  | cons span rest ih =>
    simp only [fillSpans, fillSpan_startingAt, ih]
    rfl

theorem fill_startingAt :
    (chart.startingAt symbol).fill = (chart.fill.1.startingAt symbol, chart.fill.2) :=
  fillSpans_startingAt chart symbol (spans chart.size)

theorem afterFills_startingAt (grammar : Grammar) (tokens : List Token) (times : Nat) :
    afterFills { grammar with start := symbol } tokens times =
      (afterFills grammar tokens times).startingAt symbol := by
  induction times with
  | zero => rfl
  | succ times ih => rw [afterFills, ih, fill_startingAt, afterFills]

/-- The verdict looks for the other symbol in the cell of the whole sentence. -/
theorem accepted_startingAt_iff {chart : Chart} {symbol : String} (nonempty : chart.tokens ≠ []) :
    (chart.startingAt symbol).accepted = true ↔
      ∃ symbols, chart.cell 1 chart.tokens.length = some symbols ∧ symbol ∈ symbols := by
  have positive : 1 ≤ chart.size := List.length_pos_iff.mpr nonempty
  have fits : Triangle.Fits chart.size 1 chart.size :=
    ⟨Nat.le_refl 1, positive, Nat.le_of_eq (Nat.add_comm 1 _)⟩
  have looked : (chart.startingAt symbol).accepted = decide (symbol ∈ chart.symbols 1 chart.size) :=
    rfl
  have whole : chart.cell 1 chart.tokens.length = some (chart.symbols 1 chart.size) :=
    cell_eq_some_symbols fits
  rw [looked, whole, decide_eq_true_eq]
  simp only [Option.some.injEq, exists_eq_left']

/-- The view marks other cells, and is the same otherwise. -/
theorem cells_view_startingAt :
    (chart.startingAt symbol).view.cells =
      chart.view.cells.map fun cell =>
        { cell with hasStart := symbol ∈ chart.symbols cell.start cell.len } := by
  rw [view, view, List.map_map]
  rfl

end Chart

/-! ## Grammars and checkers -/

theorem Grammar.startingAt_eq_error {grammar : Grammar} {symbol : String}
    (undefined : symbol ∉ grammar.rules.nonterminals) :
    grammar.startingAt symbol = .error (.undefinedStart symbol) := by
  rw [← Rules.isDefined_iff] at undefined
  rw [startingAt, if_neg undefined]

theorem Checker.startingAt_eq_ok {checker : Checker} {start : String}
    (defined : start ∈ checker.grammar.rules.nonterminals) :
    checker.startingAt start = .ok (ofGrammar { checker.grammar with start }) := by
  rw [startingAt, Grammar.startingAt_eq_ok_iff.mpr ⟨defined, rfl⟩]
  rfl

/-- Two grammars that differ in their start symbols only: they take sentences apart alike, their
charts are alike however often they are filled, and each can be made into the other. -/
structure Grammar.DifferInStart (grammar other : Grammar) : Prop where
  tokenize_eq : ∀ sentence,
    (Checker.ofGrammar other).tokenize sentence = (Checker.ofGrammar grammar).tokenize sentence
  cell_eq : ∀ tokens times start len,
    (Chart.afterFills other tokens times).cell start len =
      (Chart.afterFills grammar tokens times).cell start len
  count_eq : ∀ tokens times,
    (Chart.afterFills other tokens times).fill.2 = (Chart.afterFills grammar tokens times).fill.2
  accepted_iff : ∀ tokens times, tokens ≠ [] →
    ((Chart.afterFills other tokens times).accepted = true ↔
      ∃ symbols, (Chart.afterFills grammar tokens times).cell 1 tokens.length = some symbols ∧
        other.start ∈ symbols)
  /-- In the view, the cells with the other start symbol are marked, and nothing else changes. -/
  cells_view_eq : ∀ tokens times,
    (Chart.afterFills other tokens times).view.cells =
      (Chart.afterFills grammar tokens times).view.cells.map fun cell =>
        { cell with
          hasStart :=
            other.start ∈ (Chart.afterFills grammar tokens times).symbols cell.start cell.len }
  startingAt_eq : (Checker.ofGrammar grammar).startingAt other.start = .ok (Checker.ofGrammar other)
  startingAt_eq' : other.startingAt grammar.start = .ok grammar

theorem Grammar.differInStart {grammar : Grammar} {symbol : String}
    (defined : symbol ∈ grammar.rules.nonterminals)
    (before : grammar.start ∈ grammar.rules.nonterminals) :
    grammar.DifferInStart { grammar with start := symbol } where
  tokenize_eq _ := rfl
  cell_eq tokens times start len := by
    rw [Chart.afterFills_startingAt]
    rfl
  count_eq tokens times := by
    rw [Chart.afterFills_startingAt, Chart.fill_startingAt]
  accepted_iff tokens times nonempty := by
    have accepts := @Chart.accepted_startingAt_iff (Chart.afterFills grammar tokens times) symbol
    rw [Chart.tokens_afterFills] at accepts
    rw [Chart.afterFills_startingAt]
    exact accepts nonempty
  cells_view_eq tokens times := by
    rw [Chart.afterFills_startingAt]
    exact Chart.cells_view_startingAt _ symbol
  startingAt_eq := Checker.startingAt_eq_ok defined
  startingAt_eq' := startingAt_eq_ok_iff.mpr ⟨before, rfl⟩

/-- **Another start symbol is another question and nothing else.**  A grammar, however it was made,
can be given any start symbol that is the left side of a rule, and no other.  What comes of it is
the grammar that the same calls make with this start symbol from the beginning, or with a last call
that names it. -/
theorem Grammar.start_symbol_is_only_asked_for (start : String) (calls : List Call)
    (grammar : Grammar) (yields : (Draft.ofCalls start calls).Yields grammar) (symbol : String) :
    ((∃ other, grammar.startingAt symbol = .ok other) ↔ symbol ∈ grammar.rules.nonterminals) ∧
      (symbol ∈ grammar.rules.nonterminals ↔
        ∃ addition ∈ calls.filterMap Call.addition?, addition.lhs = symbol) ∧
      (symbol ∉ grammar.rules.nonterminals →
        grammar.startingAt symbol = .error (.undefinedStart symbol)) ∧
      ∀ other, grammar.startingAt symbol = .ok other →
        other.start = symbol ∧
          (Draft.ofAdditions symbol (calls.filterMap Call.addition?)).build = .ok other ∧
          (Draft.ofCalls start (calls ++ [.start symbol])).build = .ok other ∧
          grammar.DifferInStart other := by
  refine ⟨?_, ?_, startingAt_eq_error, ?_⟩
  · simp only [startingAt_eq_ok_iff, exists_and_left, exists_eq, and_true]
  · rw [rules_of_yields yields]
    exact Draft.mem_nonterminals_ofAdditions
  · intro other moved
    rcases startingAt_eq_ok_iff.mp moved with ⟨defined, rfl⟩
    refine ⟨rfl, ?_, ?_, differInStart defined yields.start_defined⟩
    · have began : (Draft.ofAdditions symbol (calls.filterMap Call.addition?)).start = symbol :=
        Draft.start_ofAdditions symbol _
      have rebuilt := yields.build_eq_ok (Draft.rules_ofCalls_eq start symbol calls).symm
      rw [began] at rebuilt
      exact rebuilt defined
    · rw [Draft.ofCalls_concat_start]
      exact yields.build_eq_ok rfl defined

/-- The sentence is a noun phrase, and the same chart says so once it is asked for that. -/
theorem Grammar.start_symbol_is_only_asked_for_of_sleeperCalls :
    ∃ grammar other, (Draft.ofCalls "S" Checker.sleeperCalls).Yields grammar ∧
      grammar.startingAt "NP" = .ok other ∧
      (Draft.ofCalls "S" (Checker.sleeperCalls ++ [.start "NP"])).build = .ok other ∧
      (Chart.ofTokens grammar [⟨"bli wayan", 1, ⟨0, 9⟩⟩]).accepted = false ∧
      (Chart.ofTokens other [⟨"bli wayan", 1, ⟨0, 9⟩⟩]).accepted = true := by
  have yields := Draft.Yields.built Checker.sleeperCalls_built
  rcases start_symbol_is_only_asked_for _ _ _ yields "NP" with ⟨possible, -, -, described⟩
  have defined : "NP" ∈ (Draft.ofCalls "S" Checker.sleeperCalls).rules.nonterminals := by
    decide +kernel
  rcases possible.mpr defined with ⟨other, moved⟩
  rcases described other moved with ⟨named, -, rebuilt, differ⟩
  refine ⟨_, other, yields, moved, rebuilt, by decide +kernel, ?_⟩
  apply (differ.accepted_iff _ 1 (by decide)).mpr
  rw [named]
  exact ⟨.ofList ["NP"], by decide +kernel, by decide⟩

end Cyk
