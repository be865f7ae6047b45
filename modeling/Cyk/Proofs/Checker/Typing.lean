import Cyk.Proofs.Checker.StartSymbol
import Cyk.Proofs.Grammar.Folding

/-!
# Typing terminals

A derivation makes a row of terminals, and someone types them with one space between neighbours.
What the checker then reads are the same terminals if the row is greedy and no full stop is lost; if
not, it may read others, and reject a sentence of the language.
-/

namespace Cyk.Checker

open Text

variable {checker : Checker} {sentence terminal : String} {row : List String}

/-- A sentence is accepted just when the start symbol derives its tokens. -/
theorem accepts_eq_ok_true_iff :
    checker.accepts sentence = .ok true ↔
      Derives checker.grammar.rules checker.grammar.start
        ((checker.tokenize sentence).map (·.text)) := by
  by_cases filled : checker.tokenize sentence = []
  · rw [accepts, chart_of_normalize_eq_empty (tokenize_eq_nil_iff.mp filled), filled]
    constructor
    · intro accepted
      contradiction
    · intro derivation
      exact absurd rfl derivation.ne_nil
  · rw [accepts, chart_of_tokens filled, Outcome.map_eq_ok_iff]
    simp only [Except.ok.injEq, exists_eq_left']
    rw [Chart.ofTokens, Chart.accepted_fill_iff]
    exact and_iff_right filled

/-- The tokens of a typed row are the row itself just when it is greedy. -/
theorem map_text_tokenize_joinWords_eq_iff (wellFormed : checker.grammar.WellFormed)
    (known : ∀ terminal ∈ row, terminal ∈ checker.grammar.rules.terminals)
    (unstopped : ∀ terminal ∈ row, ¬ EndsInStop terminal) :
    (checker.tokenize (joinWords row)).map (·.text) = row ↔
      Greedy checker.grammar.rules.terminals row := by
  have normal : ∀ terminal ∈ row, IsNormalTerminal terminal := fun terminal listed =>
    wellFormed.isNormalTerminal (known terminal listed)
  rw [tokenize, Tokenizer.map_text_tokenize, checker.tokenizer_eq]
  exact wellFormed.map_text_segments_eq_iff known (splitWords_normalize_joinWords normal unstopped)

/-- A full stop at the end of a typed terminal is lost. -/
theorem map_text_tokenize_ne_of_endsInStop (normal : IsNormalTerminal terminal)
    (stop : EndsInStop terminal) : (checker.tokenize terminal).map (·.text) ≠ [terminal] := by
  intro same
  have words := checker.tokenizer.flatMap_splitWords_tokenize terminal
  rw [tokenize] at same
  rw [same, List.flatMap_singleton] at words
  exact normal.splitWords_normalize_ne stop words.symm

/-! ## One terminal -/

/-- A grammar that starts at the left side of a terminal reads the terminal back as one token unless
a full stop ends it; and then it accepts it, however many words it has and whatever phrases overlap
it. -/
theorem typed_terminal_is_read_back (checker : Checker) (start : String) (calls : List Call)
    (yields : (Draft.ofCalls start calls).Yields checker.grammar) (symbol terminal : String)
    (rule : terminal ∈ checker.grammar.rules.lexical.get symbol) :
    ∃ other, checker.startingAt symbol = .ok other ∧
      ((other.tokenize terminal).map (·.text) = [terminal] ↔ ¬ EndsInStop terminal) ∧
      (¬ EndsInStop terminal → other.accepts terminal = .ok true) := by
  have wellFormed := Grammar.wellFormed_of_yields yields
  have defined : symbol ∈ checker.grammar.rules.nonterminals :=
    Rules.mem_nonterminals_iff.mpr (Or.inl ⟨terminal, rule⟩)
  have moved : (ofGrammar { checker.grammar with start := symbol }).grammar.WellFormed :=
    Grammar.wellFormed_of_yields
      (yields.startingAt (Grammar.startingAt_eq_ok_iff.mpr ⟨defined, rfl⟩))
  have known : ∀ other ∈ [terminal], other ∈ checker.grammar.rules.terminals := by
    simpa using Rules.mem_terminals.mpr ⟨symbol, rule⟩
  have readBack (unstopped : ¬ EndsInStop terminal) :
      ((ofGrammar { checker.grammar with start := symbol }).tokenize terminal).map (·.text) =
        [terminal] := by
    have row := (map_text_tokenize_joinWords_eq_iff moved known (by simpa)).mpr
      (greedy_singleton _ terminal)
    rwa [joinWords_singleton] at row
  refine ⟨ofGrammar { checker.grammar with start := symbol }, ?_, ?_, ?_⟩
  · exact startingAt_eq_ok defined
  · constructor
    · intro same stop
      have normal := wellFormed.terminals_normal symbol terminal rule
      exact map_text_tokenize_ne_of_endsInStop normal stop same
    · exact readBack
  · intro unstopped
    rw [accepts_eq_ok_true_iff, readBack unstopped]
    exact Derives.lexical rule

/-- A phrase that is made of two other terminals, and a title that is written with a stop. -/
def timeCalls : List Call :=
  [.add (.binary "PP" "Prep" "N"), .add (.lexical "Prep" "Uli"), .add (.lexical "N" "mara"),
    .add (.lexical "N" "Uli  mara"), .add (.lexical "N" "Dr.")]

/-- The grammar of these calls. -/
def timeGrammar : Grammar :=
  Grammar.ofRules "PP" (Draft.ofCalls "PP" timeCalls).rules

theorem timeGrammar_built : (Draft.ofCalls "PP" timeCalls).build = .ok timeGrammar :=
  Draft.build_eq_ok_iff.mpr ⟨by decide +kernel, rfl⟩

theorem derives_time {time : String} (rule : time ∈ timeGrammar.rules.lexical.get "N") :
    Derives timeGrammar.rules "PP" ["uli", time] := by
  have pair : ⟨"PP", "Prep", "N"⟩ ∈ timeGrammar.rules.binary := by decide +kernel
  have uli : "uli" ∈ timeGrammar.rules.lexical.get "Prep" := by decide +kernel
  exact Derives.binary pair (.lexical uli) (.lexical rule)

theorem typed_terminal_is_read_back_of_timeCalls :
    (Draft.ofCalls "PP" timeCalls).Yields (ofGrammar timeGrammar).grammar ∧
      "uli mara" ∈ timeGrammar.rules.lexical.get "N" ∧ ¬ EndsInStop "uli mara" ∧
      ∃ other, (ofGrammar timeGrammar).startingAt "N" = .ok other ∧
        (other.tokenize "uli mara").map (·.text) = ["uli mara"] ∧
        other.accepts "uli mara" = .ok true := by
  have yields : (Draft.ofCalls "PP" timeCalls).Yields (ofGrammar timeGrammar).grammar :=
    .built timeGrammar_built
  have rule : "uli mara" ∈ (ofGrammar timeGrammar).grammar.rules.lexical.get "N" := by
    decide +kernel
  have unstopped : ¬ EndsInStop "uli mara" := by decide +kernel
  rcases typed_terminal_is_read_back _ _ _ yields "N" "uli mara" rule with
    ⟨other, moved, readBack, accepted⟩
  exact ⟨yields, rule, unstopped, other, moved, readBack.mpr unstopped, accepted unstopped⟩

/-- The title loses its stop when it is typed alone, and is not known without it. -/
theorem typed_title_is_rejected :
    ∃ checker other : Checker, (Draft.ofCalls "PP" timeCalls).Yields checker.grammar ∧
      "dr." ∈ checker.grammar.rules.lexical.get "N" ∧ checker.startingAt "N" = .ok other ∧
      (other.tokenize "dr.").map (·.text) = ["dr"] ∧ other.accepts "dr." = .ok false := by
  have defined : "N" ∈ (ofGrammar timeGrammar).grammar.rules.nonterminals := by decide +kernel
  exact ⟨ofGrammar timeGrammar, ofGrammar { timeGrammar with start := "N" },
    .built timeGrammar_built, by decide +kernel, startingAt_eq_ok defined, by decide +kernel,
    by decide +kernel⟩

/-! ## Rows of terminals -/

/-- Sentences of the language, typed: a derived row whose terminals end in no full stop is accepted
just when its tokens are derived too.  They are the row itself just when it is greedy; so every
greedy row is accepted. -/
theorem greedy_sentence_is_accepted (checker : Checker) (start : String) (calls : List Call)
    (yields : (Draft.ofCalls start calls).Yields checker.grammar) (row : List String)
    (derived : Derives checker.grammar.rules checker.grammar.start row)
    (unstopped : ∀ terminal ∈ row, ¬ EndsInStop terminal) :
    (checker.accepts (joinWords row) = .ok true ↔
        Derives checker.grammar.rules checker.grammar.start
          ((checker.tokenize (joinWords row)).map (·.text))) ∧
      ((checker.tokenize (joinWords row)).map (·.text) = row ↔
        Greedy checker.grammar.rules.terminals row) ∧
      (Greedy checker.grammar.rules.terminals row →
        checker.accepts (joinWords row) = .ok true) := by
  have wellFormed := Grammar.wellFormed_of_yields yields
  have readBack := map_text_tokenize_joinWords_eq_iff wellFormed derived.mem_terminals unstopped
  refine ⟨accepts_eq_ok_true_iff, readBack, ?_⟩
  intro greedy
  rw [accepts_eq_ok_true_iff, readBack.mpr greedy]
  exact derived

theorem greedy_sentence_is_accepted_of_timeCalls :
    (Draft.ofCalls "PP" timeCalls).Yields (ofGrammar timeGrammar).grammar ∧
      Derives timeGrammar.rules "PP" ["uli", "uli mara"] ∧
      (∀ terminal ∈ ["uli", "uli mara"], ¬ EndsInStop terminal) ∧
      Greedy timeGrammar.rules.terminals ["uli", "uli mara"] ∧
      (ofGrammar timeGrammar).accepts "uli uli mara" = .ok true := by
  have yields : (Draft.ofCalls "PP" timeCalls).Yields (ofGrammar timeGrammar).grammar :=
    .built timeGrammar_built
  have derived : Derives timeGrammar.rules "PP" ["uli", "uli mara"] :=
    derives_time (by decide +kernel)
  have unstopped : ∀ terminal ∈ ["uli", "uli mara"], ¬ EndsInStop terminal := by decide +kernel
  have greedy : Greedy timeGrammar.rules.terminals ["uli", "uli mara"] := by decide +kernel
  have accepted := (greedy_sentence_is_accepted _ _ _ yields _ derived unstopped).2.2 greedy
  exact ⟨yields, derived, unstopped, greedy, accepted⟩

/-- The words of two terminals may be those of a third, which is taken instead of both. -/
theorem overlapped_sentence_is_rejected :
    ∃ checker : Checker, (Draft.ofCalls "PP" timeCalls).Yields checker.grammar ∧
      Derives checker.grammar.rules checker.grammar.start ["uli", "mara"] ∧
      (∀ terminal ∈ ["uli", "mara"], ¬ EndsInStop terminal) ∧
      (checker.tokenize (joinWords ["uli", "mara"])).map (·.text) = ["uli mara"] ∧
      checker.accepts (joinWords ["uli", "mara"]) = .ok false := by
  have derived : Derives timeGrammar.rules "PP" ["uli", "mara"] :=
    derives_time (by decide +kernel)
  exact ⟨ofGrammar timeGrammar, .built timeGrammar_built, derived, by decide +kernel,
    by decide +kernel, by decide +kernel⟩

end Cyk.Checker
