import Cyk.Proofs.Checker.Meaning
import Cyk.Proofs.Chart.Unknown
import Cyk.Proofs.Grammar.Invariant
import Cyk.Proofs.Text.Segments

/-!
# Unknown words in sentences

The phrases that a checker folds are terminals of its grammar, letter by letter.  So what the
grammar does not know is always a single word, and one such word is enough to reject a sentence.
-/

namespace Cyk

open Text

/-- The words of a folded phrase spell a phrase of the grammar. -/
theorem Grammar.WellFormed.joinWords_mem_phrases {grammar : Grammar}
    (wellFormed : grammar.WellFormed) {phrase : List String}
    (folded : phrase ∈ (Tokenizer.ofPhrases grammar.phrases).phrases) :
    joinWords phrase ∈ grammar.phrases := by
  rcases List.mem_map.mp (List.mem_filter.mp folded).1 with ⟨terminal, listed, rfl⟩
  rcases (wellFormed.mem_phrases terminal).mp listed with ⟨⟨lhs, member⟩, -⟩
  have normal := wellFormed.terminals_normal lhs terminal member
  rwa [normal.map_lowercase_splitWords, normal.joinWords_splitWords]

namespace Checker

variable {checker : Checker} {sentence : String} {token : Token}

theorem isWord_or_mem_terminals (wellFormed : checker.grammar.WellFormed)
    (member : token ∈ checker.tokenize sentence) :
    IsWord token.text ∨ token.text ∈ checker.grammar.rules.terminals := by
  rcases Tokenizer.text_of_mem_tokenize member with isWord | ⟨phrase, folded, text⟩
  · exact Or.inl isWord
  · right
    rw [checker.tokenizer_eq] at folded
    rw [text, Rules.mem_terminals]
    exact ((wellFormed.mem_phrases _).mp (wellFormed.joinWords_mem_phrases folded)).1

theorem chart_of_tokens (filled : checker.tokenize sentence ≠ []) :
    checker.chart sentence = .ok (.ofTokens checker.grammar (checker.tokenize sentence)) :=
  chart_of_normalize_ne_empty checker fun empty => filled (tokenize_eq_nil_iff.mpr empty)

theorem check_of_tokens (filled : checker.tokenize sentence ≠ []) :
    checker.check sentence =
      .ok (.ofChart (.ofTokens checker.grammar (checker.tokenize sentence))) := by
  rw [check, chart_of_tokens filled]
  rfl

/-- A filled chart with an unknown token does not accept. -/
theorem accepted_eq_false_of_unknown {grammar : Grammar} {tokens : List Token}
    (member : token ∈ tokens) (unknown : token.text ∉ grammar.rules.terminals) :
    (Chart.ofTokens grammar tokens).accepted = false := by
  rw [Chart.ofTokens, ← Bool.not_eq_true, Chart.accepted_fill_iff]
  rintro ⟨-, derivation⟩
  exact unknown (derivation.mem_terminals _ (List.mem_map_of_mem member))

/-- **Unknown words.**  For any sentence with tokens, a checker of any grammar that calls can make
reports as unknown exactly the tokens that are no terminals, in order.  Each of them is a single
word, since a token of several words has a category; every cell above it is empty, so the start
symbol is in none of these; and one of them is enough for the sentence to be rejected. -/
theorem unknown_words_block_acceptance (checker : Checker) (start : String) (calls : List Call)
    (yields : (Draft.ofCalls start calls).Yields checker.grammar) (sentence : String)
    (filled : checker.tokenize sentence ≠ []) :
    ∃ chart analysis,
      checker.chart sentence = .ok chart ∧ checker.check sentence = .ok analysis ∧
      (analysis.unknown = (checker.tokenize sentence).filter fun token =>
        token.text ∉ checker.grammar.rules.terminals) ∧
      (∀ token ∈ analysis.unknown, IsWord token.text) ∧
      (∀ token ∈ checker.tokenize sentence, 1 < (splitWords token.text).length →
        ∃ symbol, symbol ∈ checker.grammar.categories.get token.text) ∧
      (∀ index token, (checker.tokenize sentence)[index]? = some token →
        token ∈ analysis.unknown → ∀ start len, Triangle.Fits chart.size start len →
          start ≤ index + 1 → index + 1 < start + len →
            chart.cell start len = some ∅ ∧ checker.grammar.start ∉ chart.symbols start len) ∧
      (analysis.unknown ≠ [] →
        checker.accepts sentence = .ok false ∧ analysis.verdict.accepted = false) := by
  have wellFormed := Grammar.wellFormed_of_yields yields
  have charted := chart_of_tokens filled
  have unknown := Chart.unknownTokens_ofTokens checker.grammar (checker.tokenize sentence)
  have of_unknown : ∀ token,
      token ∈ (Chart.ofTokens checker.grammar (checker.tokenize sentence)).unknownTokens →
        token ∈ checker.tokenize sentence ∧ token.text ∉ checker.grammar.rules.terminals := by
    intro token member
    rw [unknown] at member
    simpa using member
  refine ⟨_, _, charted, check_of_tokens filled, unknown, ?_, ?_, ?_, ?_⟩
  · intro token member
    rcases of_unknown token member with ⟨inSentence, notTerminal⟩
    exact (isWord_or_mem_terminals wellFormed inSentence).resolve_right notTerminal
  · intro token inSentence several
    rcases isWord_or_mem_terminals wellFormed inSentence with isWord | known
    · rw [splitWords_of_isWord isWord] at several
      exact absurd several (Nat.lt_irrefl 1)
    · rcases Rules.mem_terminals.mp known with ⟨symbol, rule⟩
      exact ⟨symbol, (wellFormed.categories_agree _ _).mpr rule⟩
  · intro index token here member start len fits after before
    have empty := Chart.symbols_eq_empty_of_unknown here (of_unknown token member).2 after before
    rw [Chart.cell_eq_some_symbols fits, empty]
    exact ⟨rfl, Names.not_mem_empty _⟩
  · intro some
    rcases List.exists_mem_of_ne_nil _ some with ⟨token, member⟩
    rcases of_unknown token member with ⟨inSentence, notTerminal⟩
    have rejected := accepted_eq_false_of_unknown inSentence notTerminal
    constructor
    · rw [accepts, charted]
      exact congrArg Except.ok rejected
    · exact rejected

/-- A phrase of two words, given with capitals and too many blanks. -/
def sleeperCalls : List Call :=
  [.add (.binary "S" "NP" "VP"), .add (.lexical "NP" "Bli  Wayan"), .add (.lexical "VP" "pules")]

theorem sleeperCalls_built :
    (Draft.ofCalls "S" sleeperCalls).build =
      .ok (Grammar.ofRules "S" (Draft.ofCalls "S" sleeperCalls).rules) :=
  Draft.build_eq_ok_iff.mpr ⟨by decide +kernel, rfl⟩

theorem unknown_words_block_acceptance_of_sleeperCalls :
    ∃ (checker : Checker) (analysis : Analysis),
      (Draft.ofCalls "S" sleeperCalls).Yields checker.grammar ∧
      checker.tokenize " BLI wayan  Ngeeng pules. ." ≠ [] ∧
      checker.check " BLI wayan  Ngeeng pules. ." = .ok analysis ∧
      analysis.unknown = [⟨"ngeeng", 2, ⟨11, 17⟩⟩] ∧ IsWord "ngeeng" ∧
      checker.accepts " BLI wayan  Ngeeng pules. ." = .ok false := by
  generalize made : ofGrammar (Grammar.ofRules "S" (Draft.ofCalls "S" sleeperCalls).rules) = checker
  have yields : (Draft.ofCalls "S" sleeperCalls).Yields checker.grammar :=
    made ▸ .built sleeperCalls_built
  have tokens : checker.tokenize " BLI wayan  Ngeeng pules. ." =
      [⟨"bli wayan", 1, ⟨0, 9⟩⟩, ⟨"ngeeng", 2, ⟨11, 17⟩⟩, ⟨"pules", 3, ⟨18, 23⟩⟩] := by
    subst made
    decide +kernel
  have filled : checker.tokenize " BLI wayan  Ngeeng pules. ." ≠ [] := by simp [tokens]
  rcases unknown_words_block_acceptance checker "S" sleeperCalls yields _ filled with
    ⟨chart, analysis, -, checked, unknown, isWord, -, -, rejected⟩
  have listed : analysis.unknown = [⟨"ngeeng", 2, ⟨11, 17⟩⟩] := by
    rw [unknown, tokens]
    subst made
    decide +kernel
  refine ⟨checker, analysis, yields, filled, checked, listed, ?_, ?_⟩
  · exact isWord ⟨"ngeeng", 2, ⟨11, 17⟩⟩ (by simp [listed])
  · exact (rejected (by simp [listed])).1

end Checker

end Cyk
