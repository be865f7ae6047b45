import Cyk.Proofs.Chart.Inclusion
import Cyk.Proofs.Checker.Unknown
import Cyk.Proofs.Text.Retokenizing

/-!
# Checking tokens again

A checker looks at the texts of tokens and at their order only.  So a sentence may be replaced by
its tokens with single spaces between them: all that changes in the answer is where tokens lie.
-/

namespace Cyk

open Text

/-- A token without its span. -/
def Token.spanless (token : Token) : String × Nat :=
  (token.text, token.position)

/-- Two analyses that differ at most in the spans of unknown tokens. -/
structure Analysis.SameButSpans (analysis other : Analysis) : Prop where
  verdict_eq : analysis.verdict = other.verdict
  view_eq : analysis.view = other.view
  unknown_eq : analysis.unknown.map Token.spanless = other.unknown.map Token.spanless

/-- Tokens are numbered from one on, whatever they are. -/
theorem Tokenizer.map_spanless_tokenize (tokenizer : Tokenizer) (sentence : String) :
    (tokenizer.tokenize sentence).map Token.spanless =
      ((tokenizer.tokenize sentence).map (·.text)).mapIdx fun index text => (text, index + 1) := by
  rw [map_text_tokenize]
  apply List.ext_getElem?
  intro index
  simp only [tokenize, number, List.getElem?_map, List.getElem?_mapIdx, Option.map_map]
  rfl

theorem Tokenizer.map_spanless_congr (tokenizer : Tokenizer) {sentence other : String}
    (texts : (tokenizer.tokenize sentence).map (·.text) = (tokenizer.tokenize other).map (·.text)) :
    (tokenizer.tokenize sentence).map Token.spanless =
      (tokenizer.tokenize other).map Token.spanless := by
  rw [map_spanless_tokenize, texts, map_spanless_tokenize]

/-! ## Charts of the same texts -/

namespace Chart

variable {tokens others : List Token}

theorem symbols_ofTokens_congr (sameTexts : tokens.map (·.text) = others.map (·.text))
    (grammar : Grammar) (start len : Nat) :
    (ofTokens grammar tokens).symbols start len = (ofTokens grammar others).symbols start len := by
  have sizes := congrArg List.length sameTexts
  rw [List.length_map, List.length_map] at sizes
  ext symbol
  rw [ofTokens, ofTokens, mem_symbols_fill, mem_symbols_fill, spanTexts, spanTexts, sameTexts,
    sizes]

/-- The texts and positions of unknown tokens are those of the tokens with unknown texts. -/
theorem map_spanless_unknownTokens (grammar : Grammar) (tokens : List Token) :
    (ofTokens grammar tokens).unknownTokens.map Token.spanless =
      (tokens.map Token.spanless).filter fun pair => pair.1 ∉ grammar.rules.terminals := by
  rw [unknownTokens_ofTokens, List.filter_map]
  rfl

theorem sameButSpans_of_map_spanless
    (same : tokens.map Token.spanless = others.map Token.spanless) (grammar : Grammar) :
    (Analysis.ofChart (ofTokens grammar tokens)).SameButSpans
      (.ofChart (ofTokens grammar others)) := by
  have texts : tokens.map (·.text) = others.map (·.text) := by
    have firsts := congrArg (List.map Prod.fst) same
    rwa [List.map_map, List.map_map] at firsts
  have sameTexts : (ofTokens grammar tokens).tokens.map (·.text) =
      (ofTokens grammar others).tokens.map (·.text) := by
    rw [ofTokens, ofTokens, tokens_fill, tokens_fill, texts]
  have sameStart : (ofTokens grammar tokens).grammar.start =
      (ofTokens grammar others).grammar.start := by
    rw [ofTokens, ofTokens, grammar_fill, grammar_fill]
  have sameSymbols := symbols_ofTokens_congr texts grammar
  constructor
  · exact verdict_congr sameTexts sameSymbols sameStart
  · exact view_congr sameTexts sameSymbols sameStart
  · rw [Analysis.ofChart, Analysis.ofChart, map_spanless_unknownTokens, map_spanless_unknownTokens,
      same]

end Chart

/-! ## Answers -/

/-- **Tokenizing tokens again changes nothing.**  Whatever phrases stay together, the tokens of a
sentence, joined by single spaces, have the same texts when they are tokenized again.  So every
checker has no answer for both sentences, or two answers that differ at most in spans. -/
theorem retokenizing_changes_nothing (sentence : String) :
    (∀ tokenizer : Tokenizer,
      (tokenizer.tokenize (tokenizer.respace sentence)).map (·.text) =
        (tokenizer.tokenize sentence).map (·.text)) ∧
      ∀ checker : Checker,
        (checker.check sentence = .error .emptySentence ∧
            checker.check (checker.tokenizer.respace sentence) = .error .emptySentence) ∨
          ∃ analysis other, checker.check sentence = .ok analysis ∧
            checker.check (checker.tokenizer.respace sentence) = .ok other ∧
              analysis.SameButSpans other := by
  constructor
  · intro tokenizer
    exact tokenizer.map_text_tokenize_respace sentence
  · intro checker
    have texts := checker.tokenizer.map_text_tokenize_respace sentence
    have none_iff : checker.tokenize (checker.tokenizer.respace sentence) = [] ↔
        checker.tokenize sentence = [] := by
      rw [← List.map_eq_nil_iff (f := Token.text), Checker.tokenize, texts, List.map_eq_nil_iff,
        Checker.tokenize]
    by_cases none : checker.tokenize sentence = []
    · have empty := Checker.tokenize_eq_nil_iff.mp none
      have empty' := Checker.tokenize_eq_nil_iff.mp (none_iff.mpr none)
      left
      exact ⟨(Checker.map_chart_eq_emptySentence_iff _).mpr empty,
        (Checker.map_chart_eq_emptySentence_iff _).mpr empty'⟩
    · right
      refine ⟨_, _, Checker.check_of_tokens none, Checker.check_of_tokens (mt none_iff.mp none), ?_⟩
      apply Chart.sameButSpans_of_map_spanless
      exact checker.tokenizer.map_spanless_congr texts.symm

end Cyk
