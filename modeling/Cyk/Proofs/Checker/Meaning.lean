import Cyk.Checker
import Cyk.Proofs.Chart.Recognition
import Cyk.Proofs.Chart.View
import Cyk.Proofs.Definition.ContextFree
import Cyk.Proofs.Definition.Reading
import Cyk.Proofs.Text.Words

/-!
# What the answers of a checker mean

A checker that was made from a definition answers whether the definition, read as a context-free
grammar, generates the tokens of a sentence.  Everything it says about one sentence agrees.
-/

namespace Cyk.Checker

variable {definition : String} {checker : Checker}

/-- A checker comes from statements that could be read and make its grammar. -/
theorem exists_statements_of_ofDefinition (loaded : ofDefinition definition = .ok checker) :
    ∃ statements, Definition.read definition = .ok statements ∧
      Definition.grammar statements = .ok checker.grammar := by
  rcases Outcome.bind_eq_ok_iff.mp loaded with ⟨statements, readable, loaded⟩
  rcases Outcome.bind_eq_ok_iff.mp loaded with ⟨grammar, made, loaded⟩
  obtain rfl := Except.ok.inj loaded
  exact ⟨statements, Outcome.mapError_eq_ok_iff.mp readable, Outcome.mapError_eq_ok_iff.mp made⟩

variable {sentence : String}

theorem tokenize_eq_nil_iff : checker.tokenize sentence = [] ↔ Text.normalize sentence = "" :=
  Tokenizer.tokenize_eq_nil_iff

theorem chart_of_normalize_eq_empty (empty : Text.normalize sentence = "") :
    checker.chart sentence = .error .emptySentence := by
  rw [chart, tokenize_eq_nil_iff.mpr empty]
  rfl

theorem chart_of_normalize_ne_empty (checker : Checker) (filled : Text.normalize sentence ≠ "") :
    checker.chart sentence = .ok (.ofTokens checker.grammar (checker.tokenize sentence)) := by
  have nonempty : checker.tokenize sentence ≠ [] := fun none =>
    filled (tokenize_eq_nil_iff.mp none)
  rw [chart, if_neg]
  rwa [List.isEmpty_iff]

/-- Whatever is computed from charts, only a sentence with an empty normal form has no result. -/
theorem map_chart_eq_emptySentence_iff {α : Type} (answer : Chart → α) :
    answer <$> checker.chart sentence = .error .emptySentence ↔ Text.normalize sentence = "" := by
  constructor
  · intro failed
    apply Decidable.byContradiction
    intro filled
    rw [chart_of_normalize_ne_empty checker filled] at failed
    contradiction
  · intro empty
    rw [chart_of_normalize_eq_empty empty]
    rfl

/-- From definition to verdict: a checker has no answer for a sentence just when the normal form of
the sentence is empty.  It accepts any other sentence just when the definition, read as a
context-free grammar, generates the sentence's tokens from its start symbol; and the verdict, the
view and the corner of the view agree on that and on the number of tokens. -/
theorem checker_decides_language (definition : String) (checker : Checker)
    (loaded : ofDefinition definition = .ok checker) :
    ∃ statements start, Definition.read definition = .ok statements ∧
      Definition.Starts statements start ∧
      ∀ sentence,
        (checker.check sentence = .error .emptySentence ↔ Text.normalize sentence = "") ∧
        (checker.accepts sentence = .error .emptySentence ↔ Text.normalize sentence = "") ∧
        (Text.normalize sentence ≠ "" →
          (checker.accepts sentence = .ok true ↔
            (checker.tokenize sentence).map (·.text) ∈
              (contextFree statements start).language) ∧
          ∃ analysis corner,
            checker.check sentence = .ok analysis ∧
            analysis.view.get? (checker.tokenize sentence).length 1 = some corner ∧
            checker.accepts sentence = .ok analysis.verdict.accepted ∧
            analysis.view.accepted = analysis.verdict.accepted ∧
            corner.hasStart = analysis.verdict.accepted ∧
            analysis.verdict.tokenCount = (checker.tokenize sentence).length ∧
            analysis.view.size = (checker.tokenize sentence).length) := by
  rcases exists_statements_of_ofDefinition loaded with ⟨statements, readable, made⟩
  rcases Definition.grammar_eq_ok made with ⟨-, -, starts, -⟩
  refine ⟨statements, checker.grammar.start, readable, starts, ?_⟩
  intro sentence
  constructor
  · exact map_chart_eq_emptySentence_iff Analysis.ofChart
  constructor
  · exact map_chart_eq_emptySentence_iff Chart.accepted
  intro filled
  have nonempty : checker.tokenize sentence ≠ [] := fun none =>
    filled (tokenize_eq_nil_iff.mp none)
  have charted := chart_of_normalize_ne_empty checker filled
  generalize tokens_eq : checker.tokenize sentence = tokens at nonempty charted
  have size_eq : (Chart.ofTokens checker.grammar tokens).size = tokens.length := by
    rw [Chart.size, Chart.ofTokens, Chart.tokens_fill]
  constructor
  · rw [accepts, charted, mem_language_contextFree made, Outcome.map_eq_ok_iff]
    simp only [Except.ok.injEq, exists_eq_left']
    rw [Chart.ofTokens, Chart.accepted_fill_iff]
    exact and_iff_right nonempty
  · have positive : 1 ≤ (Chart.ofTokens checker.grammar tokens).size := by
      rw [size_eq]
      exact List.length_pos_iff.mpr nonempty
    rcases Chart.get?_view_corner positive with ⟨corner, here, hasStart⟩
    rw [size_eq] at here
    apply Exists.intro (Analysis.ofChart (.ofTokens checker.grammar tokens))
    apply Exists.intro corner
    constructor
    · rw [check, charted]
      rfl
    constructor
    · exact here
    constructor
    · rw [accepts, charted]
      rfl
    constructor
    · rfl
    constructor
    · exact hasStart
    constructor
    · exact size_eq
    · rw [View.size]
      exact (List.length_map _).trans size_eq

/-- The start symbol is declared between the rules, and it is not the left side of the first one. -/
def namesFirst : String :=
  "N -> \"Bli  Wayan\"\nstart: S; S -> N V\nV -> \"pules\""

/-- The statements of `namesFirst`. -/
def namesFirstStatements : List Definition.Statement :=
  [.rule ⟨"N", ⟨0, 1⟩⟩ [[.terminal ⟨"Bli  Wayan", ⟨6, 16⟩⟩]],
    .start ⟨"S", ⟨25, 26⟩⟩,
    .rule ⟨"S", ⟨28, 29⟩⟩ [[.nonterminal ⟨"N", ⟨33, 34⟩⟩, .nonterminal ⟨"V", ⟨35, 36⟩⟩]],
    .rule ⟨"V", ⟨37, 38⟩⟩ [[.terminal ⟨"pules", ⟨43, 48⟩⟩]]]

theorem checker_decides_language_of_namesFirst :
    ∃ checker, ofDefinition namesFirst = .ok checker ∧
      Definition.read namesFirst = .ok namesFirstStatements ∧
      Definition.Starts namesFirstStatements "S" ∧
      Text.normalize " BLI wayan Pules. ." ≠ "" ∧ Text.normalize "Bli Wayan" ≠ "" ∧
      checker.accepts " BLI wayan Pules. ." = .ok true ∧
      (checker.tokenize " BLI wayan Pules. .").map (·.text) ∈
        (contextFree namesFirstStatements "S").language ∧
      checker.accepts "Bli Wayan" = .ok false ∧
      (checker.tokenize "Bli Wayan").map (·.text) ∉
        (contextFree namesFirstStatements "S").language := by
  have readable : Definition.read namesFirst = .ok namesFirstStatements :=
    (Definition.read_eq_readFrom namesFirst).trans rfl
  have starts : Definition.Starts namesFirstStatements "S" :=
    Definition.startSymbol_eq_ok_iff.mp rfl
  have filled : Text.normalize " BLI wayan Pules. ." ≠ "" := by decide +kernel
  have filled' : Text.normalize "Bli Wayan" ≠ "" := by decide +kernel
  have answers : (ofDefinition namesFirst).toOption.map (fun checker =>
      [" BLI wayan Pules. .", "Bli Wayan"].map fun sentence =>
        (checker.accepts sentence).toOption) = some [some true, some false] := by decide +kernel
  cases loaded : ofDefinition namesFirst with
  | error error =>
    rw [loaded] at answers
    contradiction
  | ok checker =>
    rw [loaded] at answers
    rcases List.cons.inj (Option.some.inj answers) with ⟨accepts, others⟩
    have accepts := Outcome.toOption_eq_some_iff.mp accepts
    have rejects := Outcome.toOption_eq_some_iff.mp (List.cons.inj others).1
    rcases checker_decides_language namesFirst checker loaded with
      ⟨statements, start, readable', starts', decides⟩
    obtain rfl := Except.ok.inj (readable.symm.trans readable')
    obtain rfl := starts'.unique starts
    have generates := ((decides _).2.2 filled).1.mp accepts
    refine ⟨checker, rfl, readable, starts, filled, filled', accepts, generates, rejects, ?_⟩
    intro generated
    have accepts' := ((decides _).2.2 filled').1.mpr generated
    rw [rejects] at accepts'
    contradiction

end Cyk.Checker
