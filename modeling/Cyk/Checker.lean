import Cyk.Chart.View
import Cyk.Definition.Meaning
import Cyk.Definition.Reader
import Cyk.Tokenizer

/-!
# Checking sentences

A grammar together with the tokenizer for its phrases.
-/

namespace Cyk

/-- What can go wrong between a definition and a verdict. -/
inductive CheckerError where
  | malformed (error : Definition.SyntaxError)
  | invalid (error : GrammarError)
  | emptySentence
deriving DecidableEq, Repr

/-- The error as a reader sees it. -/
def CheckerError.message : CheckerError → String
  | .malformed error => "Error(s) while parsing the grammar definition : \n" ++ error.located
  | .invalid error => "Invalid grammar : " ++ error.message
  | .emptySentence => "Nothing to parse: the sentence has no tokens"

/-- Everything there is to say about a sentence. -/
structure Analysis where
  verdict : Verdict
  view : View
  unknown : List Token
deriving DecidableEq, Repr

/-- The analysis of a filled chart. -/
def Analysis.ofChart (chart : Chart) : Analysis :=
  ⟨chart.verdict, chart.view, chart.unknownTokens⟩

/-- A grammar and its tokenizer. -/
structure Checker where
  grammar : Grammar
  tokenizer : Tokenizer
  tokenizer_eq : tokenizer = .ofPhrases grammar.phrases
deriving DecidableEq

namespace Checker

/-- The checker of a grammar. -/
def ofGrammar (grammar : Grammar) : Checker :=
  ⟨grammar, .ofPhrases grammar.phrases, rfl⟩

/-- The checker of a definition. -/
def ofDefinition (definition : String) : Except CheckerError Checker := do
  let statements ← (Definition.read definition).mapError .malformed
  let grammar ← (Definition.grammar statements).mapError .invalid
  return ofGrammar grammar

/-- The checker with another start symbol. -/
def startingAt (checker : Checker) (start : String) : Except GrammarError Checker :=
  ofGrammar <$> checker.grammar.startingAt start

/-- The tokens of a sentence. -/
def tokenize (checker : Checker) (sentence : String) : List Token :=
  checker.tokenizer.tokenize sentence

/-- The filled chart of a sentence, which must have tokens. -/
def chart (checker : Checker) (sentence : String) : Except CheckerError Chart :=
  let tokens := checker.tokenize sentence
  if tokens.isEmpty then .error .emptySentence else .ok (.ofTokens checker.grammar tokens)

/-- Everything there is to say about a sentence. -/
def check (checker : Checker) (sentence : String) : Except CheckerError Analysis :=
  Analysis.ofChart <$> checker.chart sentence

/-- Whether the grammar derives a sentence. -/
def accepts (checker : Checker) (sentence : String) : Except CheckerError Bool :=
  Chart.accepted <$> checker.chart sentence

end Checker

end Cyk
