import Cyk.Grammar.Phrases
import Cyk.Grammar.UnitClosure

/-!
# Grammars

A grammar is a start symbol and rules.  It carries what is looked up often, the nonterminals of a
terminal, the ancestors of a nonterminal and the phrases, together with the fact that these are
the ones of its rules.
-/

namespace Cyk

/-- Why rules and a start symbol make no grammar. -/
inductive GrammarError where
  | undefinedNonterminal (symbol rule : String)
  | undefinedStart (symbol : String)
  | emptyTerminal (lhs : String)
  | notNormalForm (lhs rhs : String)
  | duplicateStart (symbol : String)
deriving DecidableEq, Repr

/-- The error as a reader sees it. -/
def GrammarError.message : GrammarError → String
  | .undefinedNonterminal symbol rule =>
    "nonterminal `" ++ symbol ++ "` is used by `" ++ rule ++ "` but never defined"
  | .undefinedStart symbol => "start symbol `" ++ symbol ++ "` has no rules"
  | .emptyTerminal lhs => "nonterminal `" ++ lhs ++ "` has an empty terminal"
  | .notNormalForm lhs rhs => "`" ++ lhs ++ " -> " ++ rhs ++ "` is not in Chomsky normal form"
  | .duplicateStart symbol => "start symbol declared twice (second: `" ++ symbol ++ "`)"

/-- Rules with a start symbol. -/
structure Grammar where
  start : String
  rules : Rules
  /-- The nonterminals that a lexical rule leads to a terminal. -/
  categories : Index
  /-- The ancestors of a nonterminal through unit rules. -/
  ancestors : Index
  /-- The terminals of several words, longest first. -/
  phrases : List String
  categories_eq : categories = rules.lexical.converse
  ancestors_eq : ancestors = UnitRule.ancestorIndex rules.unit
  phrases_eq : phrases = Phrases.longestFirst categories.keys
deriving DecidableEq

namespace Grammar

/-- The grammar of some rules, with its tables. -/
def ofRules (start : String) (rules : Rules) : Grammar where
  start := start
  rules := rules
  categories := rules.lexical.converse
  ancestors := UnitRule.ancestorIndex rules.unit
  phrases := Phrases.longestFirst rules.lexical.converse.keys
  categories_eq := rfl
  ancestors_eq := rfl
  phrases_eq := rfl

/-- A grammar is determined by its start symbol and its rules. -/
theorem eq_ofRules (grammar : Grammar) : grammar = ofRules grammar.start grammar.rules := by
  obtain ⟨start, rules, categories, ancestors, phrases, rfl, rfl, rfl⟩ := grammar
  rfl

/-- The same rules with another start symbol, which must have a rule. -/
def startingAt (grammar : Grammar) (start : String) : Except GrammarError Grammar :=
  if grammar.rules.isDefined start then .ok { grammar with start }
  else .error (.undefinedStart start)

end Grammar

end Cyk
