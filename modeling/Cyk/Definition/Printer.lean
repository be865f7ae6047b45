import Cyk.Definition.Statement
import Cyk.Grammar

/-!
# Printing grammars

A grammar written out as a definition: the start symbol, the binary rules, the unit rules, and a
rule for each terminal, one to a line.
-/

namespace Cyk.Definition

/-- A lexical rule as a definition writes it. -/
def lexicalRule (lhs terminal : String) : String :=
  lhs ++ " -> \"" ++ terminal ++ "\""

/-- The lines of a definition of the grammar. -/
def lines (grammar : Grammar) : List String :=
  ("start: " ++ grammar.start) :: grammar.rules.binary.map BinaryRule.text ++
    grammar.rules.unit.map UnitRule.text ++
    grammar.rules.lexical.pairs.map fun (lhs, terminal) => lexicalRule lhs terminal

/-- A definition of the grammar. -/
def print (grammar : Grammar) : String :=
  String.join ((lines grammar).map (· ++ "\n"))

end Cyk.Definition
