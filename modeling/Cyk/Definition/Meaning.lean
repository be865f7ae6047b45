import Cyk.Definition.Statement
import Cyk.Grammar.Draft

/-!
# The grammar of a definition

Each alternative of a rule is a rule of the grammar: one terminal, one nonterminal or two of them.
The start symbol is the declared one, or else the left side of the first rule.
-/

namespace Cyk.Definition

/-- The symbols that are declared to be the start, in order. -/
def declarations (statements : List Statement) : List String :=
  statements.filterMap fun
    | .start symbol => some symbol.text
    | .rule _ _ => none

/-- The left sides of the rules, in order. -/
def leftSides (statements : List Statement) : List String :=
  statements.filterMap fun
    | .start _ => none
    | .rule lhs _ => some lhs.text

/-- The start symbol; without declaration and rule it is empty. -/
def startSymbol (statements : List Statement) : Except GrammarError String :=
  match declarations statements with
  | [] => .ok ((leftSides statements).head?.getD "")
  | [symbol] => .ok symbol
  | _ :: second :: _ => .error (.duplicateStart second)

/-- Every alternative with the left side of its rule, in order. -/
def productions (statements : List Statement) : List (String × List Symbol) :=
  statements.flatMap fun
    | .start _ => []
    | .rule lhs alternatives => alternatives.map (lhs.text, ·)

/-- The rule that an alternative gives. -/
def addition (lhs : String) : List Symbol → Except GrammarError Addition
  | [.terminal content] => .ok (.lexical lhs content.text)
  | [.nonterminal child] => .ok (.unit lhs child.text)
  | [.nonterminal left, .nonterminal right] => .ok (.binary lhs left.text right.text)
  | symbols => .error (.notNormalForm lhs (Text.joinWords (symbols.map Symbol.text)))

/-- The rules that statements give, in order. -/
def additions (statements : List Statement) : Except GrammarError (List Addition) :=
  (productions statements).mapM fun (lhs, symbols) => addition lhs symbols

/-- The grammar that statements describe. -/
def grammar (statements : List Statement) : Except GrammarError Grammar := do
  let start ← startSymbol statements
  (Draft.ofAdditions start (← additions statements)).build

end Cyk.Definition
