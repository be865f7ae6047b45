import Cyk.Grammar
import Cyk.Text.Normal

/-!
# Drafts

A grammar in the making.  Rules are added one at a time, in any order and as often as one likes;
what the draft lacks is found when it is built.
-/

namespace Cyk

/-- A rule as it is given: the terminal of a lexical rule in any form. -/
inductive Addition where
  | lexical (lhs terminal : String)
  | binary (lhs left right : String)
  | unit (lhs child : String)
deriving DecidableEq, Repr

/-- A start symbol and the rules given so far. -/
structure Draft where
  start : String
  rules : Rules := {}
deriving DecidableEq

namespace Draft

/-- The draft with another start symbol. -/
def withStart (draft : Draft) (start : String) : Draft :=
  { draft with start }

/-- The draft with a rule from a nonterminal to a terminal, in normal form. -/
def addLexical (draft : Draft) (lhs terminal : String) : Draft :=
  { draft with
    rules.lexical := draft.rules.lexical.add lhs (Text.normalizeTerminal terminal) }

/-- The draft with a rule from a nonterminal to two. -/
def addBinary (draft : Draft) (lhs left right : String) : Draft :=
  { draft with rules.binary := addOnce draft.rules.binary ⟨lhs, left, right⟩ }

/-- The draft with a rule from a nonterminal to another. -/
def addUnit (draft : Draft) (lhs child : String) : Draft :=
  { draft with rules.unit := addOnce draft.rules.unit ⟨lhs, child⟩ }

/-- The draft with one more rule. -/
def add (draft : Draft) : Addition → Draft
  | .lexical lhs terminal => draft.addLexical lhs terminal
  | .binary lhs left right => draft.addBinary lhs left right
  | .unit lhs child => draft.addUnit lhs child

/-- The draft of some rules, added in order. -/
def ofAdditions (start : String) (additions : List Addition) : Draft :=
  additions.foldl add { start }

/-- The first left side, in ascending order, that has an empty terminal. -/
def emptyTerminal? (draft : Draft) : Option GrammarError :=
  (draft.rules.lexical.keys.find? fun lhs => decide ("" ∈ draft.rules.lexical.get lhs)).map
    .emptyTerminal

/-- The first nonterminal of a right side that has no rules. -/
def undefinedNonterminal? (draft : Draft) : Option GrammarError :=
  (draft.rules.references.find? fun (symbol, _) => !draft.rules.isDefined symbol).map
    fun (symbol, rule) => .undefinedNonterminal symbol rule

/-- The start symbol, if it has no rules. -/
def undefinedStart? (draft : Draft) : Option GrammarError :=
  if draft.rules.isDefined draft.start then none else some (.undefinedStart draft.start)

/-- What keeps the draft from being a grammar; of several faults, the first in this order. -/
def fault? (draft : Draft) : Option GrammarError :=
  draft.emptyTerminal? <|> draft.undefinedNonterminal? <|> draft.undefinedStart?

/-- The grammar of a draft without faults. -/
def build (draft : Draft) : Except GrammarError Grammar :=
  match draft.fault? with
  | some fault => .error fault
  | none => .ok (Grammar.ofRules draft.start draft.rules)

end Draft

end Cyk
