import Cyk.Text.Words

/-!
# Statements of a definition

What a grammar definition says, statement by statement.  Every name and terminal keeps its place in
the text of the definition.
-/

namespace Cyk.Definition

open Text

/-- A part of the definition and its place there, in bytes. -/
structure Slice where
  text : String
  span : Span
deriving DecidableEq, Repr

namespace Slice

/-- The slice that begins at a place and has no characters yet. -/
def startingAt (offset : Nat) : Slice :=
  ⟨"", ⟨offset, offset⟩⟩

/-- The slice with the next character of the text. -/
def push (slice : Slice) (c : Char) : Slice :=
  ⟨slice.text.push c, ⟨slice.span.start, slice.span.stop + c.utf8Size⟩⟩

end Slice

/-- A symbol on the right side of a rule. -/
inductive Symbol where
  /-- A quoted text; the slice is what stands between the quotes. -/
  | terminal (content : Slice)
  | nonterminal (name : Slice)
deriving DecidableEq, Repr

/-- The symbol as a definition writes it. -/
def Symbol.text : Symbol → String
  | .terminal content => "\"" ++ content.text ++ "\""
  | .nonterminal name => name.text

/-- A statement: the start symbol, or a nonterminal and the rows of symbols it stands for. -/
inductive Statement where
  | start (symbol : Slice)
  | rule (lhs : Slice) (alternatives : List (List Symbol))
deriving DecidableEq, Repr

end Cyk.Definition
