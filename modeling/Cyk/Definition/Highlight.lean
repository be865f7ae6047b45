import Cyk.Definition.Statement
import Cyk.Text.Styled

/-!
# Highlighting

A definition with its names and terminals in colour.  Everything else, arrows, bars, quotes and
comments, stays where it is and turns faint.
-/

namespace Cyk.Definition

open Text

/-- What a marked part of a definition is. -/
inductive MarkKind where
  | leftSide
  | terminal
  | nonterminal
  | startSymbol
deriving DecidableEq, Repr

/-- A part of a definition that stands out. -/
structure Mark where
  kind : MarkKind
  slice : Slice
deriving DecidableEq, Repr

/-- The mark of a symbol on a right side. -/
def Symbol.mark : Symbol → Mark
  | .terminal content => ⟨.terminal, content⟩
  | .nonterminal name => ⟨.nonterminal, name⟩

/-- The marks of a statement. -/
def Statement.marks : Statement → List Mark
  | .start symbol => [⟨.startSymbol, symbol⟩]
  | .rule lhs alternatives => ⟨.leftSide, lhs⟩ :: alternatives.flatten.map Symbol.mark

/-- All marks, in the order of the text. -/
def marks (statements : List Statement) : List Mark :=
  (statements.flatMap Statement.marks).mergeSort
    fun mark other => mark.slice.span.start ≤ other.slice.span.start

/-- How a kind of part looks. -/
def MarkKind.style : MarkKind → Style
  | .leftSide => { weight := some .bold, colour := some .blue }
  | .terminal => { colour := some .yellow }
  | .nonterminal => { colour := some .cyan }
  | .startSymbol => { weight := some .bold, colour := some .brightGreen }

/-- The look of everything between the marks. -/
def faint : Style := { weight := some .faint }

/-- The characters of the first bytes of a text, and the rest. -/
def splitBytes : Nat → List Char → List Char × List Char
  | 0, text => ([], text)
  | _ + 1, [] => ([], [])
  | bytes, c :: rest =>
    let (front, back) := splitBytes (bytes - c.utf8Size) rest
    (c :: front, back)

/-- Text between marks; nothing where there is none. -/
def gap (text : List Char) : List Piece :=
  if text.isEmpty then [] else [⟨String.ofList text, some faint⟩]

/-- The pieces of the text from `offset` on, with the marks in it. -/
def pieces (offset : Nat) (text : List Char) : List Mark → List Piece
  | [] => gap text
  | mark :: rest =>
    let span := mark.slice.span
    let (before, after) := splitBytes (span.start - offset) text
    let (_, following) := splitBytes (span.stop - span.start) after
    gap before ++ ⟨mark.slice.text, some mark.kind.style⟩ :: pieces span.stop following rest

/-- The definition with its marks in colour. -/
def highlight (definition : String) (statements : List Statement) : List Piece :=
  pieces 0 definition.toList (marks statements)

end Cyk.Definition
