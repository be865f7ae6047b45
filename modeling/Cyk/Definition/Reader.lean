import Cyk.Definition.Parser
import Cyk.Text.Identifier

/-!
# Reading definitions

The parsers of a definition and its parts.  Statements end at a line end or a semicolon; a comment
runs to the end of its line.  Whether a statement is a declaration is found out by trying: a name
that only begins like the keyword, or that an arrow follows, is the left side of a rule.
-/

namespace Cyk.Definition

open Text

/-- A space or a tab: the blanks inside a line. -/
def isInlineBlank (c : Char) : Bool :=
  c == ' ' || c == '\t'

/-- A character that ends a line. -/
def isLineEnd (c : Char) : Bool :=
  c == '\n' || c == '\r' || c == '\x0b' || c == '\x0c' || c == '\u0085' || c == '\u2028' ||
    c == '\u2029'

/-- A character that ends a comment, and cannot stand in a terminal. -/
def isReturn (c : Char) : Bool :=
  c == '\n' || c == '\r'

/-- A character that can stand in a terminal. -/
def isInTerminal (c : Char) : Bool :=
  c != '"' && !isReturn c

/-- The name that begins a declaration of the start symbol. -/
def startKeyword : String := "start"

namespace Parser

variable {α : Type}

/-! ## Blanks, comments and line ends -/

/-- Any number of spaces and tabs. -/
def inlineBlanks : Parser Unit :=
  discard (repeated (token .blank .anything isInlineBlank))

/-- Something with blanks around it. -/
def padded (parser : Parser α) : Parser α := do
  inlineBlanks
  let value ← parser
  inlineBlanks
  return value

/-- A character that ends a line, or a carriage return and a line feed together. -/
def newline : Parser Unit := fun cursor =>
  match cursor.rest with
  | '\r' :: '\n' :: rest => ⟨some ((), ⟨cursor.offset + 2, rest⟩), none⟩
  | _ => token .lineEnd .lineEnd isLineEnd cursor

/-- A `#` and everything up to the end of the line, but not that end. -/
def comment : Parser Unit := do
  just ['#']
  discard (repeated (token .somethingElse .somethingElse (!isReturn ·)))

/-- The end of a line, and what may stand before it. -/
def lineEnd : Parser Unit := do
  inlineBlanks
  discard (optional comment)
  newline

/-- What ends a statement. -/
def separatorItem : Parser Unit :=
  lineEnd <|> just [';']

/-- What stands between statements. -/
def separator : Parser Unit :=
  discard (repeatedOnce separatorItem)

/-! ## Symbols -/

/-- A name. -/
def identifier : Parser Slice :=
  sliced do
    token .identifier .anything isIdentifierStart
    discard (repeated (token .identifier .anything isIdentifierContinue))

/-- A text between quotes. -/
def terminal : Parser Symbol := do
  just ['"']
  let content ← sliced (repeatedOnce (token .somethingElse .somethingElse isInTerminal))
  just ['"']
  return .terminal content

/-- A symbol of a right side. -/
def symbol : Parser Symbol :=
  terminal <|> .nonterminal <$> identifier

/-! ## Statements -/

/-- One of the rows of symbols that a nonterminal stands for. -/
def alternative : Parser (List Symbol) :=
  repeatedOnce (padded symbol)

/-- A name, an arrow and alternatives. -/
def rule : Parser Statement := do
  let lhs ← identifier
  padded (just ['-', '>'])
  let alternatives ← separatedOnce (padded (just ['|'])) alternative
  return .rule lhs alternatives

/-- The keyword, a colon and a name. -/
def startDeclaration : Parser Statement := do
  just startKeyword.toList
  padded (just [':'])
  .start <$> identifier

/-- A declaration or, where there is none, a rule. -/
def statement : Parser Statement :=
  startDeclaration <|> rule

/-- A whole definition: statements with separators between them, blank lines and comments. -/
def rules : Parser (List Statement) := do
  let statements ← separated separator (padded statement)
  inlineBlanks
  discard (optional comment)
  endOfInput
  return statements

end Parser

/-- The statements of a definition, or the error for which there are none. -/
def read (definition : String) : Except SyntaxError (List Statement) :=
  let result := Parser.rules.parse definition
  match result.output with
  | some statements => .ok statements
  -- Where there are no statements there is an error, so the one made up here is never given.
  | none => .error (result.errors.headD ⟨none, [], ⟨0, 0⟩⟩)

end Cyk.Definition
