import Cyk.Definition.Reader

/-!
# The shape of a definition

How a definition is written, said without a reader.  Each relation holds between a text that begins
with something, what that says, and the text behind it.  Names and comments are as long as they can
be; the parameter `longest` tells whether a carriage return and a line feed must be taken as one
line break where they could be.
-/

namespace Cyk.Definition

open Text

/-- A symbol without its place in the text. -/
inductive PlainSymbol where
  | terminal (text : String)
  | nonterminal (name : String)
deriving DecidableEq, Repr

/-- A statement without the places of its symbols in the text. -/
inductive PlainStatement where
  | start (symbol : String)
  | rule (lhs : String) (alternatives : List (List PlainSymbol))
deriving DecidableEq, Repr

/-- What a symbol says. -/
def Symbol.plain : Symbol → PlainSymbol
  | .terminal content => .terminal content.text
  | .nonterminal name => .nonterminal name.text

/-- What a statement says. -/
def Statement.plain : Statement → PlainStatement
  | .start symbol => .start symbol.text
  | .rule lhs alternatives => .rule lhs.text (alternatives.map (·.map Symbol.plain))

namespace Shape

/-- Any number of spaces and tabs. -/
inductive Blanks : List Char → List Char → Prop where
  | none {rest : List Char} : Blanks rest rest
  | more {c : Char} {text rest : List Char} (blank : isInlineBlank c = true)
    (others : Blanks text rest) : Blanks (c :: text) rest

/-- One of the characters that end a line, or a carriage return and a line feed together. -/
inductive LineBreak (longest : Bool) : List Char → List Char → Prop where
  | pair {rest : List Char} : LineBreak longest ('\r' :: '\n' :: rest) rest
  | single {c : Char} {rest : List Char} (ends : isLineEnd c = true)
    (alone : longest = true → ¬ (c = '\r' ∧ rest.head? = some '\n')) :
    LineBreak longest (c :: rest) rest

/-- A `#` and everything up to the next carriage return or line feed, or up to the end. -/
inductive Comment : List Char → List Char → Prop where
  | mk {body rest : List Char} (within : ∀ c ∈ body, isReturn c = false)
    (stops : ∀ c ∈ rest.head?, isReturn c = true) : Comment ('#' :: (body ++ rest)) rest

/-- A comment or nothing. -/
inductive OptionalComment : List Char → List Char → Prop where
  | none {rest : List Char} : OptionalComment rest rest
  | some {text rest : List Char} (comment : Comment text rest) : OptionalComment text rest

/-- A semicolon, or a line break after blanks and perhaps a comment. -/
inductive SeparatorItem (longest : Bool) : List Char → List Char → Prop where
  | semicolon {rest : List Char} : SeparatorItem longest (';' :: rest) rest
  | line {text afterBlanks afterComment rest : List Char} (blanks : Blanks text afterBlanks)
    (comment : OptionalComment afterBlanks afterComment)
    (lineBreak : LineBreak longest afterComment rest) : SeparatorItem longest text rest

/-- One separator item or more. -/
inductive Separator (longest : Bool) : List Char → List Char → Prop where
  | one {text rest : List Char} (item : SeparatorItem longest text rest) :
    Separator longest text rest
  | more {text next rest : List Char} (item : SeparatorItem longest text next)
    (others : Separator longest next rest) : Separator longest text rest

/-- Any number of separator items. -/
inductive OptionalSeparator (longest : Bool) : List Char → List Char → Prop where
  | none {rest : List Char} : OptionalSeparator longest rest rest
  | some {text rest : List Char} (separator : Separator longest text rest) :
    OptionalSeparator longest text rest

/-- A name that no character behind it continues. -/
inductive Name : List Char → String → List Char → Prop where
  | mk {name rest : List Char} (identifier : isIdentifier name = true)
    (stops : ∀ c ∈ rest.head?, isIdentifierContinue c = false) :
    Name (name ++ rest) (String.ofList name) rest

/-- A name, or one or more characters between quotes, none of them a quote, a carriage return or a
line feed. -/
inductive OneSymbol : List Char → PlainSymbol → List Char → Prop where
  | nonterminal {text rest : List Char} {name : String} (named : Name text name rest) :
    OneSymbol text (.nonterminal name) rest
  | terminal {content rest : List Char} (nonempty : content ≠ [])
    (within : ∀ c ∈ content, c ≠ '"' ∧ isReturn c = false) :
    OneSymbol ('"' :: (content ++ '"' :: rest)) (.terminal (String.ofList content)) rest

/-- One symbol or more, with or without blanks between neighbours. -/
inductive Alternative : List Char → List PlainSymbol → List Char → Prop where
  | one {text rest : List Char} {symbol : PlainSymbol} (only : OneSymbol text symbol rest) :
    Alternative text [symbol] rest
  | more {text afterSymbol next rest : List Char} {symbol : PlainSymbol}
    {symbols : List PlainSymbol} (first : OneSymbol text symbol afterSymbol)
    (blanks : Blanks afterSymbol next) (others : Alternative next symbols rest) :
    Alternative text (symbol :: symbols) rest

/-- One alternative or more, with bars between them and blanks around the bars. -/
inductive Alternatives : List Char → List (List PlainSymbol) → List Char → Prop where
  | one {text rest : List Char} {symbols : List PlainSymbol}
    (only : Alternative text symbols rest) : Alternatives text [symbols] rest
  | more {text afterSymbols afterBar next rest : List Char} {symbols : List PlainSymbol}
    {alternatives : List (List PlainSymbol)} (first : Alternative text symbols afterSymbols)
    (blanksBefore : Blanks afterSymbols ('|' :: afterBar)) (blanksAfter : Blanks afterBar next)
    (others : Alternatives next alternatives rest) :
    Alternatives text (symbols :: alternatives) rest

/-- The keyword, a colon and a name; or a name, an arrow and alternatives. -/
inductive OneStatement : List Char → PlainStatement → List Char → Prop where
  | start {afterKeyword afterColon next rest : List Char} {symbol : String}
    (blanksBefore : Blanks afterKeyword (':' :: afterColon)) (blanksAfter : Blanks afterColon next)
    (named : Name next symbol rest) :
    OneStatement (startKeyword.toList ++ afterKeyword) (.start symbol) rest
  | rule {text afterName afterArrow next rest : List Char} {lhs : String}
    {alternatives : List (List PlainSymbol)} (named : Name text lhs afterName)
    (blanksBefore : Blanks afterName ('-' :: '>' :: afterArrow))
    (blanksAfter : Blanks afterArrow next) (right : Alternatives next alternatives rest) :
    OneStatement text (.rule lhs alternatives) rest

/-- The end, after a separator, blanks and a comment, each of which may be missing. -/
inductive Closing (longest : Bool) : List Char → Prop where
  | mk {text next afterBlanks : List Char} (separator : OptionalSeparator longest text next)
    (blanks : Blanks next afterBlanks) (comment : OptionalComment afterBlanks []) :
    Closing longest text

/-- Any number of statements, each with a separator before it and blanks around it, and the end. -/
inductive Following (longest : Bool) : List Char → List PlainStatement → Prop where
  | closing {text : List Char} (ending : Closing longest text) : Following longest text []
  | statement {text next afterBlanks afterStatement rest : List Char} {first : PlainStatement}
    {statements : List PlainStatement} (separator : Separator longest text next)
    (blanksBefore : Blanks next afterBlanks)
    (written : OneStatement afterBlanks first afterStatement)
    (blanksAfter : Blanks afterStatement rest) (others : Following longest rest statements) :
    Following longest text (first :: statements)

/-- A whole definition: statements with separators between them, and perhaps one before them. -/
inductive Whole (longest : Bool) : List Char → List PlainStatement → Prop where
  | empty {text next : List Char} (separator : OptionalSeparator longest text next)
    (ending : Closing longest next) : Whole longest text []
  | statements {text next afterBlanks afterStatement rest : List Char} {first : PlainStatement}
    {statements : List PlainStatement} (separator : OptionalSeparator longest text next)
    (blanksBefore : Blanks next afterBlanks)
    (written : OneStatement afterBlanks first afterStatement)
    (blanksAfter : Blanks afterStatement rest) (others : Following longest rest statements) :
    Whole longest text (first :: statements)

end Shape

end Cyk.Definition
