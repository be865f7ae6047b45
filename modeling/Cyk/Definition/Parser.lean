import Cyk.Definition.Statement
import Cyk.Definition.SyntaxError

/-!
# Parsers

A parser runs at a place in a text: it takes some of the text and gives a value, or it fails.  In a
choice the first way that succeeds is taken, and a way that fails is gone back; a repetition takes
as many items as it can.  The failure that lies furthest behind is kept on all ways, also on those
that were given up, and is the error if nothing succeeds.
-/

namespace Cyk.Definition

open Text

/-- A place in a text: how many bytes are in front of it, and what is behind it. -/
structure Cursor where
  offset : Nat
  rest : List Char
deriving DecidableEq, Repr

/-- The error at a place where something else should be. -/
def Cursor.missing (cursor : Cursor) (expected : List Expectation) : SyntaxError :=
  ⟨cursor.rest.head?, expected,
    ⟨cursor.offset, cursor.offset + cursor.rest.head?.elim 0 Char.utf8Size⟩⟩

/-- What was expected, and what was expected at the same place later.  Where the later one is any
character at all, the text has ended and nothing else is kept. -/
def Expectation.join (expected later : List Expectation) : List Expectation :=
  if .anything ∈ later then later else expected ++ later.filter (· ∉ expected)

/-- Of two failures the one that lies further behind; two at the same place are one. -/
def SyntaxError.merge (error later : SyntaxError) : SyntaxError :=
  if later.span.start < error.span.start then error
  else if error.span.start < later.span.start then later
  else { error with expected := Expectation.join error.expected later.expected }

/-- How a parser has run: its value and the place behind what it has taken, unless it has failed;
and the failure that lies furthest behind. -/
structure Run (α : Type) where
  result : Option (α × Cursor)
  furthest : Option SyntaxError
deriving Repr

namespace Run

variable {α β : Type}

/-- The run with another value. -/
def map (f : α → β) (run : Run α) : Run β :=
  ⟨run.result.map fun (value, behind) => (f value, behind), run.furthest⟩

/-- The run after another one that had a failure on its way. -/
def after (run : Run α) (failure : Option SyntaxError) : Run α :=
  ⟨run.result, failure.merge SyntaxError.merge run.furthest⟩

end Run

/-- What runs at a place in a text. -/
def Parser (α : Type) : Type :=
  Cursor → Run α

namespace Parser

variable {α β : Type}

/-- A parser that runs where the one before it has stopped. -/
def andThen (first : Parser α) (next : α → Parser β) : Parser β := fun cursor =>
  match first cursor with
  | ⟨none, failure⟩ => ⟨none, failure⟩
  | ⟨some (value, behind), failure⟩ => (next value behind).after failure

/-- A parser and another one, which runs at the same place if the first one fails. -/
def orElse (first : Parser α) (second : Unit → Parser α) : Parser α := fun cursor =>
  match first cursor with
  | ⟨none, failure⟩ => (second () cursor).after failure
  | run => run

instance : Monad Parser where
  pure value := fun cursor => ⟨some (value, cursor), none⟩
  bind := andThen

instance : Alternative Parser where
  failure := fun _ => ⟨none, none⟩
  orElse := orElse

/-- One character of a kind.  At the end of the text, something else may be said to be missing. -/
def token (expectation atEnd : Expectation) (inKind : Char → Bool) : Parser Unit := fun cursor =>
  match cursor.rest with
  | [] => ⟨none, some (cursor.missing [atEnd])⟩
  | c :: rest =>
    if inKind c then ⟨some ((), ⟨cursor.offset + c.utf8Size, rest⟩), none⟩
    else ⟨none, some (cursor.missing [expectation])⟩

/-- These characters one after the other. -/
def just : List Char → Parser Unit
  | [] => pure ()
  | c :: others => do
    token (.character c) (.character c) (· == c)
    just others

/-- The values of one round after another, up to one that gives none.  A round with a value must
take some of the text. -/
def rounds (round : Parser (Option α)) : Parser (List α) := fun cursor =>
  match round cursor with
  | ⟨none, failure⟩ => ⟨none, failure⟩
  | ⟨some (none, behind), failure⟩ => ⟨some ([], behind), failure⟩
  | ⟨some (some value, behind), failure⟩ =>
    if behind.rest.length < cursor.rest.length then
      ((rounds round behind).map (value :: ·)).after failure
    else ⟨none, failure⟩
termination_by cursor => cursor.rest.length

/-- As many items as there are. -/
def repeated (item : Parser α) : Parser (List α) :=
  rounds (some <$> item <|> pure none)

/-- As many items as there are, and one at least. -/
def repeatedOnce (item : Parser α) : Parser (List α) := do
  let first ← item
  let others ← repeated item
  return first :: others

/-- As many items as there are, each after a separator.  A separator that no item comes after may
be taken as well, or else is gone back. -/
def separatedAfter (separator : Parser Unit) (item : Parser α) (trailing : Bool) :
    Parser (List α) :=
  rounds
    ((do separator; some <$> item <|> (if trailing then pure none else failure)) <|> pure none)

/-- One item or more with separators between them. -/
def separatedOnce (separator : Parser Unit) (item : Parser α) : Parser (List α) := do
  let first ← item
  let others ← separatedAfter separator item false
  return first :: others

/-- Any number of items with separators between them, and perhaps one before and one after. -/
def separated (separator : Parser Unit) (item : Parser α) : Parser (List α) := do
  discard (optional separator)
  (do let first ← item
      let others ← separatedAfter separator item true
      return first :: others) <|> pure []

/-- The part of the text that a parser takes. -/
def sliced (parser : Parser α) : Parser Slice := fun cursor =>
  match parser cursor with
  | ⟨none, failure⟩ => ⟨none, failure⟩
  | ⟨some (_, behind), failure⟩ =>
    let taken := cursor.rest.take (cursor.rest.length - behind.rest.length)
    ⟨some (⟨String.ofList taken, ⟨cursor.offset, behind.offset⟩⟩, behind), failure⟩

/-- The end of the text. -/
def endOfInput : Parser Unit := fun cursor =>
  if cursor.rest.isEmpty then ⟨some ((), cursor), none⟩
  else ⟨none, some (cursor.missing [.endOfInput])⟩

end Parser

/-- What comes of a whole text: a value, if there is one, and errors. -/
structure ParseResult (α : Type) where
  output : Option α
  errors : List SyntaxError
deriving DecidableEq, Repr

/-- Runs a parser on a whole text, to its end. -/
def Parser.parse {α : Type} (parser : Parser α) (text : String) : ParseResult α :=
  let run := (do let value ← parser; endOfInput; return value : Parser α) ⟨0, text.toList⟩
  match run.result with
  | some (value, _) => ⟨some value, []⟩
  | none => ⟨none, run.furthest.toList⟩

end Cyk.Definition
