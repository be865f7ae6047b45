import Cyk.Text.Words

/-!
# Syntax errors

An error names the first character that no definition can have at its place, or the end of a text
that no definition ends with, and what could have been there instead.
-/

namespace Cyk.Definition

open Text

/-- Something that could have come next. -/
inductive Expectation where
  | blank
  | lineEnd
  | identifier
  | character (c : Char)
  | endOfInput
  /-- Some character, where the text ends too early. -/
  | anything
  /-- Some other character than the one that came. -/
  | somethingElse
deriving DecidableEq, Repr

/-- The name of what could have come next. -/
def Expectation.text : Expectation → String
  | .blank => "inline whitespace"
  | .lineEnd => "newline"
  | .identifier => "identifier"
  | .character c => String.ofList ['\'', c, '\'']
  | .endOfInput => "end of input"
  | .anything => "any"
  | .somethingElse => "something else"

/-- Names in a row, with a comma after each but the last and an `or` before the last. -/
def choice : List String → String
  | [] => ""
  | [only] => only
  | [first, last] => first ++ ", or " ++ last
  | first :: rest => first ++ ", " ++ choice rest

/-- Where reading a definition failed, and why. -/
structure SyntaxError where
  /-- The character that cannot be there; at the end of the text there is none. -/
  found : Option Char
  expected : List Expectation
  /-- The bytes of the character. -/
  span : Span
deriving DecidableEq, Repr

/-- What was found and what could have been there. -/
def SyntaxError.message (error : SyntaxError) : String :=
  let found :=
    match error.found with
    | some c => (Expectation.character c).text
    | none => Expectation.endOfInput.text
  "found " ++ found ++ " expected " ++ choice (error.expected.map Expectation.text)

/-- The message with the place of the error. -/
def SyntaxError.located (error : SyntaxError) : String :=
  error.message ++ " at " ++ toString error.span.start ++ ".." ++ toString error.span.stop

end Cyk.Definition
