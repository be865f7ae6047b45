import Cyk.Text.Lowercase
import Cyk.Text.Words

/-!
# Normal forms

Sentences and terminals are compared in a normal form.  Both are in small letters; a sentence also
loses the blanks around it and the full stops at its end, and a terminal keeps one space between
its words.
-/

namespace Cyk.Text

/-- The text without the full stops at its end, and then without the blanks before those. -/
def dropStops (text : List Char) : List Char :=
  trimEnd (dropEndWhile (· == '.') text)

/-- The text without full stops at its end, however they are mixed with blanks. -/
def dropAllStops (text : List Char) : List Char :=
  if (dropStops text).length < text.length then dropAllStops (dropStops text) else text
termination_by text.length

/-- The normal form of a sentence. -/
def normalize (sentence : String) : String :=
  String.ofList (dropAllStops (trim (lowercase sentence).toList))

/-- The normal form of a terminal. -/
def normalizeTerminal (terminal : String) : String :=
  joinWords ((splitWords terminal).map lowercase)

end Cyk.Text
