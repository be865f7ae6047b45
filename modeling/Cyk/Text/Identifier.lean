import Cyk.Text.Identifier.Table

/-!
# Identifiers

Which characters begin a name and which continue one.
-/

namespace Cyk.Text

theorem Identifier.startPoints_ascending : Identifier.startPoints.Ascending := by
  decide +kernel

theorem Identifier.continuePoints_ascending : Identifier.continuePoints.Ascending := by
  decide +kernel

/-- A name begins with an underscore or a letter. -/
def isIdentifierStart (c : Char) : Bool :=
  c == '_' || Identifier.startPoints.has c

/-- A name goes on with letters, digits, marks and connectors. -/
def isIdentifierContinue (c : Char) : Bool :=
  Identifier.continuePoints.has c

/-- Whether a text is a name: one character that begins it and any number that continue it. -/
def isIdentifier : List Char → Bool
  | [] => false
  | c :: rest => isIdentifierStart c && rest.all isIdentifierContinue

end Cyk.Text
