/-!
# Styled text

Text for a terminal: pieces that may carry a style.  A style is written as an escape sequence
before the text and a reset after it; without a terminal the pieces are their plain text.
-/

namespace Cyk.Text

/-- The colours in use. -/
inductive Colour where
  | red
  | green
  | yellow
  | blue
  | cyan
  | brightGreen
deriving DecidableEq, Repr

/-- The number of a foreground colour. -/
def Colour.code : Colour → String
  | .red => "31"
  | .green => "32"
  | .yellow => "33"
  | .blue => "34"
  | .cyan => "36"
  | .brightGreen => "92"

/-- The strength of the letters. -/
inductive Weight where
  | bold
  | faint
deriving DecidableEq, Repr

/-- The number of a weight. -/
def Weight.code : Weight → String
  | .bold => "1"
  | .faint => "2"

/-- A weight, a colour, or both. -/
structure Style where
  weight : Option Weight := none
  colour : Option Colour := none
deriving DecidableEq, Repr

/-- The numbers of a style: the weight, then the colour. -/
def Style.codes (style : Style) : List String :=
  (style.weight.map Weight.code).toList ++ (style.colour.map Colour.code).toList

/-- The sequence that turns a style on. -/
def Style.opening (style : Style) : String :=
  "\x1b[" ++ ";".intercalate style.codes ++ "m"

/-- The sequence that turns every style off. -/
def Style.reset : String := "\x1b[0m"

/-- The text with the opening sequence after each reset in it, so that a reset inside the text does
not end the style early. -/
def Style.reopen (opening : List Char) : List Char → List Char
  | '\x1b' :: '[' :: '0' :: 'm' :: rest =>
    '\x1b' :: '[' :: '0' :: 'm' :: opening ++ Style.reopen opening rest
  | c :: rest => c :: Style.reopen opening rest
  | [] => []

/-- A text in a style, as the terminal reads it. -/
def Style.apply (style : Style) (text : String) : String :=
  style.opening ++ String.ofList (Style.reopen style.opening.toList text.toList) ++ Style.reset

/-- A stretch of text and its style, if it has one. -/
structure Piece where
  text : String
  style : Option Style := none
deriving DecidableEq, Repr

/-- The piece for a terminal that shows styles. -/
def Piece.styled (piece : Piece) : String :=
  match piece.style with
  | none => piece.text
  | some style => style.apply piece.text

/-- The piece as written out, with escape sequences or without. -/
def Piece.render (escapes : Bool) (piece : Piece) : String :=
  if escapes then piece.styled else piece.text

/-- Pieces written out one after another. -/
def renderPieces (escapes : Bool) (pieces : List Piece) : String :=
  String.join (pieces.map (Piece.render escapes))

end Cyk.Text
