import Cyk.Text.Lowercase.Table

/-!
# Lowercase

The small form of a text.  Two characters do not simply map to one: `İ` becomes two characters, and
`Σ` becomes `ς` at the end of a word and `σ` elsewhere, so the neighbours of a character count.
-/

namespace Cyk.Text

namespace Lowercase

theorem casedPoints_ascending : casedPoints.Ascending := by
  decide +kernel

theorem ignorablePoints_ascending : ignorablePoints.Ascending := by
  decide +kernel

/-- The small form of a code point, found in ascending runs; a code point of none stays itself. -/
def smallPoint : List Run → Nat → Nat
  | [], point => point
  | run :: rest, point =>
    if point < run.first then point
    else if point ≤ run.last then
      if (point - run.first) % run.step = 0 then run.target + (point - run.first) else point
    else smallPoint rest point

/-- The small form of a character that has one of one character. -/
def small (c : Char) : Char :=
  Char.ofNat (smallPoint runs c.toNat)

/-- Whether the nearest letter, reading on past ignorable characters, has case. -/
def meetsCased (text : List Char) : Bool :=
  (text.dropWhile ignorablePoints.has).head?.any casedPoints.has

/-- A word ends at a place with a cased letter before it and none after it.  `before` is the text
before the place, read backwards. -/
def endsWord (before after : List Char) : Bool :=
  meetsCased before && !meetsCased after

/-- The small form of one character between its neighbours. -/
def smallForm (before : List Char) (c : Char) (after : List Char) : List Char :=
  if c = 'Σ' then [if endsWord before after then 'ς' else 'σ']
  else if c = 'İ' then ['i', '\u0307']
  else [small c]

/-- The small form of what follows `before`, which is read backwards. -/
def smallText (before : List Char) : List Char → List Char
  | [] => []
  | c :: rest => smallForm before c rest ++ smallText (c :: before) rest

end Lowercase

/-- The small form of a text. -/
def lowercase (text : String) : String :=
  String.ofList (Lowercase.smallText [] text.toList)

@[simp]
theorem toList_lowercase (text : String) :
    (lowercase text).toList = Lowercase.smallText [] text.toList := by
  simp [lowercase]

end Cyk.Text
