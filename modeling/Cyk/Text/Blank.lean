import Cyk.Text.CodePoints

/-!
# Blank characters

The Unicode property `White_Space`, and cutting blanks and other runs off the ends of a text.
-/

namespace Cyk.Text

/-- The property `White_Space`. -/
def blankPoints : CodePoints :=
  [(0x9, 0xD), (0x20, 0x20), (0x85, 0x85), (0xA0, 0xA0), (0x1680, 0x1680), (0x2000, 0x200A),
   (0x2028, 0x2029), (0x202F, 0x202F), (0x205F, 0x205F), (0x3000, 0x3000)]

theorem blankPoints_ascending : blankPoints.Ascending := by decide

/-- Whether a character separates words. -/
def isBlank (c : Char) : Bool :=
  blankPoints.has c

theorem isBlank_iff (c : Char) :
    isBlank c = true ↔ ∃ interval ∈ blankPoints, interval.1 ≤ c.toNat ∧ c.toNat ≤ interval.2 :=
  CodePoints.covers_iff blankPoints_ascending c.toNat

/-- The text without its longest suffix of characters in the class. -/
def dropEndWhile (inClass : Char → Bool) (text : List Char) : List Char :=
  (text.reverse.dropWhile inClass).reverse

/-- The text without the blanks at its end. -/
def trimEnd (text : List Char) : List Char :=
  dropEndWhile isBlank text

/-- The text without the blanks at either end. -/
def trim (text : List Char) : List Char :=
  trimEnd (text.dropWhile isBlank)

theorem isPrefix_dropEndWhile (inClass : Char → Bool) (text : List Char) :
    dropEndWhile inClass text <+: text := by
  have suffix := List.dropWhile_suffix inClass (l := text.reverse)
  simpa [dropEndWhile] using List.reverse_prefix.mpr suffix

theorem length_dropEndWhile_le (inClass : Char → Bool) (text : List Char) :
    (dropEndWhile inClass text).length ≤ text.length :=
  (isPrefix_dropEndWhile inClass text).length_le

end Cyk.Text
