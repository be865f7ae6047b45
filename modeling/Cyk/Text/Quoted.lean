import Cyk.Text.Quoted.Table

/-!
# Quoted text

A text between double quotes, in which every character can be told apart: line ends, quotes and
backslashes have short escapes, and whatever has no visible form of its own is written by its code
point.
-/

namespace Cyk.Text

namespace Quoted

theorem combiningPoints_ascending : combiningPoints.Ascending := by
  decide +kernel

theorem invisiblePoints_ascending : invisiblePoints.Ascending := by
  decide +kernel

/-- The escape that names a code point in hexadecimal. -/
def pointEscape (c : Char) : List Char :=
  ['\\', 'u', '\x7b'] ++ Nat.toDigits 16 c.toNat ++ ['\x7d']

/-- One character inside the quotes. -/
def encodeChar (c : Char) : List Char :=
  if c = '\x00' then ['\\', '0']
  else if c = '\t' then ['\\', 't']
  else if c = '\r' then ['\\', 'r']
  else if c = '\n' then ['\\', 'n']
  else if c = '"' then ['\\', '"']
  else if c = '\\' then ['\\', '\\']
  else if combiningPoints.has c || invisiblePoints.has c then pointEscape c
  else [c]

end Quoted

/-- The text in quotes. -/
def quoted (text : String) : String :=
  String.ofList ('"' :: text.toList.flatMap Quoted.encodeChar ++ ['"'])

end Cyk.Text
