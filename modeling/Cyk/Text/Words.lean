import Cyk.Text.Blank

/-!
# Words

A text is cut into words at its blanks.  Each word keeps the place it came from, counted in bytes
of UTF-8.
-/

namespace Cyk.Text

/-- The number of bytes a text takes. -/
def byteLength : List Char → Nat
  | [] => 0
  | c :: rest => c.utf8Size + byteLength rest

@[simp]
theorem byteLength_nil : byteLength [] = 0 := rfl

@[simp]
theorem byteLength_cons (c : Char) (rest : List Char) :
    byteLength (c :: rest) = c.utf8Size + byteLength rest := rfl

@[simp]
theorem byteLength_append (front back : List Char) :
    byteLength (front ++ back) = byteLength front + byteLength back := by
  induction front with
  | nil => simp
  | cons c rest ih => simp [ih, Nat.add_assoc]

theorem byteLength_pos {text : List Char} (nonempty : text ≠ []) : 0 < byteLength text := by
  cases text with
  | nil => contradiction
  | cons c rest => exact Nat.add_pos_left c.utf8Size_pos _

/-- A range of bytes of some text; the byte at `stop` is outside. -/
structure Span where
  start : Nat
  stop : Nat
deriving DecidableEq, Repr

/-- A word and its place in the text it was cut from. -/
structure Word where
  text : String
  span : Span
deriving DecidableEq, Repr

/-- The words of a text whose first byte is at `offset`. -/
def wordsFrom (offset : Nat) : List Char → List Word
  | [] => []
  | c :: rest =>
    if isBlank c then wordsFrom (offset + c.utf8Size) rest
    else
      let word := c :: rest.takeWhile (!isBlank ·)
      let stop := offset + byteLength word
      ⟨String.ofList word, ⟨offset, stop⟩⟩ :: wordsFrom stop (rest.dropWhile (!isBlank ·))
termination_by text => text.length
decreasing_by
  · simp
  · have := (List.dropWhile_suffix (!isBlank ·) (l := rest)).length_le
    simp only [List.length_cons]
    omega

/-- The words of a text, with their places. -/
def words (text : String) : List Word :=
  wordsFrom 0 text.toList

/-- The words of a text. -/
def splitWords (text : String) : List String :=
  (words text).map Word.text

/-- Words with one space between neighbours. -/
def joinWords (parts : List String) : String :=
  " ".intercalate parts

end Cyk.Text
