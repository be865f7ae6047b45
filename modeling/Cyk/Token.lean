import Cyk.Text.Words

/-!
# Tokens

The units a sentence is checked by: single words, or the words of a phrase taken together.
-/

namespace Cyk

open Text

/-- One terminal of a sentence.  Positions count from one; the span lies in the normal form of the
sentence. -/
structure Token where
  text : String
  position : Nat
  span : Span
deriving DecidableEq, Repr

/-- Neighbouring words that form one token. -/
structure Segment where
  first : Word
  more : List Word
deriving DecidableEq, Repr

namespace Segment

/-- The words of a segment, in order. -/
def words (segment : Segment) : List Word :=
  segment.first :: segment.more

/-- The last word of a segment. -/
def last (segment : Segment) : Word :=
  segment.more.getLast?.getD segment.first

/-- The words with one space between neighbours. -/
def text (segment : Segment) : String :=
  joinWords (segment.words.map Word.text)

/-- The token of a segment: it reaches from the first byte of the first word to the last byte of
the last. -/
def token (segment : Segment) (position : Nat) : Token where
  text := segment.text
  position := position
  span := ⟨segment.first.span.start, segment.last.span.stop⟩

end Segment

end Cyk
