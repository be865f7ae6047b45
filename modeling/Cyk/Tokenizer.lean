import Cyk.Text.Normal
import Cyk.Token

/-!
# Tokenizing

A sentence is cut into words, and neighbouring words that spell a known phrase become one token.
Phrases are tried at each word in the order they were given, and the first that fits is taken.
-/

namespace Cyk

open Text

/-- The phrases that stay together, each as its words. -/
structure Tokenizer where
  phrases : List (List String)
deriving DecidableEq, Repr

namespace Tokenizer

/-- The tokenizer for some phrases, tried in the given order.  A phrase of one word needs no
folding and is left out. -/
def ofPhrases (phrases : List String) : Tokenizer :=
  ⟨(phrases.map fun phrase => (splitWords phrase).map lowercase).filter (1 < ·.length)⟩

/-- The first phrase that the words begin with. -/
def phraseAt (tokenizer : Tokenizer) (words : List Word) : Option (List String) :=
  tokenizer.phrases.find? (·.isPrefixOf (words.map Word.text))

/-- How many words after the first belong to the token at the head of the words. -/
def extent (tokenizer : Tokenizer) (words : List Word) : Nat :=
  match tokenizer.phraseAt words with
  | some phrase => phrase.length - 1
  | none => 0

/-- The words, grouped into the segments of tokens. -/
def segments (tokenizer : Tokenizer) : List Word → List Segment
  | [] => []
  | first :: rest =>
    let extent := tokenizer.extent (first :: rest)
    ⟨first, rest.take extent⟩ :: segments tokenizer (rest.drop extent)
termination_by words => words.length
decreasing_by
  simp only [List.length_drop, List.length_cons]
  omega

/-- Segments as tokens, numbered from one. -/
def number (segments : List Segment) : List Token :=
  segments.mapIdx fun index segment => segment.token (index + 1)

/-- The tokens of a sentence. -/
def tokenize (tokenizer : Tokenizer) (sentence : String) : List Token :=
  number (tokenizer.segments (words (normalize sentence)))

end Tokenizer

end Cyk
