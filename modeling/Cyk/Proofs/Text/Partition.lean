import Cyk.Proofs.Text.Layout

/-!
# Tokens partition a sentence

No word of a sentence is lost, doubled or cut in two by the tokenizer.  Its tokens lie in the normal
form of the sentence with nothing but blanks between them, and each of them is the first phrase that
fits where it begins, or else a single word.
-/

namespace Cyk

open Text

/-- A phrase of several words fits where the words begin with its own in small form. -/
def Fits (words : List String) (phrase : String) : Prop :=
  1 < (splitWords phrase).length ∧ (splitWords phrase).map lowercase <+: words

instance (words : List String) (phrase : String) : Decidable (Fits words phrase) :=
  inferInstanceAs (Decidable (_ ∧ _))

/-- The text of the token where some words begin: the first phrase of a list that fits, or else the
first of the words. -/
inductive Takes (phrases words : List String) : String → Prop
  | phrase {before after : List String} {phrase : String}
    (listed : phrases = before ++ phrase :: after) (fits : Fits words phrase)
    (first : ∀ other ∈ before, ¬ Fits words other) :
    Takes phrases words (joinWords ((splitWords phrase).map lowercase))
  | word {word : String} {rest : List String} (unfit : ∀ phrase ∈ phrases, ¬ Fits words phrase)
    (begins : words = word :: rest) : Takes phrases words word

/-- What it means that tokens partition a text, in which some phrases stay together. -/
structure Partition (phrases : List String) (text : String) (tokens : List Token) : Prop where
  words_eq : (tokens.map (·.text)).flatMap splitWords = splitWords text
  position_eq : ∀ before token after, tokens = before ++ token :: after →
    token.position = before.length + 1
  /-- Each token lies in the text with its span, and has the text of its slice, once the gaps in it
  are single spaces. -/
  slice : ∀ token ∈ tokens, ∃ slice, token.span.Holds text.toList slice ∧ IsTrimmed slice ∧
    token.text = joinWords (splitWords (String.ofList slice))
  /-- Between the spans of neighbours there are blanks. -/
  gap : ∀ before token next after, tokens = before ++ token :: next :: after →
    ∃ gap, Span.Holds ⟨token.span.stop, next.span.start⟩ text.toList gap ∧ gap ≠ [] ∧
      ∀ c ∈ gap, isBlank c = true
  ascending : tokens.Pairwise fun token later =>
    token.span.start < token.span.stop ∧ token.span.stop < later.span.start
  start_eq : ∀ token ∈ tokens.head?, token.span.start = 0
  stop_eq : ∀ token ∈ tokens.getLast?, token.span.stop = byteLength text.toList
  /-- Each token is what the phrases make of the words from its first one on. -/
  taken : ∀ before token after, tokens = before ++ token :: after →
    Takes phrases (((token :: after).map (·.text)).flatMap splitWords) token.text

/-! ## What is taken -/

namespace Tokenizer

theorem phraseAt_ofPhrases (phrases : List String) (words : List Word) :
    (ofPhrases phrases).phraseAt words =
      (phrases.find? fun phrase => Fits (words.map Word.text) phrase).map
        fun phrase => (splitWords phrase).map lowercase := by
  rw [phraseAt, ofPhrases, List.find?_filter, List.find?_map]
  congr 2
  funext phrase
  rw [Bool.eq_iff_iff, decide_eq_true_iff (p := Fits (words.map Word.text) phrase)]
  simp [Fits]

theorem takes_ofPhrases (phrases : List String) (first : Word) (rest : List Word) :
    Takes phrases ((first :: rest).map Word.text)
      (Segment.text ⟨first, rest.take ((ofPhrases phrases).extent (first :: rest))⟩) := by
  rw [extent, phraseAt_ofPhrases]
  cases found : phrases.find? fun phrase => Fits ((first :: rest).map Word.text) phrase with
  | none =>
    have unfit : ∀ phrase ∈ phrases, ¬ Fits ((first :: rest).map Word.text) phrase := by
      simpa using List.find?_eq_none.mp found
    have single : Segment.text ⟨first, rest.take 0⟩ = first.text := joinWords_singleton first.text
    rw [Option.map_none, single]
    exact .word unfit rfl
  | some phrase =>
    rcases List.find?_eq_some_iff_append.mp found with ⟨fits, before, after, listed, unfit⟩
    have fits : Fits ((first :: rest).map Word.text) phrase := of_decide_eq_true fits
    have taken := List.prefix_iff_eq_take.mp fits.2
    have several : (splitWords phrase).length - 1 + 1 = (splitWords phrase).length :=
      Nat.sub_add_cancel (Nat.le_of_lt fits.1)
    rw [List.length_map, ← several, ← List.map_take, List.take_succ_cons] at taken
    have spelled : Segment.text ⟨first, rest.take ((splitWords phrase).length - 1)⟩ =
        joinWords ((splitWords phrase).map lowercase) := by
      rw [taken]
      rfl
    simp only [Option.map_some, List.length_map, spelled]
    exact .phrase listed fits (by simpa using unfit)

end Tokenizer

/-! ## The partition -/

/-- **Tokens partition the sentence.**  Whatever phrases stay together, the tokens of a sentence
take its normal form apart: they have all its words in order, they lie in it from its first
character to its last with blanks between them and nothing else, and each is the first phrase that
fits where it begins, or a single word if none does. -/
theorem tokens_partition_sentence (phrases : List String) (sentence : String) :
    Partition phrases (normalize sentence) ((Tokenizer.ofPhrases phrases).tokenize sentence) where
  words_eq := Tokenizer.flatMap_splitWords_tokenize _ sentence
  position_eq before token after parts := by
    rcases Tokenizer.exists_segment_of_tokenize parts with ⟨first, rest, -, rfl⟩
    rfl
  slice token member := by
    rcases (Tokenizer.laid_tokenize (List.ne_nil_of_mem member)).exists_slice member with
      ⟨front, slice, back, whole, here⟩
    rw [Nat.zero_add] at here
    exact ⟨slice, ⟨front, back, whole, here.span_eq⟩, here.trimmed, here.text_eq⟩
  gap before token next after parts := by
    have filled : (Tokenizer.ofPhrases phrases).tokenize sentence ≠ [] := by
      rw [parts]
      exact List.append_ne_nil_of_right_ne_nil before (List.cons_ne_nil token (next :: after))
    have laid := Tokenizer.laid_tokenize filled
    rw [parts] at laid
    rcases laid.exists_gap with
      ⟨front, slice, gap, slice', back, whole, here, nonempty, blank, there⟩
    have start : next.span.start = byteLength (front ++ slice) + byteLength gap := by
      rw [there.span_eq, byteLength_append, Nat.zero_add]
    have stop : token.span.stop = byteLength (front ++ slice) := by
      rw [here.span_eq, byteLength_append, Nat.zero_add]
    rw [start, stop]
    exact ⟨gap, ⟨front ++ slice, slice' ++ back, by rw [whole, List.append_assoc], rfl⟩, nonempty,
      blank⟩
  ascending := by
    by_cases none : (Tokenizer.ofPhrases phrases).tokenize sentence = []
    · rw [none]
      exact List.Pairwise.nil
    · exact Token.pairwise_of_laid (Tokenizer.laid_tokenize none)
  start_eq token first := by
    have filled := List.ne_nil_of_mem (List.mem_of_head? first)
    have laid := Tokenizer.laid_tokenize filled
    rcases List.head?_eq_some_iff.mp first with ⟨rest, parts⟩
    rw [parts] at laid
    rcases laid.head with ⟨slice, back, -, here⟩
    rw [here.span_eq]
  stop_eq token last := by
    have filled := List.ne_nil_of_mem (List.mem_of_getLast? last)
    have laid := Tokenizer.laid_tokenize filled
    rcases List.getLast?_eq_some_iff.mp last with ⟨before, parts⟩
    rw [parts] at laid
    rcases laid.last with ⟨front, slice, whole, here⟩
    rw [whole, here.span_eq, byteLength_append, Nat.zero_add]
  taken before token after parts := by
    rcases Tokenizer.exists_segment_of_tokenize parts with ⟨first, rest, words, rfl⟩
    rw [words]
    exact Tokenizer.takes_ofPhrases phrases first rest

end Cyk
