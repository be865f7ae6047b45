import Cyk.Text.Normal
import Cyk.Tokenizer

/-!
# Sentences without words

A sentence in normal form begins with a character that is not blank, if it has any characters; so
only the empty one has no words and no tokens.
-/

namespace Cyk

namespace Text

theorem wordsFrom_eq_nil_iff {offset : Nat} {text : List Char} :
    wordsFrom offset text = [] ↔ ∀ c ∈ text, isBlank c = true := by
  induction offset, text using wordsFrom.induct with
  | case1 => simp [wordsFrom]
  | case2 offset c rest blank ih => simp [wordsFrom, blank, ih]
  | case3 offset c rest visible => simp [wordsFrom, visible]

/-- What comes behind the first word begins with a blank. -/
theorem isBlank_of_head?_dropWhile (text : List Char) :
    ∀ c ∈ (text.dropWhile (!isBlank ·)).head?, isBlank c = true := by
  intro c first
  have notVisible := List.head?_dropWhile_not (!isBlank ·) text
  rw [first] at notVisible
  simpa using notVisible

/-- Dropping full stops leaves a beginning of the text. -/
theorem dropStops_isPrefix (text : List Char) : dropStops text <+: text :=
  (isPrefix_dropEndWhile isBlank _).trans (isPrefix_dropEndWhile _ text)

theorem dropAllStops_isPrefix (text : List Char) : dropAllStops text <+: text := by
  induction text using dropAllStops.induct with
  | case1 text shorter ih =>
    rw [dropAllStops, if_pos shorter]
    exact ih.trans (dropStops_isPrefix text)
  | case2 text done =>
    have kept : dropAllStops text = text := by rw [dropAllStops, if_neg done]
    exact ⟨[], by rw [kept, List.append_nil]⟩

/-- A text in normal form is a beginning of the small text without its leading blanks. -/
theorem normalize_isPrefix (sentence : String) :
    (normalize sentence).toList <+: (lowercase sentence).toList.dropWhile isBlank := by
  rw [normalize, String.toList_ofList]
  exact (dropAllStops_isPrefix _).trans (isPrefix_dropEndWhile isBlank _)

/-- Only the empty normal form has no words. -/
theorem words_normalize_eq_nil_iff {sentence : String} :
    words (normalize sentence) = [] ↔ normalize sentence = "" := by
  rw [words, wordsFrom_eq_nil_iff]
  constructor
  · intro blank
    have beginning := normalize_isPrefix sentence
    cases text : (normalize sentence).toList with
    | nil => exact String.toList_eq_nil_iff.mp text
    | cons c rest =>
      rw [text] at beginning blank
      rcases beginning with ⟨more, whole⟩
      have visible := List.head?_dropWhile_not isBlank (lowercase sentence).toList
      rw [← whole] at visible
      simp [blank c] at visible
  · rintro equal
    simp [equal]

end Text

namespace Tokenizer

theorem tokenize_eq_nil_iff {tokenizer : Tokenizer} {sentence : String} :
    tokenizer.tokenize sentence = [] ↔ Text.normalize sentence = "" := by
  rw [← Text.words_normalize_eq_nil_iff, tokenize, number, List.mapIdx_eq_nil_iff]
  cases Text.words (Text.normalize sentence) with
  | nil => simp [segments]
  | cons word rest => simp [segments]

end Tokenizer

end Cyk
