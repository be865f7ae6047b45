import Cyk.Proofs.Text.Layout

/-!
# Tokenizing tokens again

The tokens of a sentence, written with single spaces between them, are a sentence in normal form.
It has the same words, and which words are taken together does not depend on where they lie; so its
tokens have the same texts as before.
-/

namespace Cyk

open Text

namespace Text

/-! ## Normal forms with single spaces -/

/-- The words of a sentence in normal form are in small form: lowercasing a sentence leaves small
characters only, and the normal form has no others. -/
theorem lowercase_of_mem_splitWords_normalize {sentence word : String}
    (member : word ∈ splitWords (normalize sentence)) : lowercase word = word := by
  rcases List.mem_map.mp member with ⟨found, inNormal, rfl⟩
  rw [lowercase_eq_self_iff]
  intro c letter
  exact isSmall_of_mem_normalize (mem_of_mem_wordsFrom inNormal letter)

/-- Making every gap a single space leaves the end of a trimmed text as it was. -/
theorem getLast?_joinWords_splitWords {text : String} (trimmed : IsTrimmed text.toList) :
    (joinWords (splitWords text)).toList.getLast? = text.toList.getLast? := by
  have laid := laid_wordsFrom trimmed 0
  rcases List.eq_nil_or_concat (wordsFrom 0 text.toList) with none | ⟨before, word, split⟩
  · exact absurd none laid.ne_nil
  · rw [List.concat_eq_append] at split
    rw [split] at laid
    rcases laid.last with ⟨front, slice, whole, here⟩
    have last : (splitWords text).getLast? = some word.text := by
      rw [splitWords, words, split, List.map_append, List.map_singleton, List.getLast?_concat]
    rw [getLast?_joinWords last here.isWord.1, whole, List.getLast?_append, ← here.letters]
    cases ending : word.text.toList.getLast? with
    | none =>
      have empty := String.toList_eq_nil_iff.mp (List.getLast?_eq_none_iff.mp ending)
      exact absurd empty here.isWord.1
    | some c => rfl

theorem not_endsInStop_joinWords_splitWords_normalize (sentence : String) :
    ¬ EndsInStop (joinWords (splitWords (normalize sentence))) := by
  by_cases empty : normalize sentence = ""
  · rw [splitWords, words_normalize_eq_nil_iff.mpr empty]
    decide
  · rw [EndsInStop, getLast?_joinWords_splitWords (isTrimmed_normalize empty)]
    exact not_endsInStop_normalize sentence

/-- A normal form is still one when every gap in it is made a single space. -/
theorem normalize_joinWords_splitWords_normalize (sentence : String) :
    normalize (joinWords (splitWords (normalize sentence))) =
      joinWords (splitWords (normalize sentence)) :=
  normalize_joinWords (fun _ => isWord_of_mem_splitWords)
    (fun _ => lowercase_of_mem_splitWords_normalize)
    (not_endsInStop_joinWords_splitWords_normalize sentence)

end Text

/-! ## Words in other places -/

namespace Tokenizer

variable (tokenizer : Tokenizer)

/-- How many words are taken depends on their texts only. -/
theorem extent_congr {words others : List Word}
    (same : words.map Word.text = others.map Word.text) :
    tokenizer.extent words = tokenizer.extent others := by
  rw [extent, extent, phraseAt, phraseAt, same]

theorem map_text_segments_congr {words others : List Word}
    (same : words.map Word.text = others.map Word.text) :
    (tokenizer.segments words).map Segment.text =
      (tokenizer.segments others).map Segment.text := by
  fun_induction tokenizer.segments words generalizing others with
  | case1 => rw [List.map_eq_nil_iff.mp same.symm, segments]
  | @case2 first rest extent ih =>
    cases others with
    | nil => contradiction
    | cons first' rest' =>
      have sameExtent : extent = tokenizer.extent (first' :: rest') := tokenizer.extent_congr same
      have sameFirst : first.text = first'.text := (List.cons.inj same).1
      have sameRest : rest.map Word.text = rest'.map Word.text := (List.cons.inj same).2
      have taken : (rest.take extent).map Word.text = (rest'.take extent).map Word.text := by
        rw [List.map_take, sameRest, List.map_take]
      have left : (rest.drop extent).map Word.text = (rest'.drop extent).map Word.text := by
        rw [List.map_drop, sameRest, List.map_drop]
      rw [segments, ← sameExtent, List.map_cons, List.map_cons, ih left, Segment.text,
        Segment.text, Segment.words, Segment.words, List.map_cons, List.map_cons, sameFirst, taken]

/-! ## Tokens as a sentence -/

/-- The tokens of a sentence with single spaces between them. -/
def respace (sentence : String) : String :=
  joinWords ((tokenizer.tokenize sentence).map (·.text))

/-- Between all words there are single spaces then, also between those of one token. -/
theorem respace_eq (sentence : String) :
    tokenizer.respace sentence = joinWords (splitWords (normalize sentence)) := by
  have joined : ∀ text ∈ (tokenizer.tokenize sentence).map (·.text),
      splitWords text ≠ [] ∧ joinWords (splitWords text) = text := by
    intro text member
    rw [map_text_tokenize] at member
    rcases List.mem_map.mp member with ⟨segment, listed, rfl⟩
    rw [splitWords_text_of_mem_segments (fun _ => isWord_of_mem_wordsFrom) listed]
    exact ⟨List.cons_ne_nil _ _, rfl⟩
  rw [respace, ← joinWords_flatMap joined, flatMap_splitWords_tokenize]

/-- Tokenizing the tokens again gives the same texts. -/
theorem map_text_tokenize_respace (sentence : String) :
    (tokenizer.tokenize (tokenizer.respace sentence)).map (·.text) =
      (tokenizer.tokenize sentence).map (·.text) := by
  have sameWords : (Text.words (joinWords (splitWords (normalize sentence)))).map Word.text =
      (Text.words (normalize sentence)).map Word.text :=
    splitWords_joinWords fun _ => isWord_of_mem_splitWords
  rw [respace_eq, map_text_tokenize, normalize_joinWords_splitWords_normalize, map_text_tokenize]
  exact tokenizer.map_text_segments_congr sameWords

end Tokenizer

end Cyk
