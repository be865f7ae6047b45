import Cyk.Proofs.Text.Terminals
import Cyk.Tokenizer

/-!
# What a token is made of

A token is one word of the sentence, or all the words of a phrase; and between them the tokens have
all the words of the sentence, in order.
-/

namespace Cyk.Tokenizer

open Text

variable {tokenizer : Tokenizer} {words : List Word}

theorem phraseAt_eq_some {phrase : List String} (found : tokenizer.phraseAt words = some phrase) :
    phrase ∈ tokenizer.phrases ∧ phrase <+: words.map Word.text := by
  constructor
  · exact List.mem_of_find?_eq_some found
  · have fits := List.find?_some found
    exact List.isPrefixOf_iff_prefix.mp fits

/-- The words that are taken together at the head of others are one word or a phrase. -/
theorem single_or_phrase_at (tokenizer : Tokenizer) (first : Word) (rest : List Word) :
    rest.take (tokenizer.extent (first :: rest)) = [] ∨
      (first :: rest.take (tokenizer.extent (first :: rest))).map Word.text ∈
        tokenizer.phrases := by
  unfold extent
  cases found : tokenizer.phraseAt (first :: rest) with
  | none => exact Or.inl (List.take_zero)
  | some phrase =>
    rcases phraseAt_eq_some found with ⟨known, beginning⟩
    cases phrase with
    | nil => exact Or.inl (List.take_zero)
    | cons word others =>
      right
      have taken := List.prefix_iff_eq_take.mp beginning
      rw [List.map_cons, List.length_cons, List.take_succ_cons, ← List.map_take] at taken
      rw [taken] at known
      exact known

theorem mem_segments {segment : Segment} (member : segment ∈ tokenizer.segments words) :
    (segment.more = [] ∧ segment.first ∈ words) ∨
      segment.words.map Word.text ∈ tokenizer.phrases := by
  induction words using segments.induct tokenizer with
  | case1 => simp [segments] at member
  | case2 first rest extent ih =>
    rw [segments] at member
    rcases List.mem_cons.mp member with rfl | later
    · rcases tokenizer.single_or_phrase_at first rest with single | phrase
      · exact Or.inl ⟨single, List.mem_cons_self⟩
      · exact Or.inr phrase
    · rcases ih later with ⟨single, inRest⟩ | phrase
      · exact Or.inl ⟨single, List.mem_cons_of_mem _ (List.mem_of_mem_drop inRest)⟩
      · exact Or.inr phrase

/-- The text of a token is a word, or the words of a phrase with one space between neighbours. -/
theorem text_of_mem_tokenize {sentence : String} {token : Token}
    (member : token ∈ tokenizer.tokenize sentence) :
    IsWord token.text ∨ ∃ phrase ∈ tokenizer.phrases, token.text = joinWords phrase := by
  rcases List.mem_mapIdx.mp member with ⟨index, inside, rfl⟩
  rcases mem_segments (List.getElem_mem inside) with ⟨single, inSentence⟩ | phrase
  · left
    rw [Segment.token, Segment.text, Segment.words, single, List.map_singleton,
      joinWords_singleton]
    exact isWord_of_mem_wordsFrom inSentence
  · exact Or.inr ⟨_, phrase, rfl⟩

/-! ## All tokens of a sentence -/

/-- The segments have all the words between them, in order. -/
theorem flatMap_words_segments (tokenizer : Tokenizer) (words : List Word) :
    (tokenizer.segments words).flatMap Segment.words = words := by
  induction words using segments.induct tokenizer with
  | case1 => simp [segments]
  | case2 first rest extent ih =>
    rw [segments, List.flatMap_cons, ih, Segment.words, List.cons_append, List.take_append_drop]

theorem splitWords_text_of_mem_segments (isWord : ∀ word ∈ words, IsWord word.text)
    {segment : Segment} (member : segment ∈ tokenizer.segments words) :
    splitWords segment.text = segment.words.map Word.text := by
  apply splitWords_joinWords
  intro part listed
  rcases List.mem_map.mp listed with ⟨word, inSegment, rfl⟩
  apply isWord
  rw [← tokenizer.flatMap_words_segments words]
  exact List.mem_flatMap.mpr ⟨segment, member, inSegment⟩

/-- Cutting the texts of segments into words again gives the words of the segments. -/
theorem flatMap_splitWords_map_text (isWord : ∀ word ∈ words, IsWord word.text)
    {parts : List Segment} (listed : parts ⊆ tokenizer.segments words) :
    (parts.map Segment.text).flatMap splitWords = (parts.flatMap Segment.words).map Word.text := by
  have each : ∀ segment ∈ parts, splitWords segment.text = segment.words.map Word.text :=
    fun _ member => splitWords_text_of_mem_segments isWord (listed member)
  rw [List.flatMap_map, List.map_flatMap, List.flatMap, List.flatMap, List.map_congr_left each]

/-- Numbering leaves the texts as they are. -/
theorem map_text_mapIdx_token (segments : List Segment) (position : Nat → Nat) :
    (segments.mapIdx fun index segment => segment.token (position index)).map (·.text) =
      segments.map Segment.text := by
  induction segments generalizing position with
  | nil => rfl
  | cons segment rest ih =>
    rw [List.mapIdx_cons, List.map_cons, ih fun index => position (index + 1)]
    rfl

theorem map_text_tokenize (tokenizer : Tokenizer) (sentence : String) :
    (tokenizer.tokenize sentence).map (·.text) =
      (tokenizer.segments (Text.words (normalize sentence))).map Segment.text :=
  map_text_mapIdx_token _ (· + 1)

/-- The words of the tokens are the words of the sentence. -/
theorem flatMap_splitWords_tokenize (tokenizer : Tokenizer) (sentence : String) :
    ((tokenizer.tokenize sentence).map (·.text)).flatMap splitWords =
      splitWords (normalize sentence) := by
  have isWord : ∀ word ∈ Text.words (normalize sentence), IsWord word.text :=
    fun _ => isWord_of_mem_wordsFrom
  rw [map_text_tokenize, flatMap_splitWords_map_text isWord (List.Subset.refl _),
    flatMap_words_segments, splitWords]

/-! ## One token of a sentence -/

/-- From a segment on, the others are the segments of the words that are left. -/
theorem segments_of_append {before after : List Segment}
    (parts : tokenizer.segments words = before ++ after) :
    tokenizer.segments (after.flatMap Segment.words) = after := by
  fun_induction tokenizer.segments words generalizing before with
  | case1 =>
    rw [(List.append_eq_nil_iff.mp parts.symm).2, List.flatMap_nil, segments]
  | @case2 first rest extent ih =>
    cases before with
    | nil =>
      have whole : tokenizer.segments (first :: rest) = after := by
        rw [segments]
        exact parts
      rw [← whole, flatMap_words_segments]
    | cons segment before => exact ih (List.cons.inj parts).2

/-- Where a token begins, it takes as many words as the phrases say. -/
theorem exists_segment_of_tokenize {sentence : String} {before after : List Token} {token : Token}
    (parts : tokenizer.tokenize sentence = before ++ token :: after) :
    ∃ first rest, ((token :: after).map (·.text)).flatMap splitWords =
        (first :: rest).map Word.text ∧
      token = Segment.token ⟨first, rest.take (tokenizer.extent (first :: rest))⟩
        (before.length + 1) := by
  rcases List.mapIdx_eq_append_iff.mp parts with ⟨front, back, cut, rfl, numbered⟩
  have isWord : ∀ word ∈ Text.words (normalize sentence), IsWord word.text :=
    fun _ => isWord_of_mem_wordsFrom
  have inSentence : back ⊆ tokenizer.segments (Text.words (normalize sentence)) := by
    rw [cut]
    exact List.subset_append_right front back
  have texts : (token :: after).map (·.text) = back.map Segment.text := by
    rw [← numbered]
    exact map_text_mapIdx_token back fun index => index + front.length + 1
  have words := flatMap_splitWords_map_text isWord inSentence
  rw [← texts] at words
  rcases List.mapIdx_eq_cons_iff.mp numbered with ⟨segment, others, rfl, rfl, -⟩
  have same := segments_of_append cut
  rw [List.flatMap_cons, Segment.words, List.cons_append] at same
  rw [segments] at same
  refine ⟨segment.first, segment.more ++ others.flatMap Segment.words, words, ?_⟩
  rw [(List.cons.inj same).1, List.length_mapIdx, Nat.zero_add]

end Cyk.Tokenizer
