import Cyk.Proofs.Chart.Unknown
import Cyk.Proofs.Grammar.Invariant
import Cyk.Proofs.Text.Segments
import Cyk.Proofs.Text.Sentences

/-!
# Folding the terminals of a grammar

Where a token begins, the tokenizer of a grammar takes the longest terminal of several words that
begins there too, or else a single word.  So a row of terminals is found again in its words just
when no terminal of more words begins where one of the row does.
-/

namespace Cyk

open Text

/-- No known terminal begins where a terminal of the row begins and has more words. -/
def Greedy (known : List String) : List String → Prop
  | [] => True
  | terminal :: rest =>
    (∀ other ∈ known, splitWords other <+: (terminal :: rest).flatMap splitWords →
      (splitWords other).length ≤ (splitWords terminal).length) ∧ Greedy known rest

instance instDecidableGreedy (known : List String) : (row : List String) →
    Decidable (Greedy known row)
  | [] => inferInstanceAs (Decidable True)
  | _ :: rest =>
    have := instDecidableGreedy known rest
    inferInstanceAs (Decidable (_ ∧ _))

/-- A single terminal is always greedy. -/
theorem greedy_singleton (known : List String) (terminal : String) : Greedy known [terminal] := by
  constructor
  · intro other _ begins
    simpa using begins.length_le
  · trivial

namespace Grammar.WellFormed

variable {grammar : Grammar} {words : List Word} {terminal : String}

theorem isNormalTerminal (wellFormed : grammar.WellFormed)
    (known : terminal ∈ grammar.rules.terminals) : IsNormalTerminal terminal := by
  rcases Rules.mem_terminals.mp known with ⟨lhs, rule⟩
  exact wellFormed.terminals_normal lhs terminal rule

/-! ## The longest terminal -/

/-- The tokenizer has the words of the grammar's phrases as they are. -/
theorem phrases_ofPhrases (wellFormed : grammar.WellFormed) :
    (Tokenizer.ofPhrases grammar.phrases).phrases = grammar.phrases.map splitWords := by
  have small : grammar.phrases.map (fun phrase => (splitWords phrase).map lowercase) =
      grammar.phrases.map splitWords := by
    apply List.map_congr_left
    intro phrase listed
    rcases (wellFormed.mem_phrases phrase).mp listed with ⟨⟨lhs, rule⟩, -⟩
    exact (wellFormed.terminals_normal lhs phrase rule).map_lowercase_splitWords
  rw [Tokenizer.ofPhrases, small, List.filter_eq_self]
  intro phrase listed
  rcases List.mem_map.mp listed with ⟨terminal, known, rfl⟩
  exact decide_eq_true ((wellFormed.mem_phrases terminal).mp known).2

theorem mem_phrases_ofPhrases (wellFormed : grammar.WellFormed) {phrase : List String} :
    phrase ∈ (Tokenizer.ofPhrases grammar.phrases).phrases ↔
      ∃ terminal ∈ grammar.rules.terminals, splitWords terminal = phrase ∧ 1 < phrase.length := by
  simp only [phrases_ofPhrases wellFormed, List.mem_map, wellFormed.mem_phrases,
    Rules.mem_terminals]
  constructor
  · rintro ⟨terminal, ⟨known, several⟩, rfl⟩
    exact ⟨terminal, known, rfl, several⟩
  · rintro ⟨terminal, known, rfl, several⟩
    exact ⟨terminal, ⟨known, several⟩, rfl⟩

/-- Longer phrases are tried before shorter ones. -/
theorem pairwise_phrases_ofPhrases (wellFormed : grammar.WellFormed) :
    (Tokenizer.ofPhrases grammar.phrases).phrases.Pairwise fun phrase other =>
      other.length ≤ phrase.length := by
  rw [wellFormed.phrases_ofPhrases, List.pairwise_map]
  refine wellFormed.phrases_sorted.imp ?_
  rintro phrase other (longer | ⟨same, -⟩)
  · exact Nat.le_of_lt longer
  · exact Nat.le_of_eq same.symm

/-- The phrase that is found is the longest that the words begin with: what the search passed over
does not fit, and what follows is no longer. -/
theorem length_le_of_phraseAt (wellFormed : grammar.WellFormed) {phrase other : List String}
    (found : (Tokenizer.ofPhrases grammar.phrases).phraseAt words = some phrase)
    (listed : other ∈ (Tokenizer.ofPhrases grammar.phrases).phrases)
    (begins : other <+: words.map Word.text) : other.length ≤ phrase.length := by
  rcases List.find?_eq_some_iff_append.mp found with ⟨-, before, after, split, unfit⟩
  have sorted := wellFormed.pairwise_phrases_ofPhrases
  rw [split] at listed sorted
  rcases List.mem_append.mp listed with passed | rest
  · have fits := List.isPrefixOf_iff_prefix.mpr begins
    have fails := unfit other passed
    rw [fits] at fails
    contradiction
  · rcases List.mem_cons.mp rest with rfl | later
    · exact Nat.le_refl _
    · exact (List.pairwise_cons.mp (List.pairwise_append.mp sorted).2.1).1 other later

/-- No terminal that the words begin with has more words than are taken. -/
theorem length_le_extent (wellFormed : grammar.WellFormed)
    (known : terminal ∈ grammar.rules.terminals)
    (begins : splitWords terminal <+: words.map Word.text) :
    (splitWords terminal).length ≤ (Tokenizer.ofPhrases grammar.phrases).extent words + 1 := by
  rcases Nat.lt_or_ge 1 (splitWords terminal).length with several | single
  · have listed := wellFormed.mem_phrases_ofPhrases.mpr ⟨terminal, known, rfl, several⟩
    rw [Tokenizer.extent]
    cases found : (Tokenizer.ofPhrases grammar.phrases).phraseAt words with
    | none =>
      have fits := List.isPrefixOf_iff_prefix.mpr begins
      exact absurd fits (List.find?_eq_none.mp found _ listed)
    | some phrase =>
      have longest := wellFormed.length_le_of_phraseAt found listed begins
      exact Nat.le_add_of_sub_le (Nat.sub_le_sub_right longest 1)
  · exact Nat.le_trans single (Nat.le_add_left 1 _)

/-- Several words are taken only where they are those of a terminal. -/
theorem extent_eq_zero_or_terminal (wellFormed : grammar.WellFormed) (words : List Word) :
    (Tokenizer.ofPhrases grammar.phrases).extent words = 0 ∨
      ∃ terminal ∈ grammar.rules.terminals, splitWords terminal <+: words.map Word.text ∧
        (splitWords terminal).length = (Tokenizer.ofPhrases grammar.phrases).extent words + 1 := by
  rw [Tokenizer.extent]
  cases found : (Tokenizer.ofPhrases grammar.phrases).phraseAt words with
  | none => exact Or.inl rfl
  | some phrase =>
    right
    rcases Tokenizer.phraseAt_eq_some found with ⟨listed, begins⟩
    rcases wellFormed.mem_phrases_ofPhrases.mp listed with ⟨terminal, known, rfl, several⟩
    exact ⟨terminal, known, begins, (Nat.sub_add_cancel (Nat.le_of_lt several)).symm⟩

/-- Where the words begin with a terminal, it is taken just when no terminal with more words begins
there. -/
theorem extent_add_one_eq_iff (wellFormed : grammar.WellFormed)
    (known : terminal ∈ grammar.rules.terminals)
    (begins : splitWords terminal <+: words.map Word.text) :
    (Tokenizer.ofPhrases grammar.phrases).extent words + 1 = (splitWords terminal).length ↔
      ∀ other ∈ grammar.rules.terminals, splitWords other <+: words.map Word.text →
        (splitWords other).length ≤ (splitWords terminal).length := by
  constructor
  · intro taken other known' begins'
    rw [← taken]
    exact wellFormed.length_le_extent known' begins'
  · intro longest
    have atLeast := wellFormed.length_le_extent known begins
    have positive := List.length_pos_iff.mpr (wellFormed.isNormalTerminal known).splitWords_ne_nil
    rcases wellFormed.extent_eq_zero_or_terminal words with single | ⟨other, known', begins', taken⟩
    · omega
    · have atMost := longest other known' begins'
      omega

/-- There are as many words as are taken. -/
theorem extent_add_one_le_length (wellFormed : grammar.WellFormed) (nonempty : words ≠ []) :
    (Tokenizer.ofPhrases grammar.phrases).extent words + 1 ≤ words.length := by
  rcases wellFormed.extent_eq_zero_or_terminal words with single | ⟨terminal, -, begins, taken⟩
  · rw [single]
    exact List.length_pos_iff.mpr nonempty
  · have atMost := begins.length_le
    rw [taken, List.length_map] at atMost
    exact atMost

/-! ## Rows of terminals -/

/-- A row of terminals is found again in its words just when it is greedy. -/
theorem map_text_segments_eq_iff (wellFormed : grammar.WellFormed) {row : List String}
    (known : ∀ terminal ∈ row, terminal ∈ grammar.rules.terminals)
    (spelled : words.map Word.text = row.flatMap splitWords) :
    ((Tokenizer.ofPhrases grammar.phrases).segments words).map Segment.text = row ↔
      Greedy grammar.rules.terminals row := by
  induction row generalizing words with
  | nil =>
    obtain rfl := List.map_eq_nil_iff.mp spelled
    simp [Tokenizer.segments, Greedy]
  | cons terminal rest ih =>
    rcases List.forall_mem_cons.mp known with ⟨here, others⟩
    have normal := wellFormed.isNormalTerminal here
    have begins : splitWords terminal <+: words.map Word.text := by
      rw [spelled]
      exact List.prefix_append _ _
    have longest := wellFormed.extent_add_one_eq_iff here begins
    have isWord : ∀ word ∈ words.map Word.text, IsWord word := by
      rw [spelled]
      intro word member
      rcases List.mem_flatMap.mp member with ⟨other, -, inOther⟩
      exact isWord_of_mem_splitWords inOther
    cases words with
    | nil => exact absurd (List.prefix_nil.mp begins) normal.splitWords_ne_nil
    | cons first more =>
      have inside := wellFormed.extent_add_one_le_length (List.cons_ne_nil first more)
      have head := normal.joinWords_take_eq_iff isWord begins
        (Nat.le_trans inside (Nat.le_of_eq (List.length_map _).symm))
      rw [Tokenizer.segments, Greedy, ← spelled, ← longest, List.map_cons, List.cons.injEq,
        Segment.text, Segment.words, ← List.take_succ_cons, List.map_take, head]
      apply and_congr_right
      intro same
      apply ih others
      rw [← List.drop_succ_cons, List.map_drop, spelled, same, List.flatMap_cons, List.drop_left]

end Grammar.WellFormed

end Cyk
