import Cyk.Proofs.Grammar.Folding

/-!
# Earliest longest match

The tokenizer of a grammar takes the first of its phrases that fits.  Because of the order of the
phrases that is the longest terminal that begins at a word, so the tokens of a sentence are found by
a walk along its words that knows the terminals only.
-/

namespace Cyk

open Text

namespace Grammar

/-- Joined, the first words are a terminal of several words. -/
structure Spells (grammar : Grammar) (words : List String) (count : Nat) : Prop where
  several : 2 ≤ count
  inside : count ≤ words.length
  known : joinWords (words.take count) ∈ grammar.rules.terminals

/-- How many words there are in the token where some words begin: as many as there can be in a
terminal of several words, or else one. -/
inductive LongestMatch (grammar : Grammar) (words : List String) : Nat → Prop
  | terminal {count : Nat} (spells : grammar.Spells words count)
    (longest : ∀ other, grammar.Spells words other → other ≤ count) :
    LongestMatch grammar words count
  | word (none : ∀ count, ¬ grammar.Spells words count) : LongestMatch grammar words 1

/-- The walk along some words from the left that takes the longest match wherever it comes to, and
the texts that it takes. -/
inductive Walk (grammar : Grammar) : List String → List String → Prop
  | stop : Walk grammar [] []
  | take {words texts : List String} {count : Nat} (nonempty : words ≠ [])
    (longest : grammar.LongestMatch words count) (later : Walk grammar (words.drop count) texts) :
    Walk grammar words (joinWords (words.take count) :: texts)

variable {grammar : Grammar}

/-! ## There is one walk -/

theorem LongestMatch.unique {words : List String} {count other : Nat}
    (longest : grammar.LongestMatch words count) (also : grammar.LongestMatch words other) :
    count = other := by
  cases longest with
  | terminal spells longest =>
    cases also with
    | terminal spells' longest' =>
      exact Nat.le_antisymm (longest' count spells) (longest other spells')
    | word none => exact absurd spells (none count)
  | word none =>
    cases also with
    | terminal spells _ => exact absurd spells (none other)
    | word _ => rfl

theorem Walk.unique {words texts others : List String} (walk : grammar.Walk words texts)
    (also : grammar.Walk words others) : texts = others := by
  induction walk generalizing others with
  | stop =>
    cases also with
    | stop => rfl
    | take nonempty _ _ => exact absurd rfl nonempty
  | take nonempty longest _ ih =>
    cases also with
    | stop => exact absurd rfl nonempty
    | take _ longest' later' =>
      obtain rfl := longest.unique longest'
      rw [ih later']

/-! ## The tokenizer walks -/

namespace WellFormed

variable {words : List Word}

/-- The words that spell a terminal are those of one that they begin with. -/
theorem spells_iff (wellFormed : grammar.WellFormed) (isWord : ∀ word ∈ words, IsWord word.text)
    {count : Nat} :
    grammar.Spells (words.map Word.text) count ↔
      2 ≤ count ∧ ∃ terminal ∈ grammar.rules.terminals,
        splitWords terminal <+: words.map Word.text ∧ (splitWords terminal).length = count := by
  constructor
  · rintro ⟨several, inside, known⟩
    have all : ∀ part ∈ (words.map Word.text).take count, IsWord part := by
      intro part member
      rcases List.mem_map.mp (List.mem_of_mem_take member) with ⟨word, listed, rfl⟩
      exact isWord word listed
    refine ⟨several, _, known, ?_⟩
    rw [splitWords_joinWords all]
    exact ⟨List.take_prefix _ _, List.length_take_of_le inside⟩
  · rintro ⟨several, terminal, known, begins, rfl⟩
    have taken := List.prefix_iff_eq_take.mp begins
    refine ⟨several, begins.length_le, ?_⟩
    rw [← taken, (wellFormed.isNormalTerminal known).joinWords_splitWords]
    exact known

/-- What the tokenizer takes is the longest match. -/
theorem longestMatch_extent (wellFormed : grammar.WellFormed)
    (isWord : ∀ word ∈ words, IsWord word.text) :
    grammar.LongestMatch (words.map Word.text)
      ((Tokenizer.ofPhrases grammar.phrases).extent words + 1) := by
  have longest : ∀ count, grammar.Spells (words.map Word.text) count →
      count ≤ (Tokenizer.ofPhrases grammar.phrases).extent words + 1 := by
    intro count spells
    rcases (wellFormed.spells_iff isWord).mp spells with ⟨-, terminal, known, begins, rfl⟩
    exact wellFormed.length_le_extent known begins
  rcases Nat.eq_zero_or_pos ((Tokenizer.ofPhrases grammar.phrases).extent words) with single | more
  · rw [single]
    rw [single] at longest
    refine .word fun count spells => ?_
    exact Nat.not_le_of_lt spells.several (longest count spells)
  · rcases wellFormed.extent_eq_zero_or_terminal words with single | terminal
    · exact absurd single (Nat.ne_of_gt more)
    · have spells := (wellFormed.spells_iff isWord).mpr ⟨Nat.succ_le_succ more, terminal⟩
      exact .terminal spells longest

/-- By induction along the segments, each of which is one step of the walk. -/
theorem walk_segments (wellFormed : grammar.WellFormed) (words : List Word)
    (isWord : ∀ word ∈ words, IsWord word.text) :
    grammar.Walk (words.map Word.text)
      (((Tokenizer.ofPhrases grammar.phrases).segments words).map Segment.text) := by
  fun_induction (Tokenizer.ofPhrases grammar.phrases).segments words with
  | case1 => exact .stop
  | @case2 first rest extent ih =>
    have longest := wellFormed.longestMatch_extent isWord
    have inRest : ∀ word ∈ rest.drop extent, IsWord word.text := by
      intro word member
      exact isWord word (List.mem_cons_of_mem first (List.mem_of_mem_drop member))
    have dropped : (rest.drop extent).map Word.text =
        ((first :: rest).map Word.text).drop (extent + 1) := by
      rw [← List.map_drop, List.drop_succ_cons]
    have taken : joinWords (((first :: rest).map Word.text).take (extent + 1)) =
        Segment.text ⟨first, rest.take extent⟩ := by
      rw [← List.map_take, List.take_succ_cons]
      rfl
    have later := ih inRest
    rw [dropped] at later
    have step := Walk.take (List.cons_ne_nil first.text (rest.map Word.text)) longest later
    rw [← List.map_cons, taken] at step
    exact step

end WellFormed

/-- **Tokens are the earliest longest matches.**  For every grammar that is built and every
sentence, the walk along the words of its normal form that takes, wherever it comes to, as many
words as there can be in a terminal of several words, or else one word, takes the texts of the
tokens and no others. -/
theorem tokens_are_longest_matches (grammar : Grammar) (start : String) (calls : List Call)
    (yields : (Draft.ofCalls start calls).Yields grammar) (sentence : String)
    (texts : List String) :
    grammar.Walk (splitWords (normalize sentence)) texts ↔
      texts = ((Tokenizer.ofPhrases grammar.phrases).tokenize sentence).map (·.text) := by
  have walk := (wellFormed_of_yields yields).walk_segments (Text.words (normalize sentence))
    fun _ => isWord_of_mem_wordsFrom
  rw [← Tokenizer.map_text_tokenize] at walk
  constructor
  · intro also
    exact also.unique walk
  · rintro rfl
    exact walk

/-- Phrases that are nested, of equal length, and that overlap. -/
def overlappingCalls : List Call :=
  [.add (.lexical "X" "b c d"), .add (.lexical "X" "a b"), .add (.lexical "X" "A  b c"),
    .add (.lexical "X" "a b d"), .add (.lexical "X" "c d")]

theorem tokens_are_longest_matches_of_overlappingCalls :
    ∃ grammar, (Draft.ofCalls "X" overlappingCalls).Yields grammar ∧
      grammar.Walk ["a", "b", "c", "d", "a", "b"] ["a b c", "d", "a b"] := by
  have built : (Draft.ofCalls "X" overlappingCalls).build =
      .ok (Grammar.ofRules "X" (Draft.ofCalls "X" overlappingCalls).rules) :=
    Draft.build_eq_ok_iff.mpr ⟨by decide +kernel, rfl⟩
  have yields := Draft.Yields.built built
  have words : splitWords (normalize "A b C d  a B.") = ["a", "b", "c", "d", "a", "b"] := by
    decide +kernel
  have phrases : (Grammar.ofRules "X" (Draft.ofCalls "X" overlappingCalls).rules).phrases =
      ["a b c", "a b d", "b c d", "a b", "c d"] :=
    Phrases.longestFirst_eq (by decide +kernel) (by decide +kernel)
  refine ⟨_, yields, ?_⟩
  rw [← words, tokens_are_longest_matches _ _ _ yields, phrases]
  decide +kernel

end Grammar

end Cyk
