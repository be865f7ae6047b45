import Cyk.Proofs.Chart.Recognition

/-!
# Charts of parts of a sentence

A cell is about the texts of its own tokens.  So the chart of a row of neighbouring tokens, taken
out of a sentence and numbered anew, is found inside the chart of the whole sentence.
-/

namespace Cyk

/-- A span of a part is a span of the whole, further to the right. -/
theorem spanTexts_part {tokens part : List Token} {start len start' len' : Nat}
    (sameTexts : part.map (·.text) = spanTexts tokens start len) (positive : 1 ≤ start)
    (fits : Triangle.Fits len start' len') :
    spanTexts part start' len' = spanTexts tokens (start + start' - 1) len' := by
  rcases fits with ⟨positive', _, inside⟩
  have shifted : start - 1 + (start' - 1) = start + start' - 1 - 1 := by omega
  have shorter : min len' (len - (start' - 1)) = len' := by omega
  rw [spanTexts, sameTexts, spanTexts, List.drop_take, List.drop_drop, List.take_take, shorter,
    shifted, spanTexts]

namespace Chart

variable {grammar : Grammar} {tokens part : List Token} {start len : Nat}

theorem symbols_part (sameTexts : part.map (·.text) = spanTexts tokens start len)
    (fits : Triangle.Fits tokens.length start len) {start' len' : Nat}
    (fits' : Triangle.Fits part.length start' len') :
    (ofTokens grammar part).symbols start' len' =
      (ofTokens grammar tokens).symbols (start + start' - 1) len' := by
  have length : part.length = len := by
    rw [← length_spanTexts fits, ← sameTexts, List.length_map]
  rw [length] at fits'
  have inside : Triangle.Fits tokens.length (start + start' - 1) len' := by
    unfold Triangle.Fits at fits fits' ⊢
    omega
  ext symbol
  rw [ofTokens, ofTokens, mem_symbols_fill, mem_symbols_fill, length,
    spanTexts_part sameTexts fits.1 fits', and_iff_right fits', and_iff_right inside]

/-- **A cell knows the texts of its own tokens only.**  If some tokens have the texts of a span of a
sentence, whatever their positions and places are, then each cell of their chart is the cell of the
sentence's chart that lies as far behind the beginning of the span.  So they are accepted on their
own just when the start symbol is in the cell of the span. -/
theorem cells_know_their_own_texts (grammar : Grammar) (tokens part : List Token) (start len : Nat)
    (fits : Triangle.Fits tokens.length start len)
    (sameTexts : part.map (·.text) = ((tokens.drop (start - 1)).take len).map (·.text)) :
    (∀ start' len', Triangle.Fits part.length start' len' →
      ∃ cell, (ofTokens grammar part).cell start' len' = some cell ∧
        (ofTokens grammar tokens).cell (start + start' - 1) len' = some cell) ∧
      ∃ cell, (ofTokens grammar tokens).cell start len = some cell ∧
        ((ofTokens grammar part).accepted = true ↔ grammar.start ∈ cell) := by
  have sizes (tokens : List Token) : (ofTokens grammar tokens).size = tokens.length := by
    rw [size, ofTokens, tokens_fill]
  rw [List.map_take, List.map_drop] at sameTexts
  have length : part.length = len := by
    rw [← length_spanTexts fits, spanTexts, ← sameTexts, List.length_map]
  constructor
  · intro start' len' fits'
    refine ⟨_, cell_eq_some_symbols (by rwa [sizes]), ?_⟩
    rw [symbols_part sameTexts fits fits']
    apply cell_eq_some_symbols
    rw [length] at fits'
    rw [sizes]
    unfold Triangle.Fits at fits fits' ⊢
    omega
  · refine ⟨_, cell_eq_some_symbols (by rwa [sizes]), ?_⟩
    have whole : Triangle.Fits part.length 1 part.length :=
      ⟨Nat.le_refl 1, length ▸ fits.2.1, Nat.le_of_eq (Nat.add_comm 1 _)⟩
    have corner : (ofTokens grammar part).symbols 1 part.length =
        (ofTokens grammar tokens).symbols (start + 1 - 1) part.length :=
      symbols_part sameTexts fits whole
    rw [Nat.add_sub_cancel, length] at corner
    have sameGrammar : (ofTokens grammar part).grammar = grammar := grammar_fill grammar part
    rw [accepted, decide_eq_true_eq, sameGrammar, sizes, length, corner]

/-- A sentence whose first token no rule knows. -/
def oddSentence : List Token :=
  [⟨"b", 1, ⟨0, 1⟩⟩, ⟨"a", 2, ⟨2, 3⟩⟩, ⟨"a", 3, ⟨4, 5⟩⟩]

/-- The other tokens, with positions and spans that make no sense. -/
def misplacedPart : List Token :=
  [⟨"a", 9, ⟨7, 1⟩⟩, ⟨"a", 0, ⟨7, 7⟩⟩]

theorem cells_know_their_own_texts_of_misplacedPart :
    ∃ grammar, circularDraft.build = .ok grammar ∧ Triangle.Fits oddSentence.length 2 2 ∧
      misplacedPart.map (·.text) = ((oddSentence.drop (2 - 1)).take 2).map (·.text) ∧
      (∃ cell, (ofTokens grammar misplacedPart).cell 2 1 = some cell ∧
        (ofTokens grammar oddSentence).cell 3 1 = some cell) ∧
      (ofTokens grammar misplacedPart).accepted = true ∧
      (ofTokens grammar oddSentence).accepted = false ∧
      ∃ cell, (ofTokens grammar oddSentence).cell 2 2 = some cell ∧ grammar.start ∈ cell := by
  have built : circularDraft.build =
      .ok (Grammar.ofRules circularDraft.start circularDraft.rules) :=
    Draft.build_eq_ok_iff.mpr ⟨by decide +kernel, rfl⟩
  have accepts : (ofTokens (Grammar.ofRules circularDraft.start circularDraft.rules)
      misplacedPart).accepted = true := by decide +kernel
  have rejects : (ofTokens (Grammar.ofRules circularDraft.start circularDraft.rules)
      oddSentence).accepted = false := by decide +kernel
  have fits : Triangle.Fits oddSentence.length 2 2 := by decide
  have sameTexts : misplacedPart.map (·.text) =
      ((oddSentence.drop (2 - 1)).take 2).map (·.text) := by decide
  rcases cells_know_their_own_texts _ oddSentence misplacedPart 2 2 fits sameTexts with
    ⟨cells, cell, found, decides⟩
  exact ⟨_, built, fits, sameTexts, cells 2 1 (by decide), accepts, rejects, cell, found,
    decides.mp accepts⟩

end Chart

end Cyk
