import Cyk.Proofs.Chart.Inclusion

/-!
# The life of a chart

A chart is made empty and then filled, once or more often.  The first filling finds all that the
rules give, so that another one finds nothing new.  Cells are looked up by machine words, which must
never wrap around.
-/

namespace Cyk.Chart

/-! ## Looking up cells by machine words -/

/-- The cell of a span that is given in words of 64 bits.  Rows and slots are counted from zero, and
the subtractions for this would wrap around if they were not guarded. -/
def cellAt (chart : Chart) (start len : UInt64) : Option Names :=
  if start = 0 ∨ len = 0 then none
  else chart.cells.rows[(start - 1).toNat]?.bind (·[(len - 1).toNat]?)

theorem toNat_eq_succ {word : UInt64} (positive : word ≠ 0) :
    word.toNat = (word - 1).toNat + 1 := by
  have nonzero : word.toNat ≠ 0 := fun zero => positive (UInt64.toNat_inj.mp zero)
  have one : (1 : UInt64) ≤ word := UInt64.le_iff_toNat_le.mpr (Nat.pos_of_ne_zero nonzero)
  have shifted : (word - 1).toNat = word.toNat - 1 := UInt64.toNat_sub_of_le word 1 one
  omega

/-- The guarded subtractions are those of natural numbers. -/
theorem cellAt_eq_cell (chart : Chart) (start len : UInt64) :
    chart.cellAt start len = chart.cell start.toNat len.toNat := by
  by_cases noStart : start = 0
  · subst noStart
    rfl
  by_cases noLen : len = 0
  · subst noLen
    rw [cellAt, if_pos (Or.inr rfl), toNat_eq_succ noStart]
    rfl
  · rw [cellAt, if_neg (not_or.mpr ⟨noStart, noLen⟩), toNat_eq_succ noStart, toNat_eq_succ noLen]
    rfl

/-- All that filling looks up is inside the chart: both parts of a span, wherever it is cut. -/
theorem fits_parts {size start len cut : Nat} (fits : Triangle.Fits size start len)
    (positive : 0 < cut) (inside : cut < len) :
    Triangle.Fits size start cut ∧ Triangle.Fits size (start + cut) (len - cut) := by
  unfold Triangle.Fits at fits ⊢
  omega

/-! ## Filling more than once -/

variable {chart : Chart} {grammar : Grammar} {tokens : List Token}

/-- The chart of some tokens that has been filled a number of times. -/
def afterFills (grammar : Grammar) (tokens : List Token) : Nat → Chart
  | 0 => new grammar tokens
  | times + 1 => (afterFills grammar tokens times).fill.1

theorem tokens_afterFills (grammar : Grammar) (tokens : List Token) (times : Nat) :
    (afterFills grammar tokens times).tokens = tokens := by
  induction times with
  | zero => rfl
  | succ times ih => exact (tokens_fillSpans _ _).trans ih

/-- No filling puts a nonterminal into a cell where it does not belong. -/
theorem sound_afterFills (grammar : Grammar) (tokens : List Token) (times : Nat) :
    (afterFills grammar tokens times).Sound := by
  induction times with
  | zero => exact sound_new grammar tokens
  | succ times ih => exact ih.fillSpans _

/-- Each cell holds all that derives its span, and nothing else. -/
def Exact (chart : Chart) : Prop :=
  ∀ start len symbol, symbol ∈ chart.symbols start len ↔
    Triangle.Fits chart.size start len ∧
      Derives chart.grammar.rules symbol (spanTexts chart.tokens start len)

/-- Filling completes whatever it is given, as long as there is nothing wrong in it. -/
theorem Sound.exact_fill (sound : chart.Sound) : chart.fill.1.Exact := by
  have sameSize : chart.fill.1.size = chart.size :=
    congrArg List.length (tokens_fillSpans chart (spans chart.size))
  intro start len symbol
  constructor
  · intro member
    refine ⟨?_, sound.fillSpans (spans chart.size) start len symbol member⟩
    refine Decidable.byContradiction fun outside => ?_
    rw [symbols_eq_empty_of_not_fits outside] at member
    exact Names.not_mem_empty symbol member
  · rintro ⟨fits, derivation⟩
    rw [sameSize] at fits
    exact completeAt_fillSpans (spans_shorter_first _)
      (fun _ _ fits' => Or.inl (mem_spans.mpr fits')) fits symbol derivation

theorem exact_afterFills (grammar : Grammar) (tokens : List Token) (times : Nat) :
    (afterFills grammar tokens (times + 1)).Exact :=
  (sound_afterFills grammar tokens times).exact_fill

/-- What is in the cells of an exact chart is a matter of its rules and tokens. -/
theorem Exact.symbols_fill_eq (exact : chart.Exact) (start len : Nat) :
    chart.fill.1.symbols start len = chart.symbols start len := by
  have sound : chart.Sound := fun start len symbol member => ((exact start len symbol).mp member).2
  ext symbol
  rw [sound.exact_fill, exact, size, fill, tokens_fillSpans, grammar_fillSpans, size]

theorem map_text_fill (chart : Chart) :
    chart.fill.1.tokens.map (·.text) = chart.tokens.map (·.text) := by
  rw [fill, tokens_fillSpans]

theorem Exact.cell_fill_eq (exact : chart.Exact) (start len : Nat) :
    chart.fill.1.cell start len = chart.cell start len :=
  cell_congr chart.map_text_fill exact.symbols_fill_eq start len

/-- Filling an exact chart adds nothing, and says so. -/
theorem Exact.fill_snd_eq_zero (exact : chart.Exact) : chart.fill.2 = 0 := by
  have counted : chart.fill.1.entries = chart.entries + chart.fill.2 :=
    entries_fillSpans chart (spans chart.size)
  rw [entries_congr chart.map_text_fill exact.symbols_fill_eq] at counted
  omega

theorem accepted_new (grammar : Grammar) (tokens : List Token) :
    (new grammar tokens).accepted = false := by
  rw [accepted, decide_eq_false_iff_not, symbols, cell_new]
  split
  · exact Names.not_mem_empty _
  · exact Names.not_mem_empty _

/-- **A chart is filled once.**  However often it is filled, its tokens stay, and a cell is found
for two words just when they are positive and their sum, as numbers, is at most one more than the
number of tokens; whatever filling looks up is such a cell.  In the beginning all cells are empty
and nothing is accepted.  The first filling reports how many entries the chart then has, and each
later one reports none and leaves all cells as they were. -/
theorem charts_are_filled_once (grammar : Grammar) (tokens : List Token) :
    (∀ times, (afterFills grammar tokens times).tokens = tokens) ∧
      (∀ times (start len : UInt64),
        (((afterFills grammar tokens times).cellAt start len).isSome = true ↔
          1 ≤ start.toNat ∧ 1 ≤ len.toNat ∧ start.toNat + len.toNat ≤ tokens.length + 1) ∧
        (afterFills grammar tokens times).cellAt start len =
          (afterFills grammar tokens times).cell start.toNat len.toNat) ∧
      (∀ span ∈ spans tokens.length, Triangle.Fits tokens.length span.1 span.2 ∧
        ∀ cut, 0 < cut → cut < span.2 → Triangle.Fits tokens.length span.1 cut ∧
          Triangle.Fits tokens.length (span.1 + cut) (span.2 - cut)) ∧
      (∀ start len, Triangle.Fits tokens.length start len →
        (new grammar tokens).cell start len = some ∅) ∧
      (new grammar tokens).accepted = false ∧
      (new grammar tokens).fill.2 = (new grammar tokens).fill.1.entries ∧
      ∀ times, (afterFills grammar tokens (times + 1)).fill.2 = 0 ∧
        ∀ start len, (afterFills grammar tokens (times + 1)).fill.1.cell start len =
          (afterFills grammar tokens (times + 1)).cell start len := by
  refine ⟨tokens_afterFills grammar tokens, ?_, ?_, ?_, accepted_new grammar tokens,
    (entries_fill grammar tokens).symm, ?_⟩
  · intro times start len
    have inside := (afterFills grammar tokens times).isSome_cell start.toNat len.toNat
    rw [size, tokens_afterFills] at inside
    rw [cellAt_eq_cell]
    exact ⟨inside, rfl⟩
  · intro span member
    have fits : Triangle.Fits tokens.length span.1 span.2 := mem_spans.mp member
    exact ⟨fits, fun cut => fits_parts fits⟩
  · intro start len fits
    rw [cell_new, if_pos fits]
  · intro times
    have exact := exact_afterFills grammar tokens times
    exact ⟨exact.fill_snd_eq_zero, exact.cell_fill_eq⟩

end Cyk.Chart
