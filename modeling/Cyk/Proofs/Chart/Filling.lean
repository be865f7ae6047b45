import Cyk.Chart.Verdict
import Cyk.Proofs.Grammar.Derivation

/-!
# What a filled chart holds

A cell of a filled chart holds exactly the nonterminals that derive the terminals of its span.  At
every moment of the filling, cells hold nothing but such nonterminals; and since shorter spans come
first, the cells of the two parts of a span are final when the span is filled.
-/

namespace Cyk

open Relation

/-- The texts of the tokens of a span. -/
def spanTexts (tokens : List Token) (start len : Nat) : List String :=
  ((tokens.map (·.text)).drop (start - 1)).take len

theorem length_spanTexts {tokens : List Token} {start len : Nat}
    (fits : Triangle.Fits tokens.length start len) :
    (spanTexts tokens start len).length = len := by
  unfold Triangle.Fits at fits
  simp only [spanTexts, List.length_take, List.length_drop, List.length_map]
  omega

/-- A span is the row of its two parts, wherever it is cut. -/
theorem spanTexts_cut (tokens : List Token) {start len cut : Nat} (positive : 1 ≤ start)
    (inside : cut ≤ len) :
    spanTexts tokens start len =
      spanTexts tokens start cut ++ spanTexts tokens (start + cut) (len - cut) := by
  have shifted : start + cut - 1 = (start - 1) + cut := by omega
  have total : len = cut + (len - cut) := by omega
  rw [spanTexts, total, List.take_add, spanTexts, spanTexts, List.drop_drop, shifted, ← total]

theorem spanTexts_one {tokens : List Token} {start : Nat} {token : Token}
    (here : tokens[start - 1]? = some token) : spanTexts tokens start 1 = [token.text] := by
  simp [spanTexts, List.take_one, here]

theorem spanTexts_all (tokens : List Token) :
    spanTexts tokens 1 tokens.length = tokens.map (·.text) := by
  rw [spanTexts, Nat.sub_self, List.drop_zero]
  exact List.take_of_length_le (by simp)

namespace Chart

/-! ## The order of the spans -/

theorem mem_spans {size start len : Nat} :
    (start, len) ∈ spans size ↔ Triangle.Fits size start len := by
  simp only [spans, List.mem_flatMap, List.mem_map, List.mem_range, Prod.mk.injEq, Triangle.Fits]
  constructor
  · rintro ⟨shorter, inside, before, within, rfl, rfl⟩
    omega
  · rintro ⟨positive, nonempty, fits⟩
    exact ⟨len - 1, by omega, start - 1, by omega, by omega, by omega⟩

/-- Shorter spans come first, and of spans of one length those that start earlier. -/
theorem spans_ordered (size : Nat) :
    (spans size).Pairwise fun span later =>
      span.2 < later.2 ∨ span.2 = later.2 ∧ span.1 < later.1 := by
  rw [spans, List.pairwise_flatMap]
  constructor
  · intro shorter _
    apply List.pairwise_map.mpr
    apply List.pairwise_lt_range.imp
    intro before other less
    exact Or.inr ⟨rfl, Nat.succ_lt_succ less⟩
  · apply List.pairwise_lt_range.imp
    intro shorter longer less span member later member'
    rcases List.mem_map.mp member with ⟨_, _, rfl⟩
    rcases List.mem_map.mp member' with ⟨_, _, rfl⟩
    exact Or.inl (Nat.succ_lt_succ less)

theorem spans_shorter_first (size : Nat) :
    (spans size).Pairwise fun span later => span.2 ≤ later.2 := by
  apply (spans_ordered size).imp
  intro span later before
  omega

theorem nodup_spans (size : Nat) : (spans size).Nodup := by
  apply (spans_ordered size).imp
  rintro span _ before rfl
  omega

/-! ## What a step finds -/

theorem mem_closeUnits {grammar : Grammar} {symbols : Names} {symbol : String} :
    symbol ∈ closeUnits grammar symbols ↔
      ∃ core ∈ symbols, ReflTransGen (UnitRule.Leads grammar.rules.unit) symbol core := by
  simp only [closeUnits, Names.mem_insertAll, List.mem_flatMap, ← Names.mem_def,
    Grammar.mem_get_ancestors]
  constructor
  · rintro (⟨core, member, -, path⟩ | member)
    · exact ⟨core, member, path.to_reflTransGen⟩
    · exact ⟨symbol, member, ReflTransGen.refl⟩
  · rintro ⟨core, member, path⟩
    by_cases same : symbol = core
    · exact Or.inr (same ▸ member)
    · rcases reflTransGen_iff_eq_or_transGen.mp path with equal | path
      · exact absurd equal.symm same
      · exact Or.inl ⟨core, member, same, path⟩

theorem mem_lexicalSymbols {chart : Chart} {start : Nat} {symbol : String} :
    symbol ∈ chart.lexicalSymbols start ↔
      ∃ token, chart.tokens[start - 1]? = some token ∧
        token.text ∈ chart.grammar.rules.lexical.get symbol := by
  unfold lexicalSymbols
  cases found : chart.tokens[start - 1]? with
  | none => simp
  | some token => simp [Grammar.mem_get_categories]

theorem mem_binarySymbols {chart : Chart} {start len : Nat} {symbol : String} :
    symbol ∈ chart.binarySymbols start len ↔
      ∃ cut left right, 0 < cut ∧ cut < len ∧
        ⟨symbol, left, right⟩ ∈ chart.grammar.rules.binary ∧
          left ∈ chart.symbols start cut ∧ right ∈ chart.symbols (start + cut) (len - cut) := by
  simp only [binarySymbols, joined, Names.mem_ofList, List.mem_flatMap, List.mem_range,
    List.mem_map, List.mem_filter, Bool.and_eq_true, decide_eq_true_eq]
  constructor
  · rintro ⟨before, inside, ⟨_, left, right⟩, ⟨rule, inLeft, inRight⟩, rfl⟩
    exact ⟨before + 1, left, right, by omega, by omega, rule, inLeft, inRight⟩
  · rintro ⟨cut, left, right, positive, inside, rule, inLeft, inRight⟩
    have shifted : cut - 1 + 1 = cut := by omega
    rw [← shifted] at inLeft inRight
    exact ⟨cut - 1, by omega, ⟨symbol, left, right⟩, ⟨rule, inLeft, inRight⟩, rfl⟩

/-- Filling a span adds what is found for it to its own cell, and changes no other. -/
theorem mem_symbols_fillSpan {chart : Chart} {span : Nat × Nat} {start len : Nat}
    {symbol : String} :
    symbol ∈ (chart.fillSpan span).symbols start len ↔
      symbol ∈ chart.symbols start len ∨
        (start, len) = span ∧ Triangle.Fits chart.size start len ∧
          symbol ∈ chart.found start len := by
  rcases span with ⟨start', len'⟩
  simp only [fillSpan, symbols, cell_extend, Prod.mk.injEq]
  by_cases here : start = start' ∧ len = len'
  · rcases here with ⟨rfl, rfl⟩
    have inside := chart.isSome_cell start len
    cases found : chart.cell start len with
    | none =>
      rw [found] at inside
      have outside : ¬ Triangle.Fits chart.size start len := fun fits => by simp [fits] at inside
      simp [outside]
    | some names =>
      rw [found] at inside
      have fits : Triangle.Fits chart.size start len := inside.mp rfl
      simp [fits]
  · simp [here]

/-! ## What holds throughout the filling -/

/-- Every cell holds only nonterminals that derive its span. -/
def Sound (chart : Chart) : Prop :=
  ∀ start len symbol, symbol ∈ chart.symbols start len →
    Derives chart.grammar.rules symbol (spanTexts chart.tokens start len)

/-- The cell of a span holds all nonterminals that derive it. -/
def CompleteAt (chart : Chart) (start len : Nat) : Prop :=
  ∀ symbol, Derives chart.grammar.rules symbol (spanTexts chart.tokens start len) →
    symbol ∈ chart.symbols start len

/-- In a sound chart, whatever is found for a span derives it. -/
theorem Sound.derives_of_mem_found {chart : Chart} (sound : chart.Sound) {start len : Nat}
    (fits : Triangle.Fits chart.size start len) {symbol : String}
    (found : symbol ∈ chart.found start len) :
    Derives chart.grammar.rules symbol (spanTexts chart.tokens start len) := by
  rcases mem_closeUnits.mp found with ⟨core, member, path⟩
  apply Derives.of_path path
  split at member
  · rename_i single
    subst single
    rcases mem_lexicalSymbols.mp member with ⟨token, here, rule⟩
    rw [spanTexts_one here]
    exact Derives.lexical rule
  · rcases mem_binarySymbols.mp member with ⟨cut, left, right, _, inside, rule, inLeft, inRight⟩
    rw [spanTexts_cut chart.tokens fits.1 (Nat.le_of_lt inside)]
    exact Derives.binary rule (sound _ _ _ inLeft) (sound _ _ _ inRight)

/-- Filling a span keeps a chart sound. -/
theorem Sound.fillSpan {chart : Chart} (sound : chart.Sound) (span : Nat × Nat) :
    (chart.fillSpan span).Sound := by
  intro start len symbol member
  rcases mem_symbols_fillSpan.mp member with known | ⟨_, fits, found⟩
  · exact sound start len symbol known
  · exact sound.derives_of_mem_found fits found

/-- Cells only grow, so a complete cell stays complete. -/
theorem CompleteAt.fillSpan {chart : Chart} {start len : Nat}
    (complete : chart.CompleteAt start len) (span : Nat × Nat) :
    (chart.fillSpan span).CompleteAt start len :=
  fun symbol derivation => mem_symbols_fillSpan.mpr (Or.inl (complete symbol derivation))

/-- Once the cells of all shorter spans are complete, filling a span completes its cell. -/
theorem completeAt_fillSpan {chart : Chart} {start len : Nat}
    (fits : Triangle.Fits chart.size start len)
    (shorter : ∀ start' len', Triangle.Fits chart.size start' len' → len' < len →
      chart.CompleteAt start' len') :
    (chart.fillSpan (start, len)).CompleteAt start len := by
  intro symbol derivation
  change Derives chart.grammar.rules symbol (spanTexts chart.tokens start len) at derivation
  rcases derivation.exists_path_direct with ⟨core, path, direct⟩
  suffices found : core ∈ if len = 1 then chart.lexicalSymbols start
      else chart.binarySymbols start len from
    mem_symbols_fillSpan.mpr (Or.inr ⟨rfl, fits, mem_closeUnits.mpr ⟨core, found, path⟩⟩)
  have width : (spanTexts chart.tokens start len).length = len := length_spanTexts fits
  rcases fits with ⟨positive, nonempty, inside⟩
  unfold size at inside
  generalize row : spanTexts chart.tokens start len = terminals at direct width
  cases direct with
  | lexical rule =>
    obtain rfl : len = 1 := width.symm
    have bound : start - 1 < chart.tokens.length := by omega
    have here := List.getElem?_eq_getElem bound
    rw [spanTexts_one here, List.singleton_inj] at row
    subst row
    rw [if_pos rfl]
    exact mem_lexicalSymbols.mpr ⟨_, here, rule⟩
  | @binary left right front back rule before after =>
    -- Both parts are nonempty, so both are shorter than the span.
    have frontPositive : 0 < front.length := List.length_pos_iff.mpr before.ne_nil
    have backPositive : 0 < back.length := List.length_pos_iff.mpr after.ne_nil
    rw [List.length_append] at width
    have cut := spanTexts_cut chart.tokens positive (show front.length ≤ len by omega)
    have frontFits : Triangle.Fits chart.size start front.length :=
      ⟨positive, frontPositive, by unfold size; omega⟩
    have backFits : Triangle.Fits chart.size (start + front.length) (len - front.length) :=
      ⟨by omega, by omega, by unfold size; omega⟩
    obtain ⟨frontRow, backRow⟩ :=
      List.append_inj (cut.symm.trans row) (length_spanTexts frontFits)
    rw [if_neg (by omega)]
    have inLeft : left ∈ chart.symbols start front.length :=
      shorter _ _ frontFits (by omega) left (by rwa [frontRow])
    have inRight : right ∈ chart.symbols (start + front.length) (len - front.length) :=
      shorter _ _ backFits (by omega) right (by rwa [backRow])
    exact mem_binarySymbols.mpr
      ⟨front.length, left, right, frontPositive, by omega, rule, inLeft, inRight⟩

/-! ## Whole runs -/

theorem sound_new (grammar : Grammar) (tokens : List Token) : (new grammar tokens).Sound := by
  intro start len symbol member
  rw [symbols, cell_new] at member
  split at member <;> simp at member

theorem Sound.fillSpans {chart : Chart} (sound : chart.Sound) (spans : List (Nat × Nat)) :
    (chart.fillSpans spans).1.Sound := by
  induction spans generalizing chart with
  | nil => exact sound
  | cons span rest ih => exact ih (sound.fillSpan span)

/-- If the spans that are not complete yet are filled from the shortest on, all become complete. -/
theorem completeAt_fillSpans {chart : Chart} {spans : List (Nat × Nat)}
    (ordered : spans.Pairwise fun span later => span.2 ≤ later.2)
    (remaining : ∀ start len, Triangle.Fits chart.size start len →
      (start, len) ∈ spans ∨ chart.CompleteAt start len)
    {start len : Nat} (fits : Triangle.Fits chart.size start len) :
    (chart.fillSpans spans).1.CompleteAt start len := by
  induction spans generalizing chart with
  | nil => exact (remaining start len fits).resolve_left (by simp)
  | cons span rest ih =>
    rcases span with ⟨first, last⟩
    rcases List.pairwise_cons.mp ordered with ⟨longer, ordered⟩
    refine ih ordered ?_ fits
    intro start' len' fits'
    rcases remaining start' len' fits' with member | complete
    · rcases List.mem_cons.mp member with here | member
      · rcases Prod.mk.inj here with ⟨rfl, rfl⟩
        refine Or.inr (completeAt_fillSpan fits' ?_)
        intro start'' len'' fits'' less
        apply (remaining start'' len'' fits'').resolve_left
        intro waiting
        rcases List.mem_cons.mp waiting with same | later
        · have := congrArg Prod.snd same
          omega
        · have : len' ≤ len'' := longer _ later
          omega
      · exact Or.inl member
    · exact Or.inr (complete.fillSpan (first, last))

/-- A filled chart holds exactly the nonterminals that derive its spans. -/
theorem mem_symbols_fill {grammar : Grammar} {tokens : List Token} {start len : Nat}
    {symbol : String} :
    symbol ∈ (new grammar tokens).fill.1.symbols start len ↔
      Triangle.Fits tokens.length start len ∧
        Derives grammar.rules symbol (spanTexts tokens start len) := by
  have final : (new grammar tokens).fill.1.tokens = tokens := tokens_fillSpans _ _
  have same : (new grammar tokens).fill.1.grammar = grammar := grammar_fillSpans _ _
  constructor
  · intro member
    constructor
    · have inside := (new grammar tokens).fill.1.isSome_cell start len
      rw [size, final] at inside
      apply inside.mp
      cases found : (new grammar tokens).fill.1.cell start len with
      | none => simp [symbols, found] at member
      | some names => rfl
    · have sound := (sound_new grammar tokens).fillSpans (spans tokens.length)
      have derivation := sound start len symbol member
      rwa [grammar_fillSpans, tokens_fillSpans] at derivation
  · rintro ⟨fits, derivation⟩
    have complete : (new grammar tokens).fill.1.CompleteAt start len :=
      completeAt_fillSpans (spans_shorter_first _)
        (fun start' len' fits' => Or.inl (mem_spans.mpr fits')) fits
    apply complete symbol
    rwa [final, same]

end Chart

end Cyk
