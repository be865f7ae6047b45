import Cyk.Proofs.Chart.Recognition
import Mathlib.Algebra.BigOperators.Group.List.Basic
import Mathlib.Algebra.Ring.Nat
import Mathlib.Data.List.Nodup

/-!
# Counting what is found

Filling a span changes one cell, and that cell only grows.  So the numbers that the steps report add
up to what the chart holds in the end and did not hold in the beginning.
-/

namespace Cyk

theorem Names.size_le_of_subset {names others : Names} (subset : ∀ name ∈ names, name ∈ others) :
    names.size ≤ others.size :=
  (List.subperm_of_subset names.nodup subset).length_le

namespace Chart

variable {chart : Chart}

/-- The number of nonterminals in the cell of a span. -/
def cellSize (chart : Chart) (span : Nat × Nat) : Nat :=
  (chart.symbols span.1 span.2).size

/-- The number of entries in all cells: pairs of a span and a nonterminal in its cell. -/
def entries (chart : Chart) : Nat :=
  ((spans chart.size).map chart.cellSize).sum

/-- A span that does not fit has no symbols. -/
theorem symbols_eq_empty_of_not_fits {start len : Nat}
    (outside : ¬ Triangle.Fits chart.size start len) : chart.symbols start len = ∅ := by
  rw [← isSome_cell, Bool.not_eq_true, Option.isSome_eq_false_iff, Option.isNone_iff_eq_none]
    at outside
  rw [symbols, outside, Option.getD_none]

theorem symbols_fillSpan_of_ne {span : Nat × Nat} {start len : Nat} (other : (start, len) ≠ span) :
    (chart.fillSpan span).symbols start len = chart.symbols start len := by
  ext symbol
  rw [mem_symbols_fillSpan]
  simp [other]

/-- Filling a span adds as many entries as its cell grows by. -/
theorem entries_fillSpan (chart : Chart) (span : Nat × Nat) :
    (chart.fillSpan span).entries =
      chart.entries + ((chart.fillSpan span).cellSize span - chart.cellSize span) := by
  have grows : chart.cellSize span ≤ (chart.fillSpan span).cellSize span :=
    Names.size_le_of_subset fun symbol member => mem_symbols_fillSpan.mpr (Or.inl member)
  have kept : ∀ others : List (Nat × Nat), span ∉ others →
      others.map (chart.fillSpan span).cellSize = others.map chart.cellSize := by
    intro others elsewhere
    apply List.map_congr_left
    intro other member
    have different : (other.1, other.2) ≠ span := by
      rintro rfl
      exact elsewhere member
    rw [cellSize, symbols_fillSpan_of_ne different, cellSize]
  have same : (chart.fillSpan span).size = chart.size := rfl
  rw [entries, entries, same]
  by_cases fits : span ∈ spans chart.size
  · rcases List.append_of_mem fits with ⟨before, after, split⟩
    have distinct := nodup_spans chart.size
    rw [split, List.nodup_middle, List.nodup_cons, List.mem_append, not_or] at distinct
    rw [split, List.map_append, List.map_append, List.map_cons, List.map_cons,
      kept before distinct.1.1, kept after distinct.1.2]
    simp only [List.sum_append, List.sum_cons]
    omega
  · have outside : ¬ Triangle.Fits chart.size span.1 span.2 := fun inside =>
      fits (mem_spans.mpr inside)
    have empty : (chart.fillSpan span).symbols span.1 span.2 = ∅ :=
      symbols_eq_empty_of_not_fits outside
    rw [kept _ fits, cellSize, empty, cellSize, symbols_eq_empty_of_not_fits outside, Nat.sub_self,
      Nat.add_zero]

/-- The number that filling reports is the number of entries it adds. -/
theorem entries_fillSpans (chart : Chart) (spans : List (Nat × Nat)) :
    (chart.fillSpans spans).1.entries = chart.entries + (chart.fillSpans spans).2 := by
  induction spans generalizing chart with
  | nil => rfl
  | cons span rest ih =>
    rw [fillSpans, ih, entries_fillSpan, Nat.add_assoc]
    rfl

theorem entries_new (grammar : Grammar) (tokens : List Token) :
    (new grammar tokens).entries = 0 := by
  apply List.sum_eq_zero
  intro size member
  rcases List.mem_map.mp member with ⟨span, inside, rfl⟩
  have fits : Triangle.Fits tokens.length span.1 span.2 := mem_spans.mp inside
  rw [cellSize, symbols, cell_new, if_pos fits]
  rfl

/-- The first filling reports how many entries the chart then has. -/
theorem entries_fill (grammar : Grammar) (tokens : List Token) :
    (new grammar tokens).fill.1.entries = (new grammar tokens).fill.2 := by
  rw [fill, entries_fillSpans, entries_new, Nat.zero_add]

end Chart

end Cyk
