import Cyk.Chart.View
import Cyk.Proofs.Chart.Counting
import Mathlib.Tactic.Ring

/-!
# What a view shows of a chart

A place on or below the diagonal of a view belongs to exactly one span: its column is where the span
starts and its row is where it ends.  So it makes no difference whether cells are listed, looked up
or taken from the rows of the square, and each of the three shows all spans of the chart.
-/

namespace Cyk

/-- If no two members of a list pass a test, the search may begin at either end. -/
theorem find?_reverse_of_unique {α : Type} {list : List α} {test : α → Bool}
    (unique : ∀ first ∈ list, ∀ other ∈ list, test first = true → test other = true →
      first = other) :
    list.reverse.find? test = list.find? test := by
  cases found : list.find? test with
  | none =>
    rw [List.find?_eq_none] at found ⊢
    intro member inside
    exact found member (List.mem_reverse.mp inside)
  | some first =>
    have inside := List.mem_of_find?_eq_some found
    have passes := List.find?_some found
    cases found' : list.reverse.find? test with
    | none => exact absurd passes (List.find?_eq_none.mp found' first (List.mem_reverse.mpr inside))
    | some other =>
      have inside' := List.mem_reverse.mp (List.mem_of_find?_eq_some found')
      exact congrArg some (unique other inside' first inside (List.find?_some found') passes)

namespace View

/-- The square has as many rows as there are tokens, and each as many places. -/
theorem length_rows (view : View) :
    view.rows.length = view.size ∧ ∀ places ∈ view.rows, places.length = view.size := by
  constructor
  · rw [rows, List.length_map, List.length_range]
  · intro places member
    rcases List.mem_map.mp member with ⟨row, -, rfl⟩
    rw [List.length_map, List.length_range]

/-- A place of the square shows the last cell there. -/
theorem exists_places (view : View) {row column : Nat} (positive : 1 ≤ row)
    (inside : row ≤ view.size) (positive' : 1 ≤ column) (inside' : column ≤ view.size) :
    ∃ places, view.rows[row - 1]? = some places ∧
      places[column - 1]? = some (view.shown? row column) := by
  have here : (List.range view.size)[row - 1]? = some (row - 1) :=
    List.getElem?_range (by omega)
  have here' : (List.range view.size)[column - 1]? = some (column - 1) :=
    List.getElem?_range (by omega)
  apply Exists.intro
  constructor
  · rw [rows, List.getElem?_map, here, Option.map_some]
  · rw [List.getElem?_map, here', Option.map_some, Nat.sub_add_cancel positive,
      Nat.sub_add_cancel positive']

end View

namespace Chart

variable (chart : Chart)

/-! ## Looking up a place -/

theorem mem_cells_view {chart : Chart} {cell : ViewCell} :
    cell ∈ chart.view.cells ↔
      ∃ start len, Triangle.Fits chart.size start len ∧ chart.viewCell (start, len) = cell := by
  rw [view, List.mem_map]
  constructor
  · rintro ⟨⟨start, len⟩, member, rfl⟩
    exact ⟨start, len, mem_spans.mp member, rfl⟩
  · rintro ⟨start, len, fits, rfl⟩
    exact ⟨(start, len), mem_spans.mpr fits, rfl⟩

/-- The first cell at a place of a chart's view is that of the only span with the place. -/
theorem get?_view (row column : Nat) :
    chart.view.get? row column =
      if 1 ≤ column ∧ column ≤ row ∧ row ≤ chart.size then
        some (chart.viewCell (column, row + 1 - column))
      else none := by
  rw [view, View.get?, List.find?_map]
  cases found : (spans chart.size).find?
      ((fun cell => cell.row == row && cell.column == column) ∘ chart.viewCell) with
  | none =>
    rw [if_neg, Option.map_none]
    rintro ⟨positive, below, inside⟩
    have member : (column, row + 1 - column) ∈ spans chart.size :=
      mem_spans.mpr ⟨positive, by omega, by omega⟩
    have elsewhere := List.find?_eq_none.mp found _ member
    apply elsewhere
    simp only [Function.comp, viewCell, Bool.and_eq_true, beq_iff_eq]
    exact ⟨by omega, trivial⟩
  | some span =>
    rcases span with ⟨start, len⟩
    rcases mem_spans.mp (List.mem_of_find?_eq_some found) with ⟨positive, nonempty, inside⟩
    have here := List.find?_some found
    simp only [Function.comp, viewCell, Bool.and_eq_true, beq_iff_eq] at here
    rcases here with ⟨last, rfl⟩
    have length_eq : row + 1 - start = len := by omega
    rw [if_pos ⟨positive, by omega, by omega⟩, Option.map_some, length_eq]

/-- No two spans share a place, so the last cell at a place is the first one. -/
theorem shown?_view (row column : Nat) :
    chart.view.shown? row column = chart.view.get? row column := by
  apply find?_reverse_of_unique
  intro first member other member' here here'
  rcases mem_cells_view.mp member with ⟨start, len, ⟨_, _, _⟩, rfl⟩
  rcases mem_cells_view.mp member' with ⟨start', len', ⟨_, _, _⟩, rfl⟩
  simp only [viewCell, Bool.and_eq_true, beq_iff_eq] at here here'
  obtain rfl : start = start' := here.2.trans here'.2.symm
  obtain rfl : len = len' := by omega
  rfl

/-- The corner of a view says whether the chart accepts. -/
theorem get?_view_corner {chart : Chart} (nonempty : 1 ≤ chart.size) :
    ∃ corner, chart.view.get? chart.size 1 = some corner ∧ corner.hasStart = chart.accepted := by
  apply Exists.intro (chart.viewCell (1, chart.size))
  constructor
  · rw [get?_view, if_pos ⟨Nat.le_refl 1, nonempty, Nat.le_refl _⟩, Nat.add_sub_cancel]
  · rfl

/-! ## All that is shown -/

/-- A row of `size` positions has a triangular number of spans. -/
theorem length_spans (size : Nat) : (spans size).length = size * (size + 1) / 2 := by
  have twice : ((List.range size).map (size - ·)).sum * 2 = size * (size + 1) := by
    induction size with
    | zero => rfl
    | succ size ih =>
      have shorter : (List.range size).map ((size + 1 - ·) ∘ Nat.succ) =
          (List.range size).map (size - ·) :=
        List.map_congr_left fun before _ => Nat.add_sub_add_right size 1 before
      rw [List.range_succ_eq_map, List.map_cons, List.map_map, shorter, List.sum_cons,
        Nat.sub_zero, Nat.add_mul, ih]
      ring
  have lengths : (spans size).length = ((List.range size).map (size - ·)).sum := by
    simp [spans, List.length_flatMap]
  omega

end Chart

/-- A view shows a chart: the list of its cells, the search for a place and the rows of the square
all give the same picture of it. -/
structure View.Depicts (view : View) (chart : Chart) : Prop where
  tokens_eq : view.tokens = chart.tokens.map (·.text)
  /-- Shorter spans come first, and of equally long ones those that start earlier; so no span comes
  twice. -/
  ordered : view.cells.Pairwise fun cell later =>
    cell.len < later.len ∨ cell.len = later.len ∧ cell.start < later.start
  exists_cell_iff : ∀ start len,
    (∃ cell ∈ view.cells, cell.start = start ∧ cell.len = len) ↔ Triangle.Fits chart.size start len
  length_cells : view.cells.length = chart.size * (chart.size + 1) / 2
  placed : ∀ cell ∈ view.cells, cell.row = cell.start + cell.len - 1 ∧ cell.column = cell.start
  hasStart_iff : ∀ cell ∈ view.cells, (cell.hasStart = true ↔
    ∃ symbols, chart.cell cell.start cell.len = some symbols ∧ chart.grammar.start ∈ symbols)
  /-- There is a cell at every place on or below the diagonal, and nowhere else. -/
  isSome_get?_iff : ∀ row column, (view.get? row column).isSome = true ↔
    1 ≤ column ∧ column ≤ row ∧ row ≤ chart.size
  get?_eq_some : ∀ row column cell, view.get? row column = some cell →
    cell ∈ view.cells ∧ cell.start = column ∧ cell.len = row - column + 1
  length_rows : view.rows.length = chart.size ∧ ∀ places ∈ view.rows, places.length = chart.size
  /-- The places of the square, those above the diagonal among them, show what the search finds. -/
  rows_eq : ∀ row column, 1 ≤ row → row ≤ chart.size → 1 ≤ column → column ≤ chart.size →
    ∃ places, view.rows[row - 1]? = some places ∧ places[column - 1]? = some (view.get? row column)
  accepted_iff : view.accepted = true ↔
    0 < chart.size ∧ ∃ corner, view.get? chart.size 1 = some corner ∧ corner.hasStart = true

namespace Chart

variable {chart : Chart}

theorem hasStart_viewCell_iff {start len : Nat} (fits : Triangle.Fits chart.size start len) :
    (chart.viewCell (start, len)).hasStart = true ↔
      ∃ symbols, chart.cell start len = some symbols ∧ chart.grammar.start ∈ symbols := by
  rw [cell_eq_some_symbols fits, viewCell, decide_eq_true_eq]
  simp only [Option.some.injEq, exists_eq_left']

theorem accepted_iff_corner :
    chart.view.accepted = true ↔
      0 < chart.size ∧
        ∃ corner, chart.view.get? chart.size 1 = some corner ∧ corner.hasStart = true := by
  by_cases nonempty : 1 ≤ chart.size
  · rcases get?_view_corner nonempty with ⟨corner, here, agrees⟩
    rw [here]
    simp only [Option.some.injEq, exists_eq_left', agrees]
    exact (and_iff_right nonempty).symm
  · have outside : ¬ Triangle.Fits chart.size 1 chart.size := fun fits => nonempty fits.2.1
    have rejected : chart.view.accepted = false := by
      rw [view, accepted, symbols_eq_empty_of_not_fits outside]
      exact decide_eq_false (Names.not_mem_empty chart.grammar.start)
    rw [rejected]
    constructor
    · intro impossible
      contradiction
    · rintro ⟨positive, -⟩
      exact absurd positive nonempty

/-- **The view is a faithful picture of the chart**, whether or not the chart has been filled and
however long its sentence is. -/
theorem view_depicts_chart (chart : Chart) : chart.view.Depicts chart where
  tokens_eq := rfl
  ordered := List.pairwise_map.mpr (spans_ordered chart.size)
  exists_cell_iff start len := by
    constructor
    · rintro ⟨cell, member, rfl, rfl⟩
      rcases mem_cells_view.mp member with ⟨start, len, fits, rfl⟩
      exact fits
    · intro fits
      exact ⟨_, mem_cells_view.mpr ⟨start, len, fits, rfl⟩, rfl, rfl⟩
  length_cells := (List.length_map _).trans (length_spans chart.size)
  placed cell member := by
    rcases mem_cells_view.mp member with ⟨start, len, -, rfl⟩
    exact ⟨rfl, rfl⟩
  hasStart_iff cell member := by
    rcases mem_cells_view.mp member with ⟨start, len, fits, rfl⟩
    exact hasStart_viewCell_iff fits
  isSome_get?_iff row column := by
    rw [get?_view]
    split
    · rename_i inside
      exact iff_of_true rfl inside
    · rename_i outside
      exact iff_of_false Bool.false_ne_true outside
  get?_eq_some row column cell found := by
    rw [get?_view] at found
    split at found
    · rename_i inside
      obtain rfl := Option.some.inj found
      have fits : Triangle.Fits chart.size column (row + 1 - column) :=
        ⟨inside.1, by omega, by omega⟩
      exact ⟨mem_cells_view.mpr ⟨_, _, fits, rfl⟩, rfl, Nat.succ_sub inside.2.1⟩
    · contradiction
  length_rows := by
    have size_eq : chart.view.size = chart.size := List.length_map _
    rw [← size_eq]
    exact chart.view.length_rows
  rows_eq row column positive inside positive' inside' := by
    have size_eq : chart.view.size = chart.size := List.length_map _
    rw [← size_eq] at inside inside'
    rw [← shown?_view]
    exact chart.view.exists_places positive inside positive' inside'
  accepted_iff := accepted_iff_corner

end Chart

end Cyk
