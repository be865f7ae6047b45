import Cyk.Proofs.Grid.Fields
import Cyk.Proofs.Text.Clusters
import Cyk.Proofs.Text.Parts
import Mathlib.Algebra.Ring.Nat

/-!
# Widths of the lines of a grid

Every field of a grid is padded to the width of the widest text, so each row is as wide as the
rulings, but for the clusters that a text in it has in common with the spaces beside it.
-/

namespace Cyk

open Text Grapheme

namespace Grid

/-- A row of texts, padded and with bars between them. -/
def line (columns : Nat) (row : List String) : String :=
  "|" ++ String.join (row.map fun text => " " ++ pad text columns ++ " |")

/-- The signs that the frame of a grid is made of are plain. -/
theorem isPlain_of_mem_frame : ∀ c ∈ [' ', '|', '+', '-'], IsPlain c := by
  have plain : [' ', '|', '+', '-'].all (IsPlain ·) = true := by decide +kernel
  exact fun c member => of_decide_eq_true (List.all_eq_true.mp plain c member)

/-! ## The widest text -/

theorem le_foldl_max_width (texts : List String) (columns : Nat) :
    columns ≤ texts.foldl (fun columns text => Nat.max columns (width text)) columns ∧
      ∀ text ∈ texts,
        width text ≤ texts.foldl (fun columns text => Nat.max columns (width text)) columns := by
  induction texts generalizing columns with
  | nil => simp
  | cons text texts ih =>
    rcases ih (Nat.max columns (width text)) with ⟨bound, bounds⟩
    constructor
    · exact Nat.le_trans (Nat.le_max_left _ _) bound
    · intro other member
      rcases List.mem_cons.mp member with rfl | later
      · exact Nat.le_trans (Nat.le_max_right _ _) bound
      · exact bounds other later

theorem width_le_widest {texts : List String} {text : String} (member : text ∈ texts) :
    width text ≤ widest texts :=
  (le_foldl_max_width texts 0).2 text member

/-- No text in a grid is wider than its columns. -/
theorem width_le_columnWidth {view : View} {row : List String} {text : String}
    (inTexts : row ∈ texts view) (inRow : text ∈ row) : width text ≤ columnWidth view := by
  rcases token_or_label_of_mem_texts inTexts inRow with rfl | token | ⟨cell, inCells, rfl⟩
  · exact Nat.zero_le _
  · exact width_le_widest (List.mem_append_left _ token)
  · exact width_le_widest (List.mem_append_right _ (List.mem_map_of_mem inCells))

/-! ## Single lines -/

/-- A field and the signs around it: what the text has in common with the spaces is missing. -/
theorem countFrom_padded {text : String} {columns : Nat} (fits : width text ≤ columns)
    (rest : List Char) :
    countFrom .empty ((" " ++ pad text columns ++ " |").toList ++ rest) + overlap text =
      columns + 3 + countFrom .empty rest := by
  have space : IsPlain ' ' := isPlain_of_mem_frame ' ' (by simp)
  have starts : Context.empty.last ≠ .prepended := by decide
  have spaces : List.replicate (columns - width text) ' ' ++ [' '] =
      ' ' :: List.replicate (columns - width text) ' ' := by
    rw [← List.replicate_succ', List.replicate_succ]
  have letters : (" " ++ pad text columns ++ " |").toList ++ rest =
      ' ' :: (text.toList ++ ' ' ::
        (List.replicate (columns - width text) ' ' ++ ['|'] ++ rest)) := by
    have turned := congrArg (· ++ '|' :: rest) spaces
    simpa [pad] using turned
  have plain : ∀ c ∈ List.replicate (columns - width text) ' ' ++ ['|'], IsPlain c := by
    intro c member
    apply isPlain_of_mem_frame
    simp at member
    rcases member with ⟨-, rfl⟩ | rfl <;> simp
  have between := countFrom_between text space
    (List.replicate (columns - width text) ' ' ++ ['|'] ++ rest)
  rw [countFrom_plain plain, List.length_append, List.length_replicate, List.length_singleton]
    at between
  rw [letters, countFrom_plain_cons space, if_neg starts]
  omega

/-- Behind a bar, each field has the width of the column and three more. -/
theorem countFrom_fields {columns : Nat} {row : List String}
    (fits : ∀ text ∈ row, width text ≤ columns) :
    countFrom .empty (String.join (row.map fun text => " " ++ pad text columns ++ " |")).toList +
      (row.map overlap).sum = row.length * (columns + 3) := by
  induction row with
  | nil => simp [countFrom]
  | cons text row ih =>
    rcases List.forall_mem_cons.mp fits with ⟨here, others⟩
    have padded := countFrom_padded here
      (String.join (row.map fun text => " " ++ pad text columns ++ " |")).toList
    have later := ih others
    rw [List.map_cons, String.join_cons, String.toList_append, List.map_cons, List.sum_cons,
      List.length_cons, Nat.succ_mul]
    omega

/-- A line is as wide as its fields and the bar in front of them, but for what texts have in common
with spaces. -/
theorem width_line {columns : Nat} {row : List String}
    (fits : ∀ text ∈ row, width text ≤ columns) :
    width (line columns row) + (row.map overlap).sum = 1 + row.length * (columns + 3) := by
  have bar : IsPlain '|' := isPlain_of_mem_frame '|' (by simp)
  have front : ("|" : String).toList = ['|'] := rfl
  have fields := countFrom_fields fits
  rw [width, line, String.toList_append, front, List.singleton_append, count_plain_cons bar]
  omega

/-- Every sign of a ruling is a cluster of its own. -/
theorem width_rule (size columns : Nat) :
    width (rule size columns) = 1 + (size + 1) * (columns + 3) := by
  have signs : (rule size columns).toList =
      '+' :: (List.replicate (size + 1) (List.replicate (columns + 2) '-' ++ ['+'])).flatten := by
    simp [rule, String.toList_join, List.flatMap_def]
  have plain : ∀ c ∈ (rule size columns).toList, IsPlain c := by
    intro c member
    apply isPlain_of_mem_frame
    simp [signs] at member
    rcases member with rfl | rfl | rfl <;> simp
  rw [width_of_isPlain plain, ← String.length_toList, signs]
  simp
  exact Nat.add_comm _ _

/-! ## Grids without colour -/

/-- The lines of a grid without colour: its rows of texts, with rulings above and below them. -/
def plainLines (view : View) : List String :=
  let rule := rule view.size (columnWidth view)
  rule :: (texts view).flatMap fun row => [line (columnWidth view) row, rule]

section Plain

variable {view : View}

theorem mem_plainLines_iff {other : String} :
    other ∈ plainLines view ↔ other = rule view.size (columnWidth view) ∨
      ∃ row ∈ texts view, other = line (columnWidth view) row := by
  simp only [plainLines, List.mem_cons, List.mem_flatMap, List.not_mem_nil, or_false]
  constructor
  · rintro (ruling | ⟨row, member, fields | ruling⟩)
    · exact Or.inl ruling
    · exact Or.inr ⟨row, member, fields⟩
    · exact Or.inl ruling
  · rintro (ruling | ⟨row, member, fields⟩)
    · exact Or.inl ruling
    · exact Or.inr ⟨row, member, Or.inl fields⟩

theorem length_texts (filled : view.size ≠ 0) : (texts view).length = view.size + 1 := by
  have rows : (view.tokens.zip view.rows).length = view.size := by
    rw [List.length_zip, View.rows, List.length_map, List.length_range, View.size, Nat.min_self]
  rw [texts, if_neg filled, List.length_cons, List.length_map, rows]

theorem length_of_mem_texts {row : List String} (member : row ∈ texts view) :
    row.length = view.size + 1 := by
  rw [texts] at member
  split at member
  · contradiction
  · rcases List.mem_cons.mp member with rfl | inBody
    · rfl
    · rcases List.mem_map.mp inBody with ⟨⟨token, places⟩, listed, rfl⟩
      rcases List.mem_map.mp (List.of_mem_zip listed).2 with ⟨index, -, rfl⟩
      simp

theorem length_plainLines (filled : view.size ≠ 0) :
    (plainLines view).length = 2 * view.size + 3 := by
  have pairs : ((texts view).flatMap fun row => [line (columnWidth view) row,
      rule view.size (columnWidth view)]).length = (view.size + 1) * 2 := by
    rw [List.length_flatMap, ← length_texts filled]
    simp only [List.length_cons, List.length_nil, List.map_const', List.sum_replicate_nat]
  rw [plainLines, List.length_cons, pairs]
  omega

/-- Without colour a grid is its plain lines, whether or not escape sequences are written. -/
theorem lines_fields (filled : view.size ≠ 0) (escapes : Bool) :
    lines escapes (rule view.size (columnWidth view)) (fields view false) = plainLines view := by
  have unstyled : slot false (columnWidth view) =
      fun place => ⟨pad (placeText place) (columnWidth view), none⟩ := by
    funext place
    cases place <;> rfl
  rw [fields, if_neg filled, plainLines, texts, if_neg filled]
  simp [lines, bars, line, header, unstyled, placeText, List.flatMap_map, Function.comp_def]

theorem linefeed_not_mem_of_mem_plainLines
    (apart : ∀ row ∈ texts view, ∀ text ∈ row, '\n' ∉ text.toList) :
    ∀ other ∈ plainLines view, '\n' ∉ other.toList := by
  intro other member
  rcases mem_plainLines_iff.mp member with rfl | ⟨row, inTexts, rfl⟩
  · simp [rule, String.toList_join]
  · simp [line, pad, String.toList_join]
    exact apart row inTexts

/-- The text of a grid without colour is taken apart at its line feeds. -/
theorem partsAt_render (filled : view.size ≠ 0)
    (apart : ∀ row ∈ texts view, ∀ text ∈ row, '\n' ∉ text.toList) (escapes : Bool) :
    partsAt "\n" (render view false escapes) = plainLines view ++ [""] := by
  rw [render_eq_lines, lines_fields filled]
  exact partsAt_join (c := '\n') rfl (linefeed_not_mem_of_mem_plainLines apart)

/-- A row falls short of the rulings by what its texts have in common with spaces. -/
theorem width_line_of_mem_texts {row : List String} (member : row ∈ texts view) :
    width (line (columnWidth view) row) + (row.map overlap).sum =
      width (rule view.size (columnWidth view)) := by
  rw [width_line fun text => width_le_columnWidth member, length_of_mem_texts member, width_rule]

/-- A grid is aligned just if no text in it is one cluster with a space. -/
theorem aligned_iff :
    (∀ one ∈ plainLines view, ∀ other ∈ plainLines view, width one = width other) ↔
      ∀ row ∈ texts view, ∀ text ∈ row, ¬ BeginsWithMark text ∧ ¬ EndsInPrepended text := by
  have ruling : rule view.size (columnWidth view) ∈ plainLines view :=
    mem_plainLines_iff.mpr (Or.inl rfl)
  constructor
  · intro aligned row inTexts text inRow
    have fields : line (columnWidth view) row ∈ plainLines view :=
      mem_plainLines_iff.mpr (Or.inr ⟨row, inTexts, rfl⟩)
    have short := width_line_of_mem_texts inTexts
    rw [aligned _ fields _ ruling] at short
    have none : (row.map overlap).sum = 0 := by omega
    rw [List.sum_eq_zero_iff_forall_eq_nat, List.forall_mem_map] at none
    exact overlap_eq_zero_iff.mp (none text inRow)
  · intro apart
    have even : ∀ other ∈ plainLines view,
        width other = width (rule view.size (columnWidth view)) := by
      intro other member
      rcases mem_plainLines_iff.mp member with rfl | ⟨row, inTexts, rfl⟩
      · rfl
      · have none : (row.map overlap).sum = 0 := by
          rw [List.sum_eq_zero_iff_forall_eq_nat, List.forall_mem_map]
          exact fun text inRow => overlap_eq_zero_iff.mpr (apart row inTexts text inRow)
        rw [← width_line_of_mem_texts inTexts, none, Nat.add_zero]
    intro one member other member'
    rw [even one member, even other member']

end Plain

end Grid

end Cyk
