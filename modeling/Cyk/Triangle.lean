/-!
# Triangular tables

One slot for every span of a row of `size` positions.  A span is given by its first position,
counted from one, and its length.
-/

namespace Cyk

/-- A row of slots for each first position, one slot for each length that fits behind it. -/
structure Triangle (α : Type) (size : Nat) where
  rows : Array (Array α)
  size_rows : rows.size = size
  size_row : ∀ (i : Nat) (inside : i < rows.size), rows[i].size = size - i

namespace Triangle

variable {α : Type} {size : Nat}

/-- The table with the same value in every slot. -/
def replicate (size : Nat) (value : α) : Triangle α size where
  rows := Array.ofFn fun i : Fin size => Array.replicate (size - i) value
  size_rows := by simp
  size_row := by simp

/-- The slot of a span, if the span fits. -/
def get? (table : Triangle α size) : (start len : Nat) → Option α
  | i + 1, k + 1 => table.rows[i]?.bind (·[k]?)
  | _, _ => none

/-- The table with the slot of a span changed; nothing changes where the span does not fit. -/
def modify (table : Triangle α size) (change : α → α) : (start len : Nat) → Triangle α size
  | i + 1, k + 1 =>
    { rows := table.rows.modify i (·.modify k change)
      size_rows := by simp [table.size_rows]
      size_row := fun j inside => by
        have fits : j < table.rows.size := by simpa using inside
        have := table.size_row j fits
        rw [Array.getElem_modify]
        split <;> simp [this] }
  | _, _ => table

/-- Whether a span fits. -/
def Fits (size start len : Nat) : Prop :=
  1 ≤ start ∧ 1 ≤ len ∧ start + len ≤ size + 1

instance (size start len : Nat) : Decidable (Fits size start len) :=
  inferInstanceAs (Decidable (_ ∧ _ ∧ _))

theorem isSome_get? (table : Triangle α size) (start len : Nat) :
    (table.get? start len).isSome = true ↔ Fits size start len := by
  match start, len with
  | 0, _ => simp [get?, Fits]
  | _ + 1, 0 => simp [get?, Fits]
  | i + 1, k + 1 =>
    have rows := table.size_rows
    simp only [get?, Fits]
    by_cases inside : i < table.rows.size
    · have row := table.size_row i inside
      rw [Array.getElem?_eq_getElem inside]
      simp only [Option.bind_some, isSome_getElem?]
      omega
    · rw [Array.getElem?_eq_none (by omega)]
      simp only [Option.bind_none, Option.isSome_none, Bool.false_eq_true, false_iff]
      omega

theorem get?_replicate (size : Nat) (value : α) (start len : Nat) :
    (replicate size value).get? start len = if Fits size start len then some value else none := by
  match start, len with
  | 0, _ => simp [get?, Fits]
  | _ + 1, 0 => simp [get?, Fits]
  | i + 1, k + 1 =>
    simp only [get?, replicate, Array.getElem?_ofFn]
    by_cases fits : Fits size (i + 1) (k + 1)
    · have inside : i < size := by unfold Fits at fits; omega
      have within : k < size - i := by unfold Fits at fits; omega
      simp [fits, inside, within]
    · by_cases inside : i < size
      · have outside : ¬ k < size - i := by unfold Fits at fits; omega
        simp [fits, inside, outside]
      · simp [fits, inside]

/-- A change shows in its own slot and in no other. -/
theorem get?_modify (table : Triangle α size) (change : α → α) (start len start' len' : Nat) :
    (table.modify change start len).get? start' len' =
      if start' = start ∧ len' = len then (table.get? start len).map change
      else table.get? start' len' := by
  match start, len with
  | 0, len =>
    by_cases same : start' = 0 ∧ len' = len
    · obtain ⟨rfl, rfl⟩ := same
      simp [get?]
    · rw [if_neg same]
      rfl
  | i + 1, 0 =>
    by_cases same : start' = i + 1 ∧ len' = 0
    · obtain ⟨rfl, rfl⟩ := same
      simp [get?]
    · rw [if_neg same]
      rfl
  | i + 1, k + 1 =>
    match start', len' with
    | 0, _ => simp [get?]
    | _ + 1, 0 => simp [get?]
    | i' + 1, k' + 1 =>
      simp only [get?, modify, Array.getElem?_modify, Nat.add_right_cancel_iff]
      by_cases sameRow : i = i'
      · subst sameRow
        cases found : table.rows[i]? with
        | none => simp
        | some row =>
          by_cases sameSlot : k = k'
          · subst sameSlot
            simp [Array.getElem?_modify]
          · have : ¬ k' = k := fun same => sameSlot same.symm
            simp [Array.getElem?_modify, sameSlot, this]
      · have : ¬ i' = i := fun same => sameRow same.symm
        simp [sameRow, this]

end Triangle

end Cyk
