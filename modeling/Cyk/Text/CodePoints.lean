/-!
# Sets of code points

A Unicode property is given as a list of intervals of code points.  The lists in this library are
ascending, so that a search may stop at the first interval that begins beyond the code point.
-/

namespace Cyk.Text

/-- Disjoint intervals `(first, last)` of code points, both ends included, in ascending order. -/
abbrev CodePoints := List (Nat × Nat)

namespace CodePoints

/-- Whether a code point lies in one of the intervals. -/
def covers : CodePoints → Nat → Bool
  | [], _ => false
  | (first, last) :: rest, point =>
    if point < first then false
    else if point ≤ last then true
    else covers rest point

/-- Whether a character has the property. -/
def has (points : CodePoints) (c : Char) : Bool :=
  points.covers c.toNat

/-- Every interval is nonempty and ends before the next begins, leaving a gap. -/
def Ascending : CodePoints → Prop
  | [] => True
  | [(first, last)] => first ≤ last
  | (first, last) :: (next, bound) :: rest =>
    first ≤ last ∧ last + 1 < next ∧ Ascending ((next, bound) :: rest)

instance decidableAscending : (points : CodePoints) → Decidable (Ascending points)
  | [] => inferInstanceAs (Decidable True)
  | [(first, last)] => inferInstanceAs (Decidable (first ≤ last))
  | (first, last) :: (next, bound) :: rest =>
    have := decidableAscending ((next, bound) :: rest)
    inferInstanceAs (Decidable (first ≤ last ∧ last + 1 < next ∧ Ascending ((next, bound) :: rest)))

/-- In an ascending list, the search finds exactly the code points of the intervals. -/
theorem covers_iff {points : CodePoints} (ascending : points.Ascending) (point : Nat) :
    points.covers point = true ↔ ∃ interval ∈ points, interval.1 ≤ point ∧ point ≤ interval.2 := by
  induction points with
  | nil => simp [covers]
  | cons interval rest ih =>
    obtain ⟨first, last⟩ := interval
    have tail : Ascending rest := by
      cases rest with
      | nil => trivial
      | cons next rest => exact ascending.2.2
    have beyond : ∀ other ∈ rest, first < other.1 := by
      clear ih
      induction rest generalizing first last with
      | nil => simp
      | cons next rest step =>
        obtain ⟨start, bound⟩ := next
        obtain ⟨nonempty, gap, more⟩ := ascending
        intro other member
        rcases List.mem_cons.mp member with rfl | member
        · simp only; omega
        · have after : Ascending rest := by
            cases rest with
            | nil => trivial
            | cons next rest => exact more.2.2
          have := step start bound more after other member
          omega
    simp only [covers, List.mem_cons, exists_eq_or_imp]
    split
    · rename_i below
      constructor
      · simp
      · rintro (inside | ⟨other, member, inside⟩)
        · omega
        · have := beyond other member
          omega
    · split
      · simp; omega
      · rw [ih tail]
        constructor
        · exact Or.inr
        · rintro (inside | found)
          · omega
          · exact found

end CodePoints

end Cyk.Text
