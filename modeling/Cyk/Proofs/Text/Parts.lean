/-!
# Parts of a text

Texts with a separator between neighbours can be taken apart again if none of them has the first
character of the separator.
-/

namespace Cyk.Text

open String.Slice.Pattern String.Slice.Pattern.Model

/-- The parts of a text in front of, between and behind the occurrences of a separator. -/
def partsAt (separator text : String) : List String :=
  (text.split separator).toList.map String.Slice.copy

variable {c : Char} {separator : String} (first : separator.toList.head? = some c)

include first

/-! ## Where a separator stands -/

section Places

variable {text : String.Slice} {place stop : text.Pos} {front part back : String}

/-- No separator stands in front of a part without its first character. -/
theorem not_matchesAt (here : place.Splits front (part ++ back)) (nonempty : part ≠ "")
    (apart : c ∉ part.toList) : ¬ MatchesAt separator place := by
  intro found
  rcases ForwardStringSearcher.matchesAt_iff_splits.mp found with ⟨front', back', here'⟩
  have rest := congrArg String.toList (here.eq_right here')
  rw [String.toList_append, String.toList_append] at rest
  rcases List.head?_eq_some_iff.mp first with ⟨others, letters⟩
  cases inPart : part.toList with
  | nil => exact nonempty (String.toList_eq_nil_iff.mp inPart)
  | cons d letters' =>
    rw [inPart, letters, List.cons_append, List.cons_append] at rest
    rw [inPart, (List.cons.inj rest).1] at apart
    exact apart List.mem_cons_self

/-- No separator begins inside such a part. -/
theorem not_matchesAt_of_lt (here : place.Splits front (part ++ back))
    (there : stop.Splits (front ++ part) back) (apart : c ∉ part.toList) :
    ∀ between, place ≤ between → between < stop → ¬ MatchesAt separator between := by
  intro between after before
  have split := between.splits
  rcases (here.le_iff_exists_eq_append split).mp after with ⟨done, inFront, -⟩
  rcases (split.lt_iff_exists_eq_append there).mp before with ⟨left, nonempty, whole, behind⟩
  have inPart : part = done ++ left := by
    rw [inFront, String.append_assoc] at whole
    exact (String.append_right_inj front).mp whole
  rw [behind] at split
  apply not_matchesAt first split nonempty
  intro inLeft
  apply apart
  rw [inPart, String.toList_append]
  exact List.mem_append_right _ inLeft

omit first in
theorem copy_subslice (here : place.Splits front (part ++ back))
    (there : stop.Splits (front ++ part) back) (forward : place ≤ stop) :
    (text.subslice place stop forward).toSlice.copy = part := by
  rcases String.Slice.copy_slice_eq_iff_splits.mpr ⟨front, back, here, there⟩ with ⟨_, copied⟩
  rwa [String.Slice.toSlice_subslice]

end Places

/-! ## Taking apart what was joined -/

/-- From the beginning of a part on, the search finds this part and then the others. -/
theorem map_copy_split [StrictPatternModel separator] {text : String.Slice} {place : text.Pos}
    {front : String} {parts : List String} (nonempty : parts ≠ [])
    (apart : ∀ part ∈ parts, c ∉ part.toList)
    (here : place.Splits front (separator.intercalate parts)) :
    (Model.split separator place place (Std.le_refl _)).map (·.toSlice.copy) = parts := by
  induction parts generalizing front place with
  | nil => contradiction
  | cons part others ih =>
    rcases List.forall_mem_cons.mp apart with ⟨apart', apart⟩
    cases others with
    | nil =>
      rw [String.intercalate_singleton, ← String.append_empty (s := part)] at here
      have last : text.endPos.Splits (front ++ part) "" := by
        rw [String.Slice.splits_endPos_iff, here.eq_append, String.append_empty]
        exact ⟨rfl, rfl⟩
      have forward : place ≤ text.endPos := String.Slice.Pos.le_endPos _
      rw [split_eq_of_not_matchesAt text.endPos forward
        (not_matchesAt_of_lt first here last apart'), split_endPos, List.map_singleton,
        copy_subslice here last]
    | cons next others =>
      rw [String.intercalate_cons_cons, String.append_assoc] at here
      have stop := here.splits_rotateRight
      have forward : place ≤ here.rotateRight :=
        (here.le_iff_exists_eq_append stop).mpr ⟨part, rfl, rfl⟩
      have behind := stop.splits_rotateRight
      have matched : IsLongestMatchAt separator here.rotateRight stop.rotateRight :=
        ForwardStringSearcher.isLongestMatchAt_iff_splits.mpr ⟨_, _, stop, behind⟩
      rw [split_eq_of_not_matchesAt here.rotateRight forward
        (not_matchesAt_of_lt first here stop apart'), split_eq_of_isLongestMatchAt matched,
        List.map_cons, copy_subslice here stop, ih (List.cons_ne_nil _ _) apart behind]

/-- Parts with a separator between neighbours are the parts at the separator. -/
theorem partsAt_intercalate {parts : List String} (nonempty : parts ≠ [])
    (apart : ∀ part ∈ parts, c ∉ part.toList) :
    partsAt separator (separator.intercalate parts) = parts := by
  have filled : separator ≠ "" := by
    rintro rfl
    contradiction
  have strict := ForwardStringSearcher.strictPatternModel filled
  have lawful := ForwardStringSearcher.lawfulToForwardSearcherModel filled
  have start := String.Slice.splits_startPos (separator.intercalate parts).toSlice
  rw [String.copy_toSlice] at start
  rw [partsAt, String.split_eq_split_toSlice, String.Slice.toList_split_eq_splitToSubslice,
    toList_splitToSubslice_eq_modelSplit, List.map_map]
  exact map_copy_split first nonempty apart start

omit first in
theorem join_map_append (lines : List String) :
    String.join (lines.map (· ++ separator)) = separator.intercalate (lines ++ [""]) := by
  induction lines with
  | nil => simp
  | cons line others ih =>
    have more : others ++ [""] ≠ [] := by simp
    rw [List.map_cons, String.join_cons, ih, List.cons_append,
      String.intercalate_cons_of_ne_nil more]

/-- Lines that each end with a separator are its parts, and nothing comes behind the last. -/
theorem partsAt_join {lines : List String} (apart : ∀ line ∈ lines, c ∉ line.toList) :
    partsAt separator (String.join (lines.map (· ++ separator))) = lines ++ [""] := by
  rw [join_map_append]
  apply partsAt_intercalate first (by simp)
  intro part member
  rcases List.mem_append.mp member with inLines | last
  · exact apart part inLines
  · rw [List.mem_singleton.mp last]
    exact List.not_mem_nil

end Cyk.Text
