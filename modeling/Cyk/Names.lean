/-!
# Sets of names

A finite set of strings as the list of its members in the order of their code points.  The list is
determined by the members, so equal sets are equal values.
-/

namespace Cyk

/-- A finite set of strings, kept in ascending order without repetition. -/
structure Names where
  toList : List String
  ascending : toList.Pairwise (· < ·)
deriving DecidableEq

namespace Names

/-- Puts a name where it belongs in an ascending list, unless it is there. -/
def place (name : String) : List String → List String
  | [] => [name]
  | first :: rest =>
    if name < first then name :: first :: rest
    else if name = first then first :: rest
    else first :: place name rest

theorem mem_place {name other : String} {list : List String} :
    other ∈ place name list ↔ other = name ∨ other ∈ list := by
  induction list with
  | nil => simp [place]
  | cons first rest ih =>
    simp only [place]
    split
    · simp
    · split
      · simp_all
      · simp [ih, or_left_comm]

theorem place_ascending {name : String} {list : List String} (ascending : list.Pairwise (· < ·)) :
    (place name list).Pairwise (· < ·) := by
  induction list with
  | nil => simp [place]
  | cons first rest ih =>
    obtain ⟨below, tail⟩ := List.pairwise_cons.mp ascending
    simp only [place]
    split
    · rename_i before
      refine List.pairwise_cons.mpr ⟨fun other member => ?_, ascending⟩
      rcases List.mem_cons.mp member with rfl | member
      · exact before
      · exact String.lt_trans before (below other member)
    · split
      · exact ascending
      · rename_i notBefore different
        refine List.pairwise_cons.mpr ⟨fun other member => ?_, ih tail⟩
        rcases mem_place.mp member with rfl | member
        · refine Decidable.byContradiction fun notAfter => different ?_
          exact String.le_antisymm (String.not_lt.mp notAfter) (String.not_lt.mp notBefore)
        · exact below other member

/-- The set without members. -/
def empty : Names := ⟨[], List.Pairwise.nil⟩

instance : EmptyCollection Names := ⟨empty⟩

instance : Inhabited Names := ⟨∅⟩

instance : Membership String Names := ⟨fun names name => name ∈ names.toList⟩

instance (name : String) (names : Names) : Decidable (name ∈ names) :=
  inferInstanceAs (Decidable (name ∈ names.toList))

/-- The set with one more name. -/
def insert (names : Names) (name : String) : Names :=
  ⟨place name names.toList, place_ascending names.ascending⟩

/-- The set with all the names of a list added. -/
def insertAll (names : Names) (added : List String) : Names :=
  added.foldl insert names

/-- The set of the names in a list. -/
def ofList (list : List String) : Names :=
  insertAll ∅ list

/-- The names in either set. -/
def union (names others : Names) : Names :=
  names.insertAll others.toList

/-- The set without one name. -/
def erase (names : Names) (name : String) : Names :=
  ⟨names.toList.filter (· ≠ name), names.ascending.filter _⟩

/-- The number of names. -/
def size (names : Names) : Nat := names.toList.length

/-- Whether there are no names. -/
def isEmpty (names : Names) : Bool := names.toList.isEmpty

theorem mem_def {name : String} {names : Names} : name ∈ names ↔ name ∈ names.toList := Iff.rfl

@[simp]
theorem not_mem_empty (name : String) : ¬ name ∈ (∅ : Names) := by
  simp [mem_def, EmptyCollection.emptyCollection, empty]

@[simp]
theorem mem_insert {names : Names} {name other : String} :
    other ∈ names.insert name ↔ other = name ∨ other ∈ names :=
  mem_place

@[simp]
theorem mem_insertAll {names : Names} {added : List String} {name : String} :
    name ∈ names.insertAll added ↔ name ∈ added ∨ name ∈ names := by
  induction added generalizing names with
  | nil => simp [insertAll]
  | cons first rest ih =>
    have step : names.insertAll (first :: rest) = (names.insert first).insertAll rest := rfl
    simp [step, ih, or_assoc, or_left_comm]

@[simp]
theorem mem_ofList {list : List String} {name : String} : name ∈ ofList list ↔ name ∈ list := by
  simp [ofList]

@[simp]
theorem mem_union {names others : Names} {name : String} :
    name ∈ names.union others ↔ name ∈ names ∨ name ∈ others := by
  rw [union, mem_insertAll, ← mem_def, or_comm]

@[simp]
theorem mem_erase {names : Names} {name other : String} :
    other ∈ names.erase name ↔ other ∈ names ∧ other ≠ name := by
  simp [erase, mem_def]

theorem nodup (names : Names) : names.toList.Nodup :=
  names.ascending.imp fun {a b} (before : a < b) same => by
    subst same
    exact String.lt_irrefl a before

/-- Sets with the same members are the same value. -/
@[ext]
theorem ext {names others : Names} (same : ∀ name, name ∈ names ↔ name ∈ others) :
    names = others := by
  obtain ⟨list, ascending⟩ := names
  obtain ⟨list', ascending'⟩ := others
  have permuted : list.Perm list' := by
    refine (List.perm_ext_iff_of_nodup (nodup ⟨list, ascending⟩) (nodup ⟨list', ascending'⟩)).mpr ?_
    exact same
  have equal : list = list' :=
    permuted.eq_of_pairwise
      (fun _ _ _ _ before after => absurd after (String.lt_asymm before)) ascending ascending'
  subst equal
  rfl

theorem isEmpty_iff {names : Names} : names.isEmpty = true ↔ names = ∅ := by
  constructor
  · intro none
    ext name
    rw [mem_def, List.isEmpty_iff.mp none]
    simp
  · rintro rfl
    rfl

end Names

end Cyk
