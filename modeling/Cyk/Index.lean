import Cyk.Names

/-!
# Indexes

A finite relation between strings, looked up by its first side: every key has a nonempty set of
values, and a string that is no key has none.  As with sets of names, relations with the same pairs
are the same value.
-/

namespace Cyk

/-- An ascending list of keys, each with its nonempty set of values. -/
structure Index where
  entries : List (String × Names)
  ascending : entries.Pairwise (·.1 < ·.1)
  nonempty : ∀ entry ∈ entries, entry.2 ≠ ∅
deriving DecidableEq

namespace Index

/-- Adds a value to a key in an ascending list of entries, and the key if it is missing. -/
def place (key value : String) : List (String × Names) → List (String × Names)
  | [] => [(key, Names.empty.insert value)]
  | (first, values) :: rest =>
    if key < first then (key, Names.empty.insert value) :: (first, values) :: rest
    else if key = first then (first, values.insert value) :: rest
    else (first, values) :: place key value rest

theorem key_of_mem_place {key value : String} {entries : List (String × Names)}
    {entry : String × Names} (member : entry ∈ place key value entries) :
    entry.1 = key ∨ ∃ old ∈ entries, old.1 = entry.1 := by
  induction entries with
  | nil => simp_all [place]
  | cons first rest ih =>
    simp only [place] at member
    split at member
    · rcases List.mem_cons.mp member with rfl | member
      · exact Or.inl rfl
      · exact Or.inr ⟨entry, member, rfl⟩
    · split at member
      · rcases List.mem_cons.mp member with rfl | member
        · exact Or.inr ⟨first, by simp, rfl⟩
        · exact Or.inr ⟨entry, by simp [member], rfl⟩
      · rcases List.mem_cons.mp member with rfl | member
        · exact Or.inr ⟨first, by simp, rfl⟩
        · rcases ih member with same | ⟨old, inRest, same⟩
          · exact Or.inl same
          · exact Or.inr ⟨old, by simp [inRest], same⟩

theorem place_ascending {key value : String} {entries : List (String × Names)}
    (ascending : entries.Pairwise (·.1 < ·.1)) :
    (place key value entries).Pairwise (·.1 < ·.1) := by
  induction entries with
  | nil => simp [place]
  | cons first rest ih =>
    obtain ⟨below, tail⟩ := List.pairwise_cons.mp ascending
    simp only [place]
    split
    · rename_i before
      refine List.pairwise_cons.mpr ⟨fun other member => ?_, ascending⟩
      rcases List.mem_cons.mp member with rfl | member
      · exact before
      · exact String.lt_trans before (below other member)
    · split
      · exact List.pairwise_cons.mpr ⟨below, tail⟩
      · rename_i notBefore different
        refine List.pairwise_cons.mpr ⟨fun other member => ?_, ih tail⟩
        rcases key_of_mem_place member with same | ⟨old, inRest, same⟩
        · refine Decidable.byContradiction fun notAfter => different ?_
          rw [same] at notAfter
          exact String.le_antisymm (String.not_lt.mp notAfter) (String.not_lt.mp notBefore)
        · exact same ▸ below old inRest

theorem insert_ne_empty (names : Names) (name : String) : names.insert name ≠ ∅ := fun equal =>
  Names.not_mem_empty name (equal ▸ Names.mem_insert.mpr (Or.inl rfl))

theorem place_nonempty {key value : String} {entries : List (String × Names)}
    (nonempty : ∀ entry ∈ entries, entry.2 ≠ ∅) :
    ∀ entry ∈ place key value entries, entry.2 ≠ ∅ := by
  induction entries with
  | nil =>
    intro entry member
    obtain rfl := List.mem_singleton.mp member
    exact insert_ne_empty _ _
  | cons first rest ih =>
    intro entry member
    simp only [place] at member
    split at member
    · rcases List.mem_cons.mp member with rfl | member
      · exact insert_ne_empty _ _
      · exact nonempty entry member
    · split at member
      · rcases List.mem_cons.mp member with rfl | member
        · exact insert_ne_empty _ _
        · exact nonempty entry (List.mem_cons_of_mem _ member)
      · rcases List.mem_cons.mp member with rfl | member
        · exact nonempty _ (by simp)
        · exact ih (fun entry inRest => nonempty entry (List.mem_cons_of_mem _ inRest)) entry member

/-- The relation without pairs. -/
def empty : Index := ⟨[], List.Pairwise.nil, by simp⟩

instance : EmptyCollection Index := ⟨empty⟩

instance : Inhabited Index := ⟨∅⟩

/-- The relation with one more pair. -/
def add (index : Index) (key value : String) : Index :=
  ⟨place key value index.entries, place_ascending index.ascending, place_nonempty index.nonempty⟩

/-- The relation with all the pairs of a list. -/
def ofPairs (pairs : List (String × String)) : Index :=
  pairs.foldl (fun index pair => index.add pair.1 pair.2) ∅

/-- The values of a key. -/
def find (key : String) : List (String × Names) → Names
  | [] => ∅
  | (first, values) :: rest => if key = first then values else find key rest

/-- The values of a key. -/
def get (index : Index) (key : String) : Names := find key index.entries

/-- The strings that have values. -/
def keys (index : Index) : List String := index.entries.map (·.1)

/-- All pairs of the relation, by key and then by value. -/
def pairs (index : Index) : List (String × String) :=
  index.entries.flatMap fun (key, values) => values.toList.map (key, ·)

/-- The relation read from its other side. -/
def converse (index : Index) : Index :=
  ofPairs (index.pairs.map fun (key, value) => (value, key))

/-- The number of keys. -/
def size (index : Index) : Nat := index.entries.length

theorem find_eq_empty {key : String} {entries : List (String × Names)}
    (absent : ∀ entry ∈ entries, entry.1 ≠ key) : find key entries = ∅ := by
  induction entries with
  | nil => rfl
  | cons first rest ih =>
    have different : key ≠ first.1 := fun same => absent first (by simp) same.symm
    simp only [find, different, if_false]
    exact ih fun entry member => absent entry (List.mem_cons_of_mem _ member)

theorem find_place {key value other : String} {entries : List (String × Names)}
    (ascending : entries.Pairwise (·.1 < ·.1)) :
    find other (place key value entries) =
      if other = key then (find other entries).insert value else find other entries := by
  induction entries with
  | nil =>
    simp only [place, find]
    split <;> rfl
  | cons first rest ih =>
    obtain ⟨below, tail⟩ := List.pairwise_cons.mp ascending
    obtain ⟨name, values⟩ := first
    simp only [place]
    split
    · rename_i before
      by_cases same : other = key
      · subst same
        have absent : find other ((name, values) :: rest) = ∅ := by
          refine find_eq_empty fun entry member equal => ?_
          rcases List.mem_cons.mp member with rfl | member
          · exact String.lt_irrefl _ (equal ▸ before)
          · exact String.lt_irrefl _ (equal ▸ String.lt_trans before (below entry member))
        rw [if_pos rfl, absent]
        simp [find]
        rfl
      · simp [find, same]
    · split
      · rename_i equal
        subst equal
        by_cases same : other = key <;> simp [find, same]
      · rename_i different
        by_cases here : other = name
        · subst here
          have : other ≠ key := fun same => different same.symm
          simp [find, this]
        · simp [find, here, ih tail]

@[simp]
theorem get_empty (key : String) : (∅ : Index).get key = ∅ := rfl

theorem get_add (index : Index) (key value other : String) :
    (index.add key value).get other =
      if other = key then (index.get other).insert value else index.get other :=
  find_place index.ascending

@[simp]
theorem mem_get_add {index : Index} {key value other name : String} :
    name ∈ (index.add key value).get other ↔
      (other = key ∧ name = value) ∨ name ∈ index.get other := by
  rw [get_add]
  split <;> simp_all

theorem mem_get_foldl {pairs : List (String × String)} {index : Index} {key name : String} :
    name ∈ (pairs.foldl (fun index pair => index.add pair.1 pair.2) index).get key ↔
      (key, name) ∈ pairs ∨ name ∈ index.get key := by
  induction pairs generalizing index with
  | nil => simp
  | cons pair rest ih =>
    simp [ih, Prod.ext_iff, or_assoc, or_left_comm]

/-- Looking up a key finds exactly the values it was paired with. -/
@[simp]
theorem mem_get_ofPairs {pairs : List (String × String)} {key name : String} :
    name ∈ (ofPairs pairs).get key ↔ (key, name) ∈ pairs := by
  simp [ofPairs, mem_get_foldl]

theorem get_of_mem {index : Index} {entry : String × Names} (member : entry ∈ index.entries) :
    index.get entry.1 = entry.2 := by
  obtain ⟨entries, ascending, nonempty⟩ := index
  simp only [get] at member ⊢
  clear nonempty
  induction entries with
  | nil => simp at member
  | cons first rest ih =>
    obtain ⟨below, tail⟩ := List.pairwise_cons.mp ascending
    rcases List.mem_cons.mp member with rfl | member
    · simp [find]
    · have different : entry.1 ≠ first.1 := fun same =>
        String.lt_irrefl _ (same ▸ below entry member)
      simp [find, different, ih tail member]

theorem mem_find {key : String} {entries : List (String × Names)} {name : String}
    (member : name ∈ find key entries) : (key, find key entries) ∈ entries := by
  induction entries with
  | nil => exact absurd member (Names.not_mem_empty _)
  | cons first rest ih =>
    simp only [find] at member ⊢
    split at member
    · rename_i same
      subst same
      simp
    · rename_i different
      simp [different, ih member]

theorem mem_pairs {index : Index} {key name : String} :
    (key, name) ∈ index.pairs ↔ name ∈ index.get key := by
  simp only [pairs, List.mem_flatMap, List.mem_map]
  constructor
  · rintro ⟨entry, member, value, inValues, equal⟩
    obtain ⟨rfl, rfl⟩ := Prod.mk.inj equal
    rw [get_of_mem member]
    exact inValues
  · intro found
    exact ⟨(key, index.get key), mem_find found, name, found, rfl⟩

/-- The keys are the strings with a value. -/
theorem mem_keys {index : Index} {key : String} :
    key ∈ index.keys ↔ ∃ name, name ∈ index.get key := by
  simp only [keys, List.mem_map]
  constructor
  · rintro ⟨entry, member, rfl⟩
    rw [get_of_mem member]
    have filled := index.nonempty entry member
    cases found : entry.2.toList with
    | nil => exact absurd (Names.isEmpty_iff.mp (by simp [Names.isEmpty, found])) filled
    | cons name rest => exact ⟨name, Names.mem_def.mpr (by simp [found])⟩
  · rintro ⟨name, found⟩
    exact ⟨_, mem_find found, rfl⟩

@[simp]
theorem mem_get_converse {index : Index} {key name : String} :
    name ∈ index.converse.get key ↔ key ∈ index.get name := by
  simp only [converse, mem_get_ofPairs, List.mem_map, Prod.exists, mem_pairs, Prod.mk.injEq]
  constructor
  · rintro ⟨_, _, member, rfl, rfl⟩
    exact member
  · intro member
    exact ⟨_, _, member, rfl, rfl⟩

theorem keys_ascending (index : Index) : index.keys.Pairwise (· < ·) :=
  List.pairwise_map.mpr index.ascending

theorem nodup_keys (index : Index) : index.keys.Nodup :=
  index.keys_ascending.imp fun {a b} (before : a < b) equal => by
    subst equal
    exact String.lt_irrefl a before

theorem entries_eq (index : Index) :
    index.entries = index.keys.map fun key => (key, index.get key) := by
  simp only [keys, List.map_map]
  refine (List.map_id _).symm.trans (List.map_congr_left fun entry member => ?_)
  simp [get_of_mem member]

/-- Relations with the same pairs are the same value. -/
@[ext]
theorem ext {index other : Index} (same : ∀ key, index.get key = other.get key) :
    index = other := by
  have keysEqual : index.keys = other.keys := by
    refine List.Perm.eq_of_pairwise
      (fun _ _ _ _ before after => absurd after (String.lt_asymm before))
      index.keys_ascending other.keys_ascending ?_
    exact (List.perm_ext_iff_of_nodup index.nodup_keys other.nodup_keys).mpr fun key => by
      simp [mem_keys, same]
  have entriesEqual : index.entries = other.entries := by
    rw [entries_eq, entries_eq other, keysEqual]
    exact List.map_congr_left fun key _ => by rw [same]
  cases index
  cases other
  simpa using entriesEqual

end Index

end Cyk
