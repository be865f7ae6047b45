/-!
# Outcomes of computations that may fail

When a computation that may fail succeeds, so did each of its steps; and when it fails, so did the
first of its steps that could.
-/

namespace Cyk.Outcome

universe u v

variable {ε : Type u} {α β : Type v}

theorem bind_eq_ok_iff {first : Except ε α} {next : α → Except ε β} {result : β} :
    (first >>= next) = .ok result ↔ ∃ value, first = .ok value ∧ next value = .ok result := by
  cases first with
  | error error => simp [bind, Except.bind]
  | ok value => simp [bind, Except.bind]

theorem bind_eq_error_iff {first : Except ε α} {next : α → Except ε β} {failure : ε} :
    (first >>= next) = .error failure ↔
      first = .error failure ∨ ∃ value, first = .ok value ∧ next value = .error failure := by
  cases first with
  | error error => simp [bind, Except.bind]
  | ok value => simp [bind, Except.bind]

theorem map_eq_ok_iff {step : α → β} {first : Except ε α} {result : β} :
    step <$> first = .ok result ↔ ∃ value, first = .ok value ∧ step value = result := by
  cases first with
  | error error => simp [Functor.map, Except.map]
  | ok value => simp [Functor.map, Except.map]

theorem map_eq_error_iff {step : α → β} {first : Except ε α} {failure : ε} :
    step <$> first = .error failure ↔ first = .error failure := by
  cases first with
  | error error => simp [Functor.map, Except.map]
  | ok value => simp [Functor.map, Except.map]

theorem toOption_eq_some_iff {first : Except ε α} {result : α} :
    first.toOption = some result ↔ first = .ok result := by
  cases first with
  | error error => simp [Except.toOption]
  | ok value => simp [Except.toOption]

theorem mapError_eq_ok_iff {ε' : Type u} {rename : ε → ε'} {first : Except ε α} {result : α} :
    first.mapError rename = .ok result ↔ first = .ok result := by
  cases first with
  | error error =>
    constructor
    · intro impossible
      cases impossible
    · intro impossible
      cases impossible
  | ok value =>
    constructor
    · rintro ⟨⟩
      rfl
    · rintro ⟨⟩
      rfl

/-- A list of steps succeeds just when every step does, with its result at the same place. -/
theorem mapM_eq_ok_iff {step : α → Except ε β} {items : List α} {results : List β} :
    items.mapM step = .ok results ↔ items.map step = results.map .ok := by
  induction items generalizing results with
  | nil =>
    rw [List.mapM_nil, List.map_nil, eq_comm (a := [])]
    simp [pure, Except.pure, eq_comm]
  | cons item rest ih =>
    rw [List.mapM_cons, bind_eq_ok_iff]
    simp only [bind_eq_ok_iff, ih]
    cases results with
    | nil => simp [pure, Except.pure]
    | cons result others =>
      rw [List.map_cons, List.map_cons, List.cons.injEq]
      constructor
      · rintro ⟨value, here, values, there, equal⟩
        rcases List.cons.inj (Except.ok.inj equal) with ⟨rfl, rfl⟩
        exact ⟨here, there⟩
      · rintro ⟨here, there⟩
        exact ⟨result, here, others, there, rfl⟩

theorem mem_of_mapM_eq_ok {step : α → Except ε β} {items : List α} {results : List β}
    (ran : items.mapM step = .ok results) {result : β} :
    result ∈ results ↔ ∃ item ∈ items, step item = .ok result := by
  rw [← List.mem_map, mapM_eq_ok_iff.mp ran, List.mem_map]
  simp

/-- A list of steps fails with the first of them that fails. -/
theorem mapM_eq_error_iff {step : α → Except ε β} {items : List α} {failure : ε} :
    items.mapM step = .error failure ↔
      ∃ before item after, items = before ++ item :: after ∧
        (∀ earlier ∈ before, ∃ result, step earlier = .ok result) ∧
          step item = .error failure := by
  induction items with
  | nil => simp [pure, Except.pure]
  | cons first rest ih =>
    rw [List.mapM_cons, bind_eq_error_iff]
    constructor
    · rintro (here | ⟨result, passed, later⟩)
      · exact ⟨[], first, rest, rfl, by simp, here⟩
      · rcases bind_eq_error_iff.mp later with later | ⟨_, -, impossible⟩
        · rcases ih.mp later with ⟨before, item, after, rfl, earlier, failed⟩
          refine ⟨first :: before, item, after, rfl, ?_, failed⟩
          exact List.forall_mem_cons.mpr ⟨⟨result, passed⟩, earlier⟩
        · contradiction
    · rintro ⟨before, item, after, split, earlier, failed⟩
      cases before with
      | nil =>
        rcases List.cons.inj split with ⟨rfl, rfl⟩
        exact Or.inl failed
      | cons _ before =>
        rcases List.cons.inj split with ⟨rfl, rfl⟩
        rcases List.forall_mem_cons.mp earlier with ⟨⟨result, passed⟩, others⟩
        refine Or.inr ⟨result, passed, bind_eq_error_iff.mpr (Or.inl ?_)⟩
        exact ih.mpr ⟨before, item, after, rfl, others, failed⟩

/-- What is read off the results of steps can be read off the items, if each step keeps it. -/
theorem filterMap_of_mapM_eq_ok {γ : Type} {step : α → Except ε β} {items : List α}
    {results : List β} (ran : items.mapM step = .ok results) {ofResult : β → Option γ}
    {ofItem : α → Option γ}
    (kept : ∀ item result, step item = .ok result → ofResult result = ofItem item) :
    results.filterMap ofResult = items.filterMap ofItem := by
  rw [mapM_eq_ok_iff] at ran
  induction items generalizing results with
  | nil => simp [List.map_eq_nil_iff.mp ran.symm]
  | cons item rest ih =>
    cases results with
    | nil => contradiction
    | cons result others =>
      rcases List.cons.inj ran with ⟨here, there⟩
      rw [List.filterMap_cons, List.filterMap_cons, kept item result here, ih there]

theorem exists_of_mapM_eq_ok {step : α → Except ε β} {items : List α} {results : List β}
    (ran : items.mapM step = .ok results) {item : α} (member : item ∈ items) :
    ∃ result, step item = .ok result := by
  have image : step item ∈ results.map .ok := by
    rw [← mapM_eq_ok_iff.mp ran]
    exact List.mem_map_of_mem member
  rcases List.mem_map.mp image with ⟨result, -, equal⟩
  exact ⟨result, equal.symm⟩

end Cyk.Outcome
