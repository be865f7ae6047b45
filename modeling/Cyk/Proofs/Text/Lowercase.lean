import Cyk.Text.Blank
import Cyk.Text.Lowercase

/-!
# Small texts

A character either keeps its form or turns into letters that are small for good.  So a text in small
form is its own small form, and no character of it is blank that was not blank before.
-/

namespace Cyk.Text

namespace Lowercase

/-- A character that is its own small form, whatever stands beside it. -/
def IsSmall (c : Char) : Prop :=
  small c = c ∧ c ≠ 'Σ' ∧ c ≠ 'İ'

instance : DecidablePred IsSmall := fun c =>
  inferInstanceAs (Decidable (small c = c ∧ c ≠ 'Σ' ∧ c ≠ 'İ'))

/-- A character that a capital may turn into: small, visible, and behind the signs and digits. -/
def IsSmallLetter (c : Char) : Prop :=
  IsSmall c ∧ isBlank c = false ∧ 'a' ≤ c

instance : DecidablePred IsSmallLetter := fun c =>
  inferInstanceAs (Decidable (IsSmall c ∧ isBlank c = false ∧ 'a' ≤ c))

/-! ## The table of capitals -/

namespace Run

/-- A code point that a run maps. -/
def Maps (run : Run) (point : Nat) : Prop :=
  run.first ≤ point ∧ point ≤ run.last ∧ (point - run.first) % run.step = 0

/-- A code point that a run maps another one to. -/
def Reaches (run : Run) (point : Nat) : Prop :=
  ∃ source, run.Maps source ∧ point = run.target + (source - run.first)

/-- A bound on the code points that a run reaches. -/
def lastReached (run : Run) : Nat :=
  run.target + (run.last - run.first)

/-- Whether a run begins behind what this one reaches.  Core's `Nat.blt` is quick to evaluate, which
matters for a question asked of all pairs of runs. -/
def endsBefore (run other : Run) : Bool :=
  run.lastReached.blt other.first

/-- Whether a run ends before what this one reaches, or maps only the code points between. -/
def stepsOver (run other : Run) : Bool :=
  other.last.blt run.target ||
    (other.step == 2 && (run.step == 2 || run.first == run.last) &&
      (run.target + other.first) % 2 == 1)

/-- Whether no run of an ascending table maps what this one reaches. -/
def clears (run : Run) : List Run → Bool
  | [] => true
  | other :: rest => run.endsBefore other || (run.stepsOver other && run.clears rest)

theorem Reaches.bounds {run : Run} {point : Nat} (reached : run.Reaches point) :
    run.target ≤ point ∧ point ≤ run.lastReached := by
  rcases reached with ⟨source, ⟨_, _, _⟩, rfl⟩
  unfold lastReached
  omega

theorem Reaches.not_maps {run other : Run} {point : Nat} (reached : run.Reaches point)
    (clear : run.stepsOver other = true) : ¬ other.Maps point := by
  have bounds := reached.bounds
  simp only [stepsOver, Bool.or_eq_true, Bool.and_eq_true, Nat.blt_eq, beq_iff_eq] at clear
  rintro ⟨_, _, aligned⟩
  rcases clear with before | ⟨⟨two, alike⟩, odd⟩
  · omega
  · rcases reached with ⟨source, ⟨_, _, sourceAligned⟩, rfl⟩
    rw [two] at aligned
    rcases alike with two' | single
    · rw [two'] at sourceAligned
      omega
    · omega

end Run

/-- The first run that maps a code point decides; without one it stays itself. -/
theorem smallPoint_eq_or_reaches (table : List Run) (point : Nat) :
    smallPoint table point = point ∨ ∃ run ∈ table, run.Reaches (smallPoint table point) := by
  induction table with
  | nil => exact Or.inl rfl
  | cons run rest ih =>
    rw [smallPoint]
    split
    · exact Or.inl rfl
    · split
      · rename_i notBefore inside
        split
        · rename_i aligned
          exact Or.inr ⟨run, by simp, point, ⟨Nat.not_lt.mp notBefore, inside, aligned⟩, rfl⟩
        · exact Or.inl rfl
      · rcases ih with same | ⟨other, member, reached⟩
        · exact Or.inl same
        · exact Or.inr ⟨other, List.mem_cons_of_mem _ member, reached⟩

theorem smallPoint_of_clears {run : Run} {table : List Run} {point : Nat}
    (reached : run.Reaches point) (clear : run.clears table = true) :
    smallPoint table point = point := by
  induction table with
  | nil => rfl
  | cons other rest ih =>
    have bounds := reached.bounds
    rw [smallPoint]
    split
    · rfl
    · rename_i notBefore
      simp only [Run.clears, Bool.or_eq_true, Bool.and_eq_true, Run.endsBefore, Nat.blt_eq] at clear
      rcases clear with before | ⟨stepped, clear⟩
      · omega
      · split
        · rename_i inside
          split
          · rename_i aligned
            exact absurd ⟨Nat.not_lt.mp notBefore, inside, aligned⟩ (reached.not_maps stepped)
          · rfl
        · exact ih clear

theorem runs_clear : (runs.all fun run => run.clears runs) = true := by
  decide +kernel

/-- The two capitals with small forms of their own, and the blanks. -/
def unreachedPoints : CodePoints :=
  (0x130, 0x130) :: (0x3A3, 0x3A3) :: blankPoints

/-- What the runs reach are characters behind the signs and digits, and none of the above. -/
theorem bounds_of_mem_runs : ∀ run ∈ runs,
    0x61 ≤ run.target ∧
      (run.lastReached < 0xD800 ∨ 0xDFFF < run.target ∧ run.lastReached < 0x110000) ∧
      ∀ interval ∈ unreachedPoints, run.lastReached < interval.1 ∨ interval.2 < run.target := by
  decide +kernel

/-! ## Single characters -/

theorem isSmallLetter_of_reaches {run : Run} {point : Nat} (member : run ∈ runs)
    (reached : run.Reaches point) : IsSmallLetter (Char.ofNat point) := by
  have bounds := reached.bounds
  rcases bounds_of_mem_runs run member with ⟨behind, valid, unreached⟩
  have isChar : point.isValidChar := by
    unfold Nat.isValidChar
    omega
  have toNat : (Char.ofNat point).toNat = point := by
    rw [Char.ofNat, dif_pos isChar]
    rfl
  have clear : run.clears runs = true := List.all_eq_true.mp runs_clear run member
  have differs : ∀ interval ∈ unreachedPoints, ¬ (interval.1 ≤ point ∧ point ≤ interval.2) := by
    intro interval inside
    have := unreached interval inside
    omega
  refine ⟨⟨?_, ?_, ?_⟩, ?_, ?_⟩
  · rw [small, toNat, smallPoint_of_clears reached clear]
  · intro sigma
    refine differs (0x3A3, 0x3A3) (by simp [unreachedPoints]) ?_
    rw [← toNat, sigma]
    decide
  · intro dotted
    refine differs (0x130, 0x130) (by simp [unreachedPoints]) ?_
    rw [← toNat, dotted]
    decide
  · apply Bool.eq_false_iff.mpr
    intro blank
    rcases (isBlank_iff _).mp blank with ⟨interval, listed, inside⟩
    rw [toNat] at inside
    exact differs interval (by simp [unreachedPoints, listed]) inside
  · apply Char.le_def.mpr
    change 0x61 ≤ (Char.ofNat point).toNat
    omega

theorem small_eq_or_isSmallLetter (c : Char) : small c = c ∨ IsSmallLetter (small c) := by
  rcases smallPoint_eq_or_reaches runs c.toNat with same | ⟨run, member, reached⟩
  · left
    rw [small, same, Char.ofNat_toNat]
  · exact Or.inr (isSmallLetter_of_reaches member reached)

/-- Each character of a small form is the one it was made from, or a small letter. -/
theorem mem_smallForm {before after : List Char} {c d : Char}
    (member : d ∈ smallForm before c after) : (d = c ∧ IsSmall c) ∨ IsSmallLetter d := by
  have sigmas : IsSmallLetter 'ς' ∧ IsSmallLetter 'σ' := by decide +kernel
  have dotted : IsSmallLetter 'i' ∧ IsSmallLetter '\u0307' := by decide +kernel
  unfold smallForm at member
  split at member
  · obtain rfl := List.mem_singleton.mp member
    right
    split
    · exact sigmas.1
    · exact sigmas.2
  · split at member
    · rcases List.mem_cons.mp member with rfl | member
      · exact Or.inr dotted.1
      · obtain rfl := List.mem_singleton.mp member
        exact Or.inr dotted.2
    · rename_i notSigma notDotted
      obtain rfl := List.mem_singleton.mp member
      rcases small_eq_or_isSmallLetter c with same | letter
      · exact Or.inl ⟨same, same, notSigma, notDotted⟩
      · exact Or.inr letter

theorem smallForm_of_isSmall {before after : List Char} {c : Char} (isSmall : IsSmall c) :
    smallForm before c after = [c] := by
  rcases isSmall with ⟨same, notSigma, notDotted⟩
  rw [smallForm, if_neg notSigma, if_neg notDotted, same]

theorem smallForm_ne_nil (before : List Char) (c : Char) (after : List Char) :
    smallForm before c after ≠ [] := by
  unfold smallForm
  split
  · simp
  · split
    · simp
    · simp

/-! ## Texts -/

theorem smallText_eq_nil_iff {before text : List Char} :
    smallText before text = [] ↔ text = [] := by
  cases text with
  | nil => simp [smallText]
  | cons c rest => simp [smallText, smallForm_ne_nil]

/-- Each character of a small text stood in the text already, or is a small letter. -/
theorem mem_smallText {before text : List Char} {d : Char} (member : d ∈ smallText before text) :
    (d ∈ text ∧ IsSmall d) ∨ IsSmallLetter d := by
  induction text generalizing before with
  | nil => contradiction
  | cons c rest ih =>
    rcases List.mem_append.mp member with here | later
    · rcases mem_smallForm here with ⟨rfl, isSmall⟩ | letter
      · exact Or.inl ⟨List.mem_cons_self, isSmall⟩
      · exact Or.inr letter
    · rcases ih later with ⟨inRest, isSmall⟩ | letter
      · exact Or.inl ⟨List.mem_cons_of_mem _ inRest, isSmall⟩
      · exact Or.inr letter

theorem isSmall_of_mem_smallText {before text : List Char} {d : Char}
    (member : d ∈ smallText before text) : IsSmall d := by
  rcases mem_smallText member with ⟨_, isSmall⟩ | letter
  · exact isSmall
  · exact letter.1

theorem smallText_of_isSmall {before text : List Char} (all : ∀ c ∈ text, IsSmall c) :
    smallText before text = text := by
  induction text generalizing before with
  | nil => rfl
  | cons c rest ih =>
    rcases List.forall_mem_cons.mp all with ⟨here, others⟩
    rw [smallText, smallForm_of_isSmall here, ih others, List.singleton_append]

end Lowercase

/-- The small form of a text is its own small form. -/
@[simp]
theorem lowercase_lowercase (text : String) : lowercase (lowercase text) = lowercase text := by
  apply String.toList_inj.mp
  rw [toList_lowercase, toList_lowercase]
  exact Lowercase.smallText_of_isSmall fun _ => Lowercase.isSmall_of_mem_smallText

end Cyk.Text
