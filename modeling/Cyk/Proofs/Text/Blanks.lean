import Cyk.Proofs.Text.Lowercase
import Cyk.Proofs.Text.Sentences
import Mathlib.Data.List.TakeWhile

/-!
# Blanks and full stops around a text

A blank is its own small form, and the search for a letter with case ends at it: it has no case and
is not passed over.  So blanks in front of a sentence change neither its small form nor its normal
form.  A full stop is passed over in that search, but has no case either; so blanks and full stops
behind a sentence change nothing, however they are mixed.
-/

namespace Cyk.Text

/-! ## Blanks between letters -/

namespace Lowercase

/-- Blanks are apart from the cased and from the ignorable characters, and no run maps them. -/
theorem blankPoints_apart : ∀ interval ∈ blankPoints,
    (∀ other ∈ casedPoints, interval.2 < other.1 ∨ other.2 < interval.1) ∧
      (∀ other ∈ ignorablePoints, interval.2 < other.1 ∨ other.2 < interval.1) ∧
      ∀ run ∈ runs, interval.2 < run.first ∨ run.last < interval.1 := by
  decide +kernel

theorem has_eq_false_of_apart {points : CodePoints} (ascending : points.Ascending)
    {interval : Nat × Nat} {c : Char} (inside : interval.1 ≤ c.toNat ∧ c.toNat ≤ interval.2)
    (apart : ∀ other ∈ points, interval.2 < other.1 ∨ other.2 < interval.1) :
    points.has c = false := by
  apply Bool.eq_false_iff.mpr
  intro has
  rcases (CodePoints.covers_iff ascending c.toNat).mp has with ⟨other, listed, inOther⟩
  have := apart other listed
  omega

theorem smallPoint_of_apart {table : List Run} {point : Nat}
    (apart : ∀ run ∈ table, point < run.first ∨ run.last < point) :
    smallPoint table point = point := by
  induction table with
  | nil => rfl
  | cons run rest ih =>
    rcases List.forall_mem_cons.mp apart with ⟨here, others⟩
    rw [smallPoint]
    split
    · rfl
    · split
      · omega
      · exact ih others

variable {c : Char}

theorem cased_eq_false_of_isBlank (blank : isBlank c = true) : casedPoints.has c = false := by
  rcases (isBlank_iff c).mp blank with ⟨interval, listed, inside⟩
  exact has_eq_false_of_apart casedPoints_ascending inside (blankPoints_apart interval listed).1

theorem ignorable_eq_false_of_isBlank (blank : isBlank c = true) :
    ignorablePoints.has c = false := by
  rcases (isBlank_iff c).mp blank with ⟨interval, listed, inside⟩
  exact has_eq_false_of_apart ignorablePoints_ascending inside
    (blankPoints_apart interval listed).2.1

theorem isSmall_of_isBlank (blank : isBlank c = true) : IsSmall c := by
  rcases (isBlank_iff c).mp blank with ⟨interval, listed, inside⟩
  refine ⟨?_, ?_, ?_⟩
  · have unmapped : smallPoint runs c.toNat = c.toNat := by
      refine smallPoint_of_apart fun run member => ?_
      have := (blankPoints_apart interval listed).2.2 run member
      omega
    rw [small, unmapped, Char.ofNat_toNat]
  · rintro rfl
    exact absurd blank (by decide)
  · rintro rfl
    exact absurd blank (by decide)

/-- The search for a letter with case does not look past a blank. -/
theorem meetsCased_append_blank (blank : isBlank c = true) (text rest : List Char) :
    meetsCased (text ++ c :: rest) = meetsCased text := by
  rw [meetsCased, meetsCased, List.dropWhile_append,
    List.dropWhile_cons_of_neg (by simp [ignorable_eq_false_of_isBlank blank])]
  cases found : text.dropWhile ignorablePoints.has with
  | nil => simp [cased_eq_false_of_isBlank blank]
  | cons letter others => simp

/-- Nor does it find a letter behind the text where none has case. -/
theorem meetsCased_append_uncased {tail : List Char}
    (uncased : ∀ c ∈ tail, casedPoints.has c = false) (text : List Char) :
    meetsCased (text ++ tail) = meetsCased text := by
  rw [meetsCased, meetsCased, List.dropWhile_append]
  cases text.dropWhile ignorablePoints.has with
  | nil =>
    cases found : tail.dropWhile ignorablePoints.has with
    | nil => simp
    | cons c others =>
      have inTail : c ∈ tail := (List.dropWhile_suffix _).subset (found ▸ List.mem_cons_self)
      simp [uncased c inTail]
  | cons letter others => simp

theorem smallText_append_uncased {tail : List Char}
    (uncased : ∀ c ∈ tail, casedPoints.has c = false) (small : ∀ c ∈ tail, IsSmall c)
    (before text : List Char) :
    smallText before (text ++ tail) = smallText before text ++ tail := by
  induction text generalizing before with
  | nil => exact smallText_of_isSmall small
  | cons c rest ih =>
    rw [List.cons_append, smallText, smallText, ih, smallForm, endsWord,
      meetsCased_append_uncased uncased, List.append_assoc]
    rfl

/-- What stands in front of a blank does not matter behind it. -/
theorem smallText_behind_blank (blank : isBlank c = true) (before others text : List Char) :
    smallText (before ++ c :: others) text = smallText before text := by
  induction text generalizing before with
  | nil => rfl
  | cons d rest ih =>
    have later := ih (d :: before)
    rw [List.cons_append] at later
    rw [smallText, smallText, later, smallForm, endsWord, meetsCased_append_blank blank]
    rfl

theorem smallText_blank_cons (blank : isBlank c = true) (before rest : List Char) :
    smallText before (c :: rest) = c :: smallText [] rest := by
  rw [smallText, smallForm_of_isSmall (isSmall_of_isBlank blank), List.singleton_append]
  exact congrArg (c :: ·) (smallText_behind_blank blank [] before rest)

theorem smallText_blanks_append {blanks : List Char} (blank : ∀ c ∈ blanks, isBlank c = true)
    (text : List Char) : smallText [] (blanks ++ text) = blanks ++ smallText [] text := by
  induction blanks with
  | nil => rfl
  | cons c rest ih =>
    rcases List.forall_mem_cons.mp blank with ⟨here, others⟩
    rw [List.cons_append, smallText_blank_cons here, ih others, List.cons_append]

/-! ## What is cut off -/

theorem cased_eq_false_of_isClosing (closing : isClosing c = true) :
    casedPoints.has c = false := by
  rcases Bool.or_eq_true_iff.mp closing with blank | stop
  · exact cased_eq_false_of_isBlank blank
  · obtain rfl := beq_iff_eq.mp stop
    decide +kernel

theorem isSmall_of_isClosing (closing : isClosing c = true) : IsSmall c := by
  rcases Bool.or_eq_true_iff.mp closing with blank | stop
  · exact isSmall_of_isBlank blank
  · obtain rfl := beq_iff_eq.mp stop
    decide +kernel

theorem smallText_append_closing {tail : List Char} (closing : ∀ c ∈ tail, isClosing c = true)
    (before text : List Char) : smallText before (text ++ tail) = smallText before text ++ tail :=
  smallText_append_uncased (fun c member => cased_eq_false_of_isClosing (closing c member))
    (fun c member => isSmall_of_isClosing (closing c member)) before text

end Lowercase

/-! ## Blanks and stops at the ends -/

theorem isClosing_of_isBlank {c : Char} (blank : isBlank c = true) : isClosing c = true :=
  Bool.or_eq_true_iff.mpr (Or.inl blank)

theorem dropEndWhile_append {inClass : Char → Bool} {tail : List Char}
    (all : ∀ c ∈ tail, inClass c = true) (text : List Char) :
    dropEndWhile inClass (text ++ tail) = dropEndWhile inClass text := by
  rw [dropEndWhile, List.reverse_append, List.dropWhile_append_of_pos (by simpa using all),
    dropEndWhile]

/-- What is cut off the end does not matter where blanks are cut off the beginning as well. -/
theorem dropEndWhile_dropWhile_append {inClass : Char → Bool} {tail : List Char}
    (all : ∀ c ∈ tail, inClass c = true) (text : List Char) :
    dropEndWhile inClass ((text ++ tail).dropWhile isBlank) =
      dropEndWhile inClass (text.dropWhile isBlank) := by
  rw [List.dropWhile_append]
  split
  · rename_i none
    have left : ∀ c ∈ tail.dropWhile isBlank, inClass c = true := fun c member =>
      all c ((List.dropWhile_suffix _).subset member)
    have nothing := dropEndWhile_append left []
    rw [List.nil_append] at nothing
    rw [List.isEmpty_iff.mp none, nothing]
  · exact dropEndWhile_append all _

theorem trim_append_blanks {blanks : List Char} (blank : ∀ c ∈ blanks, isBlank c = true)
    (text : List Char) : trim (text ++ blanks) = trim text :=
  dropEndWhile_dropWhile_append blank text

theorem normalize_append_closing {tail : String} (closing : ∀ c ∈ tail.toList, isClosing c = true)
    (sentence : String) : normalize (sentence ++ tail) = normalize sentence := by
  apply String.toList_inj.mp
  rw [toList_normalize, toList_lowercase, String.toList_append,
    Lowercase.smallText_append_closing closing, dropEndWhile_dropWhile_append closing,
    toList_normalize, toList_lowercase]

theorem normalize_append_blanks {blanks : String} (blank : ∀ c ∈ blanks.toList, isBlank c = true)
    (sentence : String) : normalize (sentence ++ blanks) = normalize sentence :=
  normalize_append_closing (fun c member => isClosing_of_isBlank (blank c member)) sentence

theorem normalize_blanks_append {blanks : String} (blank : ∀ c ∈ blanks.toList, isBlank c = true)
    (sentence : String) : normalize (blanks ++ sentence) = normalize sentence := by
  apply String.toList_inj.mp
  rw [toList_normalize, toList_lowercase, String.toList_append,
    Lowercase.smallText_blanks_append blank, List.dropWhile_append_of_pos blank, toList_normalize,
    toList_lowercase]

end Cyk.Text
