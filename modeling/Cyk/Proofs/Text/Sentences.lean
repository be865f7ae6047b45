import Cyk.Proofs.Text.Terminals
import Cyk.Text.Normal

/-!
# Sentences in normal form

Full stops and blanks behind a sentence are cut off together, however they are mixed.  So a row of
small words is its own normal form unless a full stop ends it, and a full stop at the end is lost.
-/

namespace Cyk.Text

/-- A character that is cut off the end of a sentence. -/
def isClosing (c : Char) : Bool :=
  isBlank c || c == '.'

/-- The last character is a full stop. -/
def EndsInStop (text : String) : Prop :=
  text.toList.getLast? = some '.'

instance : DecidablePred EndsInStop := fun text =>
  inferInstanceAs (Decidable (text.toList.getLast? = some '.'))

/-! ## Cutting off the end -/

theorem dropEndWhile_dropEndWhile {inClass others : Char → Bool}
    (included : ∀ c, inClass c = true → others c = true) (text : List Char) :
    dropEndWhile others (dropEndWhile inClass text) = dropEndWhile others text := by
  unfold dropEndWhile
  rw [List.reverse_reverse]
  congr 1
  induction text.reverse with
  | nil => rfl
  | cons c rest ih =>
    cases here : inClass c with
    | true => rw [List.dropWhile_cons_of_pos here, List.dropWhile_cons_of_pos (included c here), ih]
    | false => rw [List.dropWhile_cons_of_neg (by simp [here])]

/-- What is left does not end in a character of the class. -/
theorem getLast?_dropEndWhile (inClass : Char → Bool) (text : List Char) :
    ∀ c ∈ (dropEndWhile inClass text).getLast?, inClass c = false := by
  intro c last
  have visible := List.head?_dropWhile_not inClass text.reverse
  rw [dropEndWhile, List.getLast?_reverse] at last
  rw [last] at visible
  simpa using visible

theorem dropWhile_eq_self {inClass : Char → Bool} {text : List Char}
    (begins : ∀ c ∈ text.head?, inClass c = false) : text.dropWhile inClass = text := by
  cases text with
  | nil => rfl
  | cons c rest => exact List.dropWhile_cons_of_neg (by simp [begins c rfl])

theorem dropEndWhile_eq_self {inClass : Char → Bool} {text : List Char}
    (ends : ∀ c ∈ text.getLast?, inClass c = false) : dropEndWhile inClass text = text := by
  rw [List.getLast?_eq_head?_reverse] at ends
  rw [dropEndWhile, dropWhile_eq_self ends, List.reverse_reverse]

/-! ## The normal form of a sentence -/

theorem dropEndWhile_isClosing_dropStops (text : List Char) :
    dropEndWhile isClosing (dropStops text) = dropEndWhile isClosing text := by
  rw [dropStops, trimEnd, dropEndWhile_dropEndWhile (by simp +contextual [isClosing]),
    dropEndWhile_dropEndWhile (by simp +contextual [isClosing])]

/-- A text that loses nothing to the stops behind it ends in a character that stays. -/
theorem isClosing_eq_false_of_length_dropStops {text : List Char}
    (kept : text.length ≤ (dropStops text).length) : ∀ c ∈ text.getLast?, isClosing c = false := by
  have stops := length_dropEndWhile_le (· == '.') text
  have blanks := length_dropEndWhile_le isBlank (dropEndWhile (· == '.') text)
  have noStops : dropEndWhile (· == '.') text = text :=
    (isPrefix_dropEndWhile _ text).eq_of_length_le (Nat.le_trans kept blanks)
  have noBlanks : dropEndWhile isBlank text = text := by
    rw [dropStops, trimEnd, noStops] at kept
    exact (isPrefix_dropEndWhile _ text).eq_of_length_le kept
  intro c last
  rw [isClosing, Bool.or_eq_false_iff]
  constructor
  · apply getLast?_dropEndWhile isBlank text
    rwa [noBlanks]
  · apply getLast?_dropEndWhile (· == '.') text
    rwa [noStops]

theorem dropAllStops_eq (text : List Char) :
    dropAllStops text = dropEndWhile isClosing text := by
  induction text using dropAllStops.induct with
  | case1 text shorter ih =>
    rw [dropAllStops, if_pos shorter, ih, dropEndWhile_isClosing_dropStops]
  | case2 text done =>
    rw [dropAllStops, if_neg done]
    exact (dropEndWhile_eq_self
      (isClosing_eq_false_of_length_dropStops (Nat.not_lt.mp done))).symm

/-- The normal form of a sentence is its small form without the blanks in front and without the
blanks and stops behind. -/
theorem toList_normalize (sentence : String) :
    (normalize sentence).toList =
      dropEndWhile isClosing ((lowercase sentence).toList.dropWhile isBlank) := by
  rw [normalize, String.toList_ofList, dropAllStops_eq, trim, trimEnd,
    dropEndWhile_dropEndWhile (by simp +contextual [isClosing])]

/-- A normal form has no other characters than the small form. -/
theorem isSmall_of_mem_normalize {sentence : String} {c : Char}
    (member : c ∈ (normalize sentence).toList) : Lowercase.IsSmall c := by
  have inLowercase : c ∈ (lowercase sentence).toList :=
    (List.dropWhile_suffix _).subset ((normalize_isPrefix sentence).subset member)
  rw [toList_lowercase] at inLowercase
  exact Lowercase.isSmall_of_mem_smallText inLowercase

theorem normalize_eq_self {sentence : String} (small : lowercase sentence = sentence)
    (begins : ∀ c ∈ sentence.toList.head?, isBlank c = false)
    (ends : ∀ c ∈ sentence.toList.getLast?, isClosing c = false) :
    normalize sentence = sentence := by
  apply String.toList_inj.mp
  rw [toList_normalize, small, dropWhile_eq_self begins, dropEndWhile_eq_self ends]

/-- No normal form ends in a full stop. -/
theorem not_endsInStop_normalize (sentence : String) : ¬ EndsInStop (normalize sentence) := by
  intro ends
  rw [EndsInStop, toList_normalize] at ends
  exact absurd (getLast?_dropEndWhile isClosing _ '.' ends) (by decide)

/-! ## Rows of words -/

/-- The words of a text are all its characters that are not blank. -/
theorem flatMap_toList_wordsFrom (offset : Nat) (text : List Char) :
    (wordsFrom offset text).flatMap (·.text.toList) = text.filter (!isBlank ·) := by
  induction offset, text using wordsFrom.induct with
  | case1 => simp [wordsFrom]
  | case2 offset c rest blank ih => simp [wordsFrom, blank, ih]
  | case3 offset c rest visible letters stop ih =>
    have inWord : (rest.takeWhile (!isBlank ·)).filter (!isBlank ·) = rest.takeWhile (!isBlank ·) :=
      List.filter_eq_self.mpr fun d member => List.all_eq_true.mp List.all_takeWhile d member
    have parts := List.takeWhile_append_dropWhile (p := (!isBlank ·)) (l := rest)
    rw [wordsFrom, if_neg visible, List.flatMap_cons, ih, String.toList_ofList, List.cons_append,
      ← inWord, ← List.filter_append, parts, List.filter_cons_of_pos (by simp [visible])]

theorem flatMap_toList_splitWords (text : String) :
    (splitWords text).flatMap String.toList = text.toList.filter (!isBlank ·) := by
  rw [splitWords, List.flatMap_map]
  exact flatMap_toList_wordsFrom 0 text.toList

theorem head?_joinWords {parts : List String} (all : ∀ part ∈ parts, IsWord part) :
    ∀ c ∈ (joinWords parts).toList.head?, isBlank c = false := by
  intro c first
  cases parts with
  | nil => simp at first
  | cons part rest =>
    rcases all part List.mem_cons_self with ⟨nonempty, visible⟩
    cases letters : part.toList with
    | nil => exact absurd (String.toList_eq_nil_iff.mp letters) nonempty
    | cons d others =>
      have here : (joinWords (part :: rest)).toList.head? = some d := by
        cases rest with
        | nil => rw [joinWords_singleton, letters, List.head?_cons]
        | cons next rest =>
          rw [toList_joinWords_cons_cons, letters, List.cons_append, List.head?_cons]
      obtain rfl : d = c := Option.some.inj (here.symm.trans first)
      exact visible d (letters ▸ List.mem_cons_self)

/-- Joined parts end where the last of them ends. -/
theorem getLast?_joinWords {parts : List String} {last : String}
    (here : parts.getLast? = some last) (nonempty : last ≠ "") :
    (joinWords parts).toList.getLast? = last.toList.getLast? := by
  induction parts with
  | nil => contradiction
  | cons part rest ih =>
    cases rest with
    | nil =>
      obtain rfl : part = last := Option.some.inj here
      rw [joinWords_singleton]
    | cons next rest =>
      have later := ih here
      rw [toList_joinWords_cons_cons, List.getLast?_append, List.getLast?_cons, later]
      cases letters : last.toList.getLast? with
      | none =>
        have empty := String.toList_eq_nil_iff.mp (List.getLast?_eq_none_iff.mp letters)
        exact absurd empty nonempty
      | some c => rfl

theorem joinWords_append {front back : List String} (before : front ≠ []) (after : back ≠ []) :
    joinWords (front ++ back) = joinWords [joinWords front, joinWords back] := by
  apply String.toList_inj.mp
  rw [toList_joinWords_cons_cons, joinWords_singleton]
  induction front with
  | nil => exact absurd rfl before
  | cons part rest ih =>
    cases rest with
    | nil =>
      rcases List.exists_cons_of_ne_nil after with ⟨next, others, rfl⟩
      rw [joinWords_singleton, List.singleton_append, toList_joinWords_cons_cons]
    | cons next rest =>
      rw [List.cons_append, List.cons_append, toList_joinWords_cons_cons, ← List.cons_append,
        ih (by simp), toList_joinWords_cons_cons, List.append_assoc, List.cons_append]

/-- Joining rows that were joined from parts is joining all the parts. -/
theorem joinWords_flatMap {rows : List String} {parts : String → List String}
    (joined : ∀ row ∈ rows, parts row ≠ [] ∧ joinWords (parts row) = row) :
    joinWords (rows.flatMap parts) = joinWords rows := by
  induction rows with
  | nil => rfl
  | cons row rest ih =>
    rcases List.forall_mem_cons.mp joined with ⟨⟨nonempty, here⟩, others⟩
    cases rest with
    | nil => rw [List.flatMap_singleton, here, joinWords_singleton]
    | cons next rest =>
      have more : (next :: rest).flatMap parts ≠ [] := by
        simp [others next List.mem_cons_self]
      apply String.toList_inj.mp
      rw [List.flatMap_cons, joinWords_append nonempty more, here, ih others,
        toList_joinWords_cons_cons, toList_joinWords_cons_cons, joinWords_singleton]

/-! ## Sentences of terminals -/

/-- A text is its own small form if every character is. -/
theorem lowercase_eq_self_iff {text : String} :
    lowercase text = text ↔ ∀ c ∈ text.toList, Lowercase.IsSmall c := by
  rw [← String.toList_inj, toList_lowercase]
  constructor
  · intro same c member
    rw [← same] at member
    exact Lowercase.isSmall_of_mem_smallText member
  · exact Lowercase.smallText_of_isSmall

theorem lowercase_joinWords {parts : List String} (small : ∀ part ∈ parts, lowercase part = part) :
    lowercase (joinWords parts) = joinWords parts := by
  apply lowercase_eq_self_iff.mpr
  intro c member
  rcases mem_toList_joinWords member with rfl | ⟨part, listed, letter⟩
  · decide +kernel
  · exact lowercase_eq_self_iff.mp (small part listed) c letter

theorem normalize_joinWords {parts : List String} (words : ∀ part ∈ parts, IsWord part)
    (small : ∀ part ∈ parts, lowercase part = part) (unstopped : ¬ EndsInStop (joinWords parts)) :
    normalize (joinWords parts) = joinWords parts := by
  refine normalize_eq_self (lowercase_joinWords small) (head?_joinWords words) ?_
  intro c last
  have visible : isBlank c = false := by
    cases ending : parts.getLast? with
    | none =>
      rw [List.getLast?_eq_none_iff.mp ending] at last
      simp at last
    | some part =>
      have isWord := words part (List.mem_of_getLast? ending)
      rw [getLast?_joinWords ending isWord.1] at last
      exact isWord.2 c (List.mem_of_getLast? last)
  have notStop : c ≠ '.' := by
    rintro rfl
    exact unstopped last
  simp [isClosing, visible, notStop]

namespace IsNormalTerminal

variable {terminal : String}

theorem lowercase_of_mem (normal : IsNormalTerminal terminal) {word : String}
    (member : word ∈ splitWords terminal) : lowercase word = word := by
  rw [← normal.map_lowercase_splitWords] at member
  rcases List.mem_map.mp member with ⟨given, -, rfl⟩
  exact lowercase_lowercase given

theorem lowercase_eq_self (normal : IsNormalTerminal terminal) : lowercase terminal = terminal := by
  rw [← normal.joinWords_splitWords]
  exact lowercase_joinWords fun _ => normal.lowercase_of_mem

/-- Of words that begin with those of a terminal, only as many as it has spell it. -/
theorem joinWords_take_eq_iff (normal : IsNormalTerminal terminal) {words : List String}
    (isWord : ∀ word ∈ words, IsWord word) (begins : splitWords terminal <+: words) {count : Nat}
    (inside : count ≤ words.length) :
    joinWords (words.take count) = terminal ↔ count = (splitWords terminal).length := by
  constructor
  · intro same
    rw [← same, splitWords_joinWords fun word member => isWord word (List.mem_of_mem_take member),
      List.length_take, Nat.min_eq_left inside]
  · rintro rfl
    rw [← List.prefix_iff_eq_take.mp begins, normal.joinWords_splitWords]

/-- A terminal that ends in a full stop has other words than the sentence it makes. -/
theorem splitWords_normalize_ne (normal : IsNormalTerminal terminal) (stop : EndsInStop terminal) :
    splitWords (normalize terminal) ≠ splitWords terminal := by
  intro same
  have letters : (normalize terminal).toList.filter (!isBlank ·) =
      terminal.toList.filter (!isBlank ·) := by
    rw [← flatMap_toList_splitWords, same, flatMap_toList_splitWords]
  have begins : terminal.toList.dropWhile isBlank = terminal.toList := by
    have isWord : ∀ word ∈ splitWords terminal, IsWord word := fun _ => isWord_of_mem_splitWords
    have visible := head?_joinWords isWord
    rw [normal.joinWords_splitWords] at visible
    exact dropWhile_eq_self visible
  have beginning := toList_normalize terminal
  rw [normal.lowercase_eq_self, begins] at beginning
  rcases isPrefix_dropEndWhile isClosing terminal.toList with ⟨lost, whole⟩
  rw [← beginning] at whole
  -- What is lost has the full stop, which is not blank, so the letters are not the same.
  rw [← whole, List.filter_append, List.self_eq_append_right, List.filter_eq_nil_iff] at letters
  have stopLost : '.' ∈ lost := by
    rw [EndsInStop, ← whole, List.getLast?_append] at stop
    cases last : lost.getLast? with
    | none =>
      rw [last] at stop
      exact absurd stop (not_endsInStop_normalize terminal)
    | some c =>
      rw [last] at stop
      obtain rfl : c = '.' := Option.some.inj stop
      exact List.mem_of_getLast? last
  exact letters '.' stopLost (by decide)

end IsNormalTerminal

/-- The sentence of a row of terminals has the words of the terminals, one after another. -/
theorem splitWords_normalize_joinWords {row : List String}
    (normal : ∀ terminal ∈ row, IsNormalTerminal terminal)
    (unstopped : ∀ terminal ∈ row, ¬ EndsInStop terminal) :
    splitWords (normalize (joinWords row)) = row.flatMap splitWords := by
  have isWord : ∀ word ∈ row.flatMap splitWords, IsWord word := by
    intro word member
    rcases List.mem_flatMap.mp member with ⟨terminal, -, inTerminal⟩
    exact isWord_of_mem_splitWords inTerminal
  have small : ∀ word ∈ row.flatMap splitWords, lowercase word = word := by
    intro word member
    rcases List.mem_flatMap.mp member with ⟨terminal, listed, inTerminal⟩
    exact (normal terminal listed).lowercase_of_mem inTerminal
  have joined : joinWords (row.flatMap splitWords) = joinWords row :=
    joinWords_flatMap fun terminal listed =>
      ⟨(normal terminal listed).splitWords_ne_nil, (normal terminal listed).joinWords_splitWords⟩
  have ends : ¬ EndsInStop (joinWords (row.flatMap splitWords)) := by
    rw [joined, EndsInStop]
    cases ending : row.getLast? with
    | none => simp [List.getLast?_eq_none_iff.mp ending]
    | some terminal =>
      have listed := List.mem_of_getLast? ending
      rw [getLast?_joinWords ending (normal terminal listed).nonempty]
      exact unstopped terminal listed
  rw [← joined, normalize_joinWords isWord small ends, splitWords_joinWords isWord]

end Cyk.Text
