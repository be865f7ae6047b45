import Cyk.Proofs.Text.Lowercase
import Cyk.Proofs.Text.Words

/-!
# Terminals in normal form

Cutting a text into words and joining words are inverse to each other, and small forms of words are
words.  So the words of a terminal in normal form are those that were given, in small form, and a
terminal in normal form is its own normal form.
-/

namespace Cyk.Text

/-- One character or more, none of them blank. -/
def IsWord (text : String) : Prop :=
  text ≠ "" ∧ ∀ c ∈ text.toList, isBlank c = false

/-! ## Cutting and joining -/

theorem isWord_of_mem_wordsFrom {offset : Nat} {text : List Char} {word : Word}
    (member : word ∈ wordsFrom offset text) : IsWord word.text := by
  induction offset, text using wordsFrom.induct with
  | case1 => simp [wordsFrom] at member
  | case2 offset c rest blank ih =>
    rw [wordsFrom, if_pos blank] at member
    exact ih member
  | case3 offset c rest visible letters stop ih =>
    rw [wordsFrom, if_neg visible] at member
    rcases List.mem_cons.mp member with rfl | later
    · constructor
      · simp
      · intro d inWord
        rw [String.toList_ofList] at inWord
        rcases List.mem_cons.mp inWord with rfl | inWord
        · exact Bool.eq_false_iff.mpr visible
        · simpa using List.all_eq_true.mp List.all_takeWhile d inWord
    · exact ih later

theorem isWord_of_mem_splitWords {text part : String} (member : part ∈ splitWords text) :
    IsWord part := by
  rcases List.mem_map.mp member with ⟨word, inText, rfl⟩
  exact isWord_of_mem_wordsFrom inText

theorem mem_of_mem_wordsFrom {offset : Nat} {text : List Char} {word : Word} {c : Char}
    (member : word ∈ wordsFrom offset text) (letter : c ∈ word.text.toList) : c ∈ text := by
  induction offset, text using wordsFrom.induct with
  | case1 => simp [wordsFrom] at member
  | case2 offset d rest blank ih =>
    rw [wordsFrom, if_pos blank] at member
    exact List.mem_cons_of_mem _ (ih member)
  | case3 offset d rest visible letters stop ih =>
    rw [wordsFrom, if_neg visible] at member
    rcases List.mem_cons.mp member with rfl | later
    · rw [String.toList_ofList] at letter
      rcases List.mem_cons.mp letter with rfl | letter
      · exact List.mem_cons_self
      · exact List.mem_cons_of_mem _ ((List.takeWhile_prefix _).subset letter)
    · exact List.mem_cons_of_mem _ ((List.dropWhile_suffix _).subset (ih later))

/-- A word at the head of a text, with a blank or nothing behind it, is its first word. -/
theorem wordsFrom_append {word : String} (isWord : IsWord word) {rest : List Char}
    (stops : ∀ c ∈ rest.head?, isBlank c = true) (offset : Nat) :
    wordsFrom offset (word.toList ++ rest) =
      ⟨word, ⟨offset, offset + byteLength word.toList⟩⟩ ::
        wordsFrom (offset + byteLength word.toList) rest := by
  rcases isWord with ⟨nonempty, visible⟩
  cases letters : word.toList with
  | nil => exact absurd (String.toList_eq_nil_iff.mp letters) nonempty
  | cons c others =>
    rw [letters] at visible
    rcases List.forall_mem_cons.mp visible with ⟨here, there⟩
    have taken : (others ++ rest).takeWhile (!isBlank ·) = others := by
      rw [List.takeWhile_append_of_pos (by simpa using there)]
      cases rest with
      | nil => simp
      | cons d rest => simp [stops d rfl]
    have dropped : (others ++ rest).dropWhile (!isBlank ·) = rest := by
      rw [List.dropWhile_append_of_pos (by simpa using there)]
      cases rest with
      | nil => simp
      | cons d rest => simp [stops d rfl]
    have whole : String.ofList (c :: others) = word := by rw [← letters, String.ofList_toList]
    rw [List.cons_append, wordsFrom, if_neg (by simp [here])]
    simp only [taken, dropped, whole]

@[simp]
theorem joinWords_nil : joinWords [] = "" := rfl

@[simp]
theorem joinWords_singleton (part : String) : joinWords [part] = part :=
  String.intercalate_singleton

theorem toList_joinWords_cons_cons (part next : String) (parts : List String) :
    (joinWords (part :: next :: parts)).toList =
      part.toList ++ ' ' :: (joinWords (next :: parts)).toList := by
  simp [joinWords, String.intercalate_cons_cons]

/-- Each character of joined texts is from one of them, or from a separator. -/
theorem mem_toList_intercalate {separator : String} {parts : List String} {c : Char}
    (member : c ∈ (separator.intercalate parts).toList) :
    c ∈ separator.toList ∨ ∃ part ∈ parts, c ∈ part.toList := by
  induction parts with
  | nil => simp at member
  | cons part rest ih =>
    cases rest with
    | nil =>
      rw [String.intercalate_singleton] at member
      exact Or.inr ⟨part, List.mem_cons_self, member⟩
    | cons next rest =>
      rw [String.intercalate_cons_cons, String.toList_append, String.toList_append] at member
      rcases List.mem_append.mp member with front | later
      · rcases List.mem_append.mp front with here | between
        · exact Or.inr ⟨part, List.mem_cons_self, here⟩
        · exact Or.inl between
      · rcases ih later with between | ⟨other, listed, letter⟩
        · exact Or.inl between
        · exact Or.inr ⟨other, List.mem_cons_of_mem _ listed, letter⟩

/-- Each character of joined words is from one of them, or the space between two. -/
theorem mem_toList_joinWords {parts : List String} {c : Char}
    (member : c ∈ (joinWords parts).toList) : c = ' ' ∨ ∃ part ∈ parts, c ∈ part.toList :=
  (mem_toList_intercalate member).imp_left List.mem_singleton.mp

/-- Words are found again where they are joined. -/
theorem map_text_wordsFrom_joinWords {parts : List String} (all : ∀ part ∈ parts, IsWord part)
    (offset : Nat) : (wordsFrom offset (joinWords parts).toList).map Word.text = parts := by
  induction parts generalizing offset with
  | nil => simp [wordsFrom]
  | cons part rest ih =>
    rcases List.forall_mem_cons.mp all with ⟨here, others⟩
    cases rest with
    | nil =>
      have stops : ∀ c ∈ ([] : List Char).head?, isBlank c = true := by simp
      have first := wordsFrom_append here stops offset
      rw [List.append_nil] at first
      rw [joinWords_singleton, first]
      simp [wordsFrom]
    | cons next rest =>
      have space : isBlank ' ' = true := by decide
      rw [toList_joinWords_cons_cons, wordsFrom_append here (by simp [space]), wordsFrom,
        if_pos space, List.map_cons, ih others]

theorem splitWords_joinWords {parts : List String} (all : ∀ part ∈ parts, IsWord part) :
    splitWords (joinWords parts) = parts :=
  map_text_wordsFrom_joinWords all 0

theorem splitWords_eq_nil_iff {text : String} :
    splitWords text = [] ↔ ∀ c ∈ text.toList, isBlank c = true := by
  rw [splitWords, List.map_eq_nil_iff, words, wordsFrom_eq_nil_iff]

/-- A text without blanks is its only word. -/
theorem splitWords_of_isWord {text : String} (isWord : IsWord text) : splitWords text = [text] := by
  have single : splitWords (joinWords [text]) = [text] :=
    splitWords_joinWords (by simpa using isWord)
  rwa [joinWords_singleton] at single

/-! ## Small forms -/

theorem isWord_lowercase {word : String} (isWord : IsWord word) : IsWord (lowercase word) := by
  rcases isWord with ⟨nonempty, visible⟩
  constructor
  · intro empty
    have letters : (lowercase word).toList = [] := String.toList_eq_nil_iff.mpr empty
    rw [toList_lowercase, Lowercase.smallText_eq_nil_iff] at letters
    exact nonempty (String.toList_eq_nil_iff.mp letters)
  · intro d member
    rw [toList_lowercase] at member
    rcases Lowercase.mem_smallText member with ⟨inWord, -⟩ | letter
    · exact visible d inWord
    · exact letter.2.1

theorem splitWords_normalizeTerminal (terminal : String) :
    splitWords (normalizeTerminal terminal) = (splitWords terminal).map lowercase := by
  apply splitWords_joinWords
  intro part member
  rcases List.mem_map.mp member with ⟨word, inTerminal, rfl⟩
  exact isWord_lowercase (isWord_of_mem_splitWords inTerminal)

/-- A terminal in normal form has spaces, characters that it had before, and small letters. -/
theorem mem_toList_normalizeTerminal {terminal : String} {c : Char}
    (member : c ∈ (normalizeTerminal terminal).toList) :
    c = ' ' ∨ c ∈ terminal.toList ∨ Lowercase.IsSmallLetter c := by
  rcases mem_toList_joinWords member with space | ⟨part, listed, letter⟩
  · exact Or.inl space
  · rcases List.mem_map.mp listed with ⟨word, inTerminal, rfl⟩
    rcases List.mem_map.mp inTerminal with ⟨_, found, rfl⟩
    rw [toList_lowercase] at letter
    rcases Lowercase.mem_smallText letter with ⟨inWord, -⟩ | letter
    · exact Or.inr (Or.inl (mem_of_mem_wordsFrom found inWord))
    · exact Or.inr (Or.inr letter)

@[simp]
theorem normalizeTerminal_normalizeTerminal (terminal : String) :
    normalizeTerminal (normalizeTerminal terminal) = normalizeTerminal terminal := by
  have twice : lowercase ∘ lowercase = lowercase := funext lowercase_lowercase
  rw [normalizeTerminal, splitWords_normalizeTerminal, List.map_map, twice]
  rfl

/-- A terminal is a row of words in normal form. -/
structure IsNormalTerminal (terminal : String) : Prop where
  nonempty : terminal ≠ ""
  fixed : normalizeTerminal terminal = terminal

namespace IsNormalTerminal

variable {terminal : String}

theorem map_lowercase_splitWords (normal : IsNormalTerminal terminal) :
    (splitWords terminal).map lowercase = splitWords terminal := by
  rw [← splitWords_normalizeTerminal, normal.fixed]

theorem joinWords_splitWords (normal : IsNormalTerminal terminal) :
    joinWords (splitWords terminal) = terminal := by
  rw [← normal.map_lowercase_splitWords]
  exact normal.fixed

theorem splitWords_ne_nil (normal : IsNormalTerminal terminal) : splitWords terminal ≠ [] := by
  intro none
  apply normal.nonempty
  rw [← normal.joinWords_splitWords, none, joinWords_nil]

end IsNormalTerminal

/-- Only blank terminals have an empty normal form. -/
theorem normalizeTerminal_eq_empty_iff {terminal : String} :
    normalizeTerminal terminal = "" ↔ ∀ c ∈ terminal.toList, isBlank c = true := by
  rw [← splitWords_eq_nil_iff, ← List.map_eq_nil_iff (f := lowercase),
    ← splitWords_normalizeTerminal]
  constructor
  · intro empty
    simp [empty, splitWords, words, wordsFrom]
  · intro none
    rw [← normalizeTerminal_normalizeTerminal, normalizeTerminal, none]
    rfl

theorem isNormalTerminal_normalizeTerminal {terminal : String}
    (nonempty : normalizeTerminal terminal ≠ "") : IsNormalTerminal (normalizeTerminal terminal) :=
  ⟨nonempty, normalizeTerminal_normalizeTerminal terminal⟩

end Cyk.Text
