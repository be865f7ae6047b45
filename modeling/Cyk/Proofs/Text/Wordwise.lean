import Cyk.Proofs.Text.Retokenizing
import Cyk.Proofs.Text.Trimming

/-!
# Small words

A terminal is put in small form word by word, and a sentence all at once.  No letter of another word
counts for the small form of a word, so both have the same words; only full stops behind the last of
them are left in a terminal.
-/

namespace Cyk.Text

/-! ## Going through a text word by word -/

/-- What holds of the empty text, and is kept when a blank or a whole word is put in front, holds of
every text. -/
@[elab_as_elim]
theorem wordwise {motive : List Char → Prop} (nil : motive [])
    (blank : ∀ c rest, isBlank c = true → motive rest → motive (c :: rest))
    (word : ∀ (word : String) (rest : List Char), IsWord word →
      (∀ c ∈ rest.head?, isBlank c = true) → motive rest → motive (word.toList ++ rest))
    (text : List Char) : motive text := by
  induction (0 : Nat), text using wordsFrom.induct with
  | case1 => exact nil
  | case2 offset c rest isBlank ih => exact blank c rest isBlank ih
  | case3 offset c rest visible letters stop ih =>
    have found : ⟨String.ofList letters, ⟨offset, stop⟩⟩ ∈ wordsFrom offset (c :: rest) := by
      rw [wordsFrom, if_neg visible]
      exact List.mem_cons_self
    have isWord : IsWord (String.ofList letters) := isWord_of_mem_wordsFrom found
    have whole := word (String.ofList letters) _ isWord (isBlank_of_head?_dropWhile rest) ih
    rwa [String.toList_ofList, List.cons_append, List.takeWhile_append_dropWhile] at whole

/-! ## Small forms of words -/

namespace Lowercase

/-- Where a blank comes next, the text is in two parts with small forms of their own. -/
theorem smallText_append_of_stops {rest : List Char} (stops : ∀ c ∈ rest.head?, isBlank c = true)
    (before text : List Char) :
    smallText before (text ++ rest) = smallText before text ++ smallText [] rest := by
  induction text generalizing before with
  | nil =>
    cases rest with
    | nil => rfl
    | cons c others =>
      have blank := stops c rfl
      rw [List.nil_append, smallText_blank_cons blank, smallText_blank_cons blank]
      rfl
  | cons c more ih =>
    have sameRest : meetsCased (more ++ rest) = meetsCased more := by
      cases rest with
      | nil => rw [List.append_nil]
      | cons d others => exact meetsCased_append_blank (stops d rfl) _ _
    rw [List.cons_append, smallText, smallText, ih, smallForm, endsWord, sameRest,
      List.append_assoc]
    rfl

theorem map_text_wordsFrom_smallText (offset offset' : Nat) (text : List Char) :
    (wordsFrom offset (smallText [] text)).map Word.text =
      ((wordsFrom offset' text).map Word.text).map lowercase := by
  induction text using wordwise generalizing offset offset' with
  | nil => simp [smallText, wordsFrom]
  | blank c rest blank ih =>
    rw [smallText_blank_cons blank, wordsFrom, if_pos blank, wordsFrom, if_pos blank]
    exact ih _ _
  | word word rest isWord stops ih =>
    have stops' : ∀ c ∈ (smallText [] rest).head?, isBlank c = true := by
      cases rest with
      | nil => simp [smallText]
      | cons c others =>
        rw [smallText_blank_cons (stops c rfl)]
        exact stops
    rw [smallText_append_of_stops stops, ← toList_lowercase,
      wordsFrom_append (isWord_lowercase isWord) stops', wordsFrom_append isWord stops,
      List.map_cons, List.map_cons, List.map_cons, ih]

end Lowercase

/-- The words of a small form are the small forms of the words. -/
theorem splitWords_lowercase (text : String) :
    splitWords (lowercase text) = (splitWords text).map lowercase := by
  rw [splitWords, words, toList_lowercase]
  exact Lowercase.map_text_wordsFrom_smallText 0 0 text.toList

/-! ## Stops behind words -/

/-- A row of words and the same row with full stops behind it: some may stand at the end of the last
word, and others are words of their own. -/
inductive Stopped : List String → List String → Prop
  | behind {more : List String} (stops : ∀ part ∈ more, ∀ c ∈ part.toList, c = '.') :
    Stopped [] more
  | last {word stop : String} {more : List String} (here : ∀ c ∈ stop.toList, c = '.')
    (stops : ∀ part ∈ more, ∀ c ∈ part.toList, c = '.') : Stopped [word] ((word ++ stop) :: more)
  | cons {word : String} {row row' : List String} (later : Stopped row row') :
    Stopped (word :: row) (word :: row')

theorem eq_stop_of_isClosing {c : Char} (closing : isClosing c = true)
    (visible : isBlank c = false) : c = '.' := by
  rw [isClosing, visible, Bool.false_or] at closing
  exact beq_iff_eq.mp closing

/-- What is cut off the end of a sentence adds nothing but full stops to its words. -/
theorem stopped_wordsFrom {tail : List Char} (closing : ∀ c ∈ tail, isClosing c = true)
    (offset offset' : Nat) (text : List Char) :
    Stopped ((wordsFrom offset text).map Word.text)
      ((wordsFrom offset' (text ++ tail)).map Word.text) := by
  have onlyStops : ∀ (offset : Nat) (rest : List Char), rest <:+ tail →
      ∀ part ∈ (wordsFrom offset rest).map Word.text, ∀ c ∈ part.toList, c = '.' := by
    intro offset rest isSuffix part member c letter
    rcases List.mem_map.mp member with ⟨word, found, rfl⟩
    have inTail := isSuffix.subset (mem_of_mem_wordsFrom found letter)
    exact eq_stop_of_isClosing (closing c inTail) ((isWord_of_mem_wordsFrom found).2 c letter)
  induction text using wordwise generalizing offset offset' with
  | nil =>
    rw [wordsFrom, List.map_nil, List.nil_append]
    exact .behind (onlyStops _ tail List.suffix_rfl)
  | blank c rest blank ih =>
    rw [List.cons_append, wordsFrom, if_pos blank, wordsFrom, if_pos blank]
    exact ih _ _
  | word word rest isWord stops ih =>
    cases rest with
    | cons c others =>
      have stops' : ∀ d ∈ (c :: others ++ tail).head?, isBlank d = true := stops
      rw [wordsFrom_append isWord stops, List.append_assoc, wordsFrom_append isWord stops',
        List.map_cons, List.map_cons]
      exact .cons (ih _ _)
    | nil =>
      have here : ∀ c ∈ tail.takeWhile (!isBlank ·), isBlank c = false := by
        intro c member
        simpa using List.all_eq_true.mp List.all_takeWhile c member
      have isWord' : IsWord (word ++ String.ofList (tail.takeWhile (!isBlank ·))) := by
        constructor
        · simp [isWord.1]
        · intro c member
          rw [String.toList_append, String.toList_ofList] at member
          exact (List.mem_append.mp member).elim (isWord.2 c) (here c)
      have parts : word.toList ++ [] ++ tail =
          (word ++ String.ofList (tail.takeWhile (!isBlank ·))).toList ++
            tail.dropWhile (!isBlank ·) := by
        rw [String.toList_append, String.toList_ofList, List.append_nil, List.append_assoc,
          List.takeWhile_append_dropWhile]
      rw [parts, wordsFrom_append isWord' (isBlank_of_head?_dropWhile tail),
        wordsFrom_append isWord stops, wordsFrom, List.map_cons, List.map_cons, List.map_nil]
      apply Stopped.last
      · intro c member
        rw [String.toList_ofList] at member
        exact eq_stop_of_isClosing (closing c ((List.takeWhile_prefix _).subset member))
          (here c member)
      · exact onlyStops _ _ (List.dropWhile_suffix _)

/-- With one more space in front, there is a space in front of each word. -/
theorem space_cons_joinWords (part : String) (others : List String) :
    ' ' :: (joinWords (part :: others)).toList =
      (part :: others).flatMap fun other => ' ' :: other.toList := by
  induction others generalizing part with
  | nil => simp
  | cons next others ih =>
    rw [toList_joinWords_cons_cons, ih]
    rfl

theorem stop_or_space_of_mem_flatMap {more : List String}
    (stops : ∀ part ∈ more, ∀ c ∈ part.toList, c = '.') :
    ∀ c ∈ more.flatMap (fun part => ' ' :: part.toList), c = '.' ∨ c = ' ' := by
  intro c member
  rcases List.mem_flatMap.mp member with ⟨part, listed, letter⟩
  rcases List.mem_cons.mp letter with space | letter
  · exact Or.inr space
  · exact Or.inl (stops part listed c letter)

namespace Stopped

variable {row row' : List String}

theorem flatMap_eq (stopped : Stopped row row') :
    ∃ tail, (row'.flatMap fun part => ' ' :: part.toList) =
        (row.flatMap fun part => ' ' :: part.toList) ++ tail ∧ ∀ c ∈ tail, c = '.' ∨ c = ' ' := by
  induction stopped with
  | behind stops => exact ⟨_, rfl, stop_or_space_of_mem_flatMap stops⟩
  | @last word stop more here stops =>
    refine ⟨stop.toList ++ more.flatMap fun part => ' ' :: part.toList, by simp, ?_⟩
    intro c member
    rcases List.mem_append.mp member with letter | later
    · exact Or.inl (here c letter)
    · exact stop_or_space_of_mem_flatMap stops c later
  | cons later ih =>
    rcases ih with ⟨tail, whole, all⟩
    exact ⟨tail, by rw [List.flatMap_cons, whole, List.flatMap_cons, List.append_assoc], all⟩

/-- Joined, the row with full stops is the row without them and some full stops and spaces. -/
theorem toList_joinWords_eq (stopped : Stopped row row') :
    ∃ tail, (joinWords row').toList = (joinWords row).toList ++ tail ∧
      ∀ c ∈ tail, c = '.' ∨ c = ' ' := by
  rcases stopped.flatMap_eq with ⟨tail, whole, all⟩
  cases stopped with
  | behind stops =>
    refine ⟨(joinWords row').toList, by simp, ?_⟩
    intro c member
    rcases mem_toList_joinWords member with space | ⟨part, listed, letter⟩
    · exact Or.inr space
    · exact Or.inl (stops part listed c letter)
  | last here stops =>
    rw [← space_cons_joinWords, ← space_cons_joinWords] at whole
    exact ⟨tail, (List.cons.inj whole).2, all⟩
  | cons later =>
    rw [← space_cons_joinWords, ← space_cons_joinWords] at whole
    exact ⟨tail, (List.cons.inj whole).2, all⟩

end Stopped

/-! ## Both normal forms -/

/-- A character that full stops behind words, spaced out, are made of. -/
def isStopOrSpace (c : Char) : Bool :=
  c == '.' || c == ' '

theorem isClosing_of_isStopOrSpace {c : Char} (closing : isStopOrSpace c = true) :
    isClosing c = true := by
  rcases Bool.or_eq_true_iff.mp closing with stop | space
  · exact Bool.or_eq_true_iff.mpr (Or.inr stop)
  · obtain rfl := beq_iff_eq.mp space
    decide

/-- The words of a normal form, joined, do not end in a full stop or a space. -/
theorem getLast?_joinWords_splitWords_normalize (sentence : String) :
    ∀ c ∈ (joinWords (splitWords (normalize sentence))).toList.getLast?,
      isStopOrSpace c = false := by
  intro c last
  by_cases empty : normalize sentence = ""
  · rw [splitWords, words_normalize_eq_nil_iff.mpr empty] at last
    contradiction
  · rw [getLast?_joinWords_splitWords (isTrimmed_normalize empty), toList_normalize] at last
    have kept := getLast?_dropEndWhile isClosing _ c last
    exact Bool.eq_false_iff.mpr fun closing =>
      Bool.eq_false_iff.mp kept (isClosing_of_isStopOrSpace closing)

/-- The words of the small form of a sentence are those of its normal form and full stops. -/
theorem stopped_splitWords_normalize (sentence : String) :
    Stopped (splitWords (normalize sentence)) (splitWords (lowercase sentence)) := by
  rcases lacksFront_dropWhile isBlank (lowercase sentence).toList with ⟨front, whole, blank, -⟩
  rcases lacksEnd_dropEndWhile isClosing ((lowercase sentence).toList.dropWhile isBlank) with
    ⟨tail, parts, closing, -⟩
  rw [← toList_normalize] at parts
  rw [splitWords, splitWords, words, words, whole, wordsFrom_blanks blank, parts]
  exact stopped_wordsFrom closing _ _ _

/-- **Both normal forms have the same words.**  Joined by single spaces, the words of the normal
form of a sentence are the normal form of the terminal with the same text, without its longest end
of full stops and spaces.  For it makes no difference whether a text is put in small form before it
is cut into words or after; and normal forms of terminals are left as they are. -/
theorem normal_forms_have_same_words (text : String) :
    LacksEnd isStopOrSpace (normalizeTerminal text).toList
        (joinWords (splitWords (normalize text))).toList ∧
      splitWords (lowercase text) = (splitWords text).map lowercase ∧
      normalizeTerminal (normalizeTerminal text) = normalizeTerminal text := by
  refine ⟨?_, splitWords_lowercase text, normalizeTerminal_normalizeTerminal text⟩
  rcases (stopped_splitWords_normalize text).toList_joinWords_eq with ⟨tail, whole, closing⟩
  have all : ∀ c ∈ tail, isStopOrSpace c = true := by
    intro c member
    simpa [isStopOrSpace] using closing c member
  have cut := lacksEnd_dropEndWhile isStopOrSpace (normalizeTerminal text).toList
  have rest : dropEndWhile isStopOrSpace (normalizeTerminal text).toList =
      (joinWords (splitWords (normalize text))).toList := by
    rw [normalizeTerminal, ← splitWords_lowercase, whole, dropEndWhile_append all,
      dropEndWhile_eq_self (getLast?_joinWords_splitWords_normalize text)]
  rwa [rest] at cut

end Cyk.Text
