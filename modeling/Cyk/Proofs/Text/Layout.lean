import Cyk.Proofs.Text.Segments
import Cyk.Proofs.Text.Sentences

/-!
# Where tokens lie

A sentence in normal form is covered by its words, and by its tokens too: they lie in it one behind
the other, from the first character to the last, with nothing but blanks between them.
-/

namespace Cyk

namespace Text

/-- The first and the last character of a text are not blank. -/
structure IsTrimmed (text : List Char) : Prop where
  nonempty : text ≠ []
  begins : ∀ c ∈ text.head?, isBlank c = false
  ends : ∀ c ∈ text.getLast?, isBlank c = false

/-- Items that cover a text: each has a slice of it, and between the slices there are blanks.  The
text begins at an offset, and `liesAt` tells what it means that an item has a slice there. -/
inductive Laid {α : Type} (liesAt : Nat → List Char → α → Prop) : Nat → List Char → List α → Prop
  | one {offset : Nat} {slice : List Char} {item : α} (here : liesAt offset slice item) :
    Laid liesAt offset slice [item]
  | more {offset : Nat} {slice gap rest : List Char} {item : α} {items : List α}
    (here : liesAt offset slice item) (nonempty : gap ≠ []) (blank : ∀ c ∈ gap, isBlank c = true)
    (later : Laid liesAt (offset + byteLength slice + byteLength gap) rest items) :
    Laid liesAt offset (slice ++ (gap ++ rest)) (item :: items)

/-- A span is the place of a slice in a text: it begins and ends between characters. -/
def Span.Holds (span : Span) (text slice : List Char) : Prop :=
  ∃ front back, text = front ++ (slice ++ back) ∧
    span = ⟨byteLength front, byteLength front + byteLength slice⟩

namespace IsTrimmed

theorem of_isWord {word : String} (isWord : IsWord word) : IsTrimmed word.toList where
  nonempty := mt String.toList_eq_nil_iff.mp isWord.1
  begins c first := isWord.2 c (List.mem_of_head? first)
  ends c last := isWord.2 c (List.mem_of_getLast? last)

theorem append {front back : List Char} (before : IsTrimmed front) (after : IsTrimmed back)
    (gap : List Char) : IsTrimmed (front ++ (gap ++ back)) where
  nonempty := List.append_ne_nil_of_left_ne_nil before.nonempty _
  begins c first := by
    rcases List.exists_cons_of_ne_nil before.nonempty with ⟨d, rest, rfl⟩
    exact before.begins c first
  ends c last := by
    rw [List.getLast?_append, List.getLast?_append] at last
    cases ending : back.getLast? with
    | none => exact absurd (List.getLast?_eq_none_iff.mp ending) after.nonempty
    | some d =>
      rw [ending] at last
      exact after.ends c (ending.trans last)

end IsTrimmed

/-! ## Parts of a layout -/

namespace Laid

variable {α β : Type} {liesAt : Nat → List Char → α → Prop} {offset : Nat} {text : List Char}
  {item : α} {items : List α}

theorem cons_iff :
    Laid liesAt offset text (item :: items) ↔
      (items = [] ∧ liesAt offset text item) ∨
        ∃ slice gap rest, text = slice ++ (gap ++ rest) ∧ liesAt offset slice item ∧ gap ≠ [] ∧
          (∀ c ∈ gap, isBlank c = true) ∧
            Laid liesAt (offset + byteLength slice + byteLength gap) rest items := by
  constructor
  · intro laid
    cases laid with
    | one here => exact Or.inl ⟨rfl, here⟩
    | more here nonempty blank later => exact Or.inr ⟨_, _, _, rfl, here, nonempty, blank, later⟩
  · rintro (⟨rfl, here⟩ | ⟨slice, gap, rest, rfl, here, nonempty, blank, later⟩)
    · exact .one here
    · exact .more here nonempty blank later

theorem ne_nil (laid : Laid liesAt offset text items) : items ≠ [] := by
  cases laid with
  | one _ => exact List.cons_ne_nil _ _
  | more _ _ _ _ => exact List.cons_ne_nil _ _

/-- Items that are not the last ones can be split off, with the blanks behind them. -/
theorem split {front back : List α} (laid : Laid liesAt offset text (front ++ back))
    (before : front ≠ []) (after : back ≠ []) :
    ∃ slice gap rest, text = slice ++ (gap ++ rest) ∧ Laid liesAt offset slice front ∧ gap ≠ [] ∧
      (∀ c ∈ gap, isBlank c = true) ∧
        Laid liesAt (offset + byteLength slice + byteLength gap) rest back := by
  induction front generalizing offset text with
  | nil => contradiction
  | cons first front ih =>
    rcases cons_iff.mp laid with
      ⟨last, -⟩ | ⟨slice, gap, rest, rfl, here, nonempty, blank, later⟩
    · exact absurd (List.append_eq_nil_iff.mp last).2 after
    · by_cases alone : front = []
      · subst alone
        exact ⟨slice, gap, rest, rfl, .one here, nonempty, blank, later⟩
      · rcases ih later alone with ⟨others, gap', rest, rfl, laid', nonempty', blank', later'⟩
        refine ⟨slice ++ (gap ++ others), gap', rest, by simp, .more here nonempty blank laid',
          nonempty', blank', ?_⟩
        simpa [Nat.add_assoc] using later'

/-- From an item on, the others cover the rest of the text. -/
theorem drop {before : List α} (laid : Laid liesAt offset text (before ++ item :: items)) :
    ∃ front rest, text = front ++ rest ∧
      Laid liesAt (offset + byteLength front) rest (item :: items) := by
  by_cases first : before = []
  · subst first
    exact ⟨[], text, rfl, laid⟩
  · rcases laid.split first (List.cons_ne_nil _ _) with ⟨slice, gap, rest, rfl, -, -, -, later⟩
    refine ⟨slice ++ gap, rest, (List.append_assoc _ _ _).symm, ?_⟩
    rwa [byteLength_append, ← Nat.add_assoc]

/-- The first item has a slice at the beginning. -/
theorem head (laid : Laid liesAt offset text (item :: items)) :
    ∃ slice back, text = slice ++ back ∧ liesAt offset slice item := by
  cases laid with
  | one here => exact ⟨text, [], (List.append_nil _).symm, here⟩
  | more here _ _ _ => exact ⟨_, _, rfl, here⟩

/-- The last item has a slice at the end. -/
theorem last {before : List α} (laid : Laid liesAt offset text (before ++ [item])) :
    ∃ front slice, text = front ++ slice ∧ liesAt (offset + byteLength front) slice item := by
  rcases laid.drop with ⟨front, rest, rfl, here⟩
  rcases cons_iff.mp here with ⟨-, here⟩ | ⟨_, _, _, -, -, -, -, later⟩
  · exact ⟨front, rest, rfl, here⟩
  · exact absurd rfl later.ne_nil

theorem exists_slice (laid : Laid liesAt offset text items) (member : item ∈ items) :
    ∃ front slice back, text = front ++ (slice ++ back) ∧
      liesAt (offset + byteLength front) slice item := by
  rcases List.append_of_mem member with ⟨before, after, rfl⟩
  rcases laid.drop with ⟨front, rest, rfl, others⟩
  rcases others.head with ⟨slice, back, rfl, here⟩
  exact ⟨front, slice, back, rfl, here⟩

/-- Neighbours have slices with a gap between them. -/
theorem exists_gap {next : α} {before : List α}
    (laid : Laid liesAt offset text (before ++ item :: next :: items)) :
    ∃ front slice gap slice' back, text = front ++ (slice ++ (gap ++ (slice' ++ back))) ∧
      liesAt (offset + byteLength front) slice item ∧ gap ≠ [] ∧ (∀ c ∈ gap, isBlank c = true) ∧
        liesAt (offset + byteLength front + byteLength slice + byteLength gap) slice' next := by
  rcases laid.drop with ⟨front, rest, rfl, others⟩
  rcases cons_iff.mp others with ⟨none, -⟩ | ⟨slice, gap, rest, rfl, here, nonempty, blank, later⟩
  · contradiction
  · rcases later.head with ⟨slice', back, rfl, there⟩
    exact ⟨front, slice, gap, slice', back, rfl, here, nonempty, blank, there⟩

theorem mapIdx {liesAt' : Nat → List Char → β → Prop} {become : Nat → α → β}
    (kept : ∀ index offset slice item, liesAt offset slice item →
      liesAt' offset slice (become index item))
    (laid : Laid liesAt offset text items) : Laid liesAt' offset text (items.mapIdx become) := by
  induction laid generalizing become with
  | one here => exact .one (kept 0 _ _ _ here)
  | more here nonempty blank _ ih =>
    rw [List.mapIdx_cons]
    exact .more (kept 0 _ _ _ here) nonempty blank (ih fun index => kept (index + 1))

end Laid

/-! ## Words -/

/-- A word has a slice that is its text. -/
structure Word.LiesAt (offset : Nat) (slice : List Char) (word : Word) : Prop where
  isWord : IsWord word.text
  letters : word.text.toList = slice
  span_eq : word.span = ⟨offset, offset + byteLength slice⟩

theorem wordsFrom_blanks {gap : List Char} (blank : ∀ c ∈ gap, isBlank c = true)
    (rest : List Char) (offset : Nat) :
    wordsFrom offset (gap ++ rest) = wordsFrom (offset + byteLength gap) rest := by
  induction gap generalizing offset with
  | nil => rfl
  | cons c gap ih =>
    rcases List.forall_mem_cons.mp blank with ⟨here, others⟩
    rw [List.cons_append, wordsFrom, if_pos here, ih others, byteLength_cons, Nat.add_assoc]

/-- A trimmed text begins with a word. -/
theorem IsTrimmed.exists_word {text : List Char} (trimmed : IsTrimmed text) :
    ∃ word rest, text = String.toList word ++ rest ∧ IsWord word ∧
      ∀ c ∈ rest.head?, isBlank c = true := by
  refine ⟨String.ofList (text.takeWhile (!isBlank ·)), text.dropWhile (!isBlank ·), ?_, ⟨?_, ?_⟩,
    isBlank_of_head?_dropWhile text⟩
  · rw [String.toList_ofList, List.takeWhile_append_dropWhile]
  · rcases List.exists_cons_of_ne_nil trimmed.nonempty with ⟨c, rest, rfl⟩
    have visible := trimmed.begins c rfl
    simp [visible]
  · rw [String.toList_ofList]
    intro c member
    simpa using List.all_eq_true.mp List.all_takeWhile c member

/-- Behind a word of a trimmed text there is a gap, and then a trimmed text again. -/
theorem IsTrimmed.exists_gap {front rest : List Char} (trimmed : IsTrimmed (front ++ rest))
    (stops : ∀ c ∈ rest.head?, isBlank c = true) (nonempty : rest ≠ []) :
    ∃ gap tail, rest = gap ++ tail ∧ gap ≠ [] ∧ (∀ c ∈ gap, isBlank c = true) ∧
      IsTrimmed tail := by
  have whole := List.takeWhile_append_dropWhile (p := isBlank) (l := rest)
  have blank : ∀ c ∈ rest.takeWhile isBlank, isBlank c = true :=
    fun c member => List.all_eq_true.mp List.all_takeWhile c member
  have ending : ∀ c ∈ rest.getLast?, isBlank c = false := by
    intro c last
    apply trimmed.ends
    rw [List.getLast?_append, Option.mem_def.mp last]
    rfl
  refine ⟨rest.takeWhile isBlank, rest.dropWhile isBlank, whole.symm, ?_, blank, ?_, ?_, ?_⟩
  · rcases List.exists_cons_of_ne_nil nonempty with ⟨c, others, rfl⟩
    simp [stops c rfl]
  · intro none
    have last := List.getLast?_eq_some_getLast nonempty
    rw [none, List.append_nil] at whole
    rw [whole] at blank
    exact absurd (blank _ (List.mem_of_getLast? last)) (Bool.eq_false_iff.mp (ending _ last))
  · intro c first
    have visible := List.head?_dropWhile_not isBlank rest
    rw [first] at visible
    simpa using visible
  · intro c last
    apply ending
    rw [← whole, List.getLast?_append, Option.mem_def.mp last]
    rfl

/-- A trimmed text is covered by its words. -/
theorem laid_wordsFrom {text : List Char} (trimmed : IsTrimmed text) (offset : Nat) :
    Laid Word.LiesAt offset text (wordsFrom offset text) := by
  rcases trimmed.exists_word with ⟨word, rest, whole, isWord, stops⟩
  have here : Word.LiesAt offset word.toList ⟨word, ⟨offset, offset + byteLength word.toList⟩⟩ :=
    ⟨isWord, rfl, rfl⟩
  rw [whole, wordsFrom_append isWord stops]
  by_cases alone : rest = []
  · subst alone
    rw [List.append_nil, wordsFrom]
    exact .one here
  · rcases (whole ▸ trimmed).exists_gap stops alone with
      ⟨gap, tail, behind, nonempty, blank, trimmed'⟩
    rw [behind, wordsFrom_blanks blank]
    exact .more here nonempty blank (laid_wordsFrom trimmed' _)
termination_by text.length
decreasing_by
  have shorter := List.length_pos_iff.mpr nonempty
  rw [whole, behind, List.length_append, List.length_append]
  omega

section Words

variable {text : List Char} {offset : Nat} {words : List Word}

theorem Laid.isTrimmed (laid : Laid Word.LiesAt offset text words) : IsTrimmed text := by
  induction laid with
  | one here => exact here.letters ▸ .of_isWord here.isWord
  | more here _ _ _ ih => exact .append (here.letters ▸ .of_isWord here.isWord) ih _

/-- Cutting a text that is covered by words gives these words, from wherever it begins. -/
theorem Laid.map_text_wordsFrom (laid : Laid Word.LiesAt offset text words) (offset' : Nat) :
    (wordsFrom offset' text).map Word.text = words.map Word.text := by
  induction laid generalizing offset' with
  | @one _ _ word here =>
    have alone := map_text_wordsFrom_joinWords (List.forall_mem_singleton.mpr here.isWord) offset'
    rwa [joinWords_singleton, here.letters] at alone
  | @more _ slice gap rest word _ here nonempty blank _ ih =>
    have stops : ∀ c ∈ (gap ++ rest).head?, isBlank c = true := by
      intro c first
      rcases List.exists_cons_of_ne_nil nonempty with ⟨d, others, rfl⟩
      exact blank c (List.mem_of_head? first)
    rw [← here.letters, wordsFrom_append here.isWord stops, wordsFrom_blanks blank, List.map_cons,
      ih, List.map_cons]

theorem Laid.start_eq {first : Word} {more : List Word}
    (laid : Laid Word.LiesAt offset text (first :: more)) : first.span.start = offset := by
  rcases laid.head with ⟨slice, back, -, here⟩
  rw [here.span_eq]

theorem Laid.stop_eq {first : Word} {more : List Word}
    (laid : Laid Word.LiesAt offset text (first :: more)) :
    (more.getLast?.getD first).span.stop = offset + byteLength text := by
  induction more generalizing first offset text with
  | nil =>
    rcases Laid.cons_iff.mp laid with ⟨-, here⟩ | ⟨_, _, _, -, -, -, -, later⟩
    · exact congrArg Span.stop here.span_eq
    · exact absurd rfl later.ne_nil
  | cons next more ih =>
    rcases Laid.cons_iff.mp laid with ⟨none, -⟩ | ⟨slice, gap, rest, rfl, -, -, -, later⟩
    · contradiction
    · rw [List.getLast?_cons, Option.getD_some, ih later, byteLength_append, byteLength_append,
        Nat.add_assoc, Nat.add_assoc]

end Words

/-- A sentence in normal form is trimmed, unless nothing is left of it. -/
theorem isTrimmed_normalize {sentence : String} (filled : normalize sentence ≠ "") :
    IsTrimmed (normalize sentence).toList where
  nonempty := mt String.toList_eq_nil_iff.mp filled
  begins c first := by
    rcases normalize_isPrefix sentence with ⟨lost, whole⟩
    have visible := List.head?_dropWhile_not isBlank (lowercase sentence).toList
    rw [← whole, List.head?_append, Option.mem_def.mp first] at visible
    exact visible
  ends c last := by
    rw [toList_normalize] at last
    have kept := getLast?_dropEndWhile isClosing _ c last
    exact (Bool.or_eq_false_iff.mp kept).1

end Text

open Text

/-! ## Tokens -/

/-- A segment has the slice that its words cover. -/
def Segment.LiesAt (offset : Nat) (slice : List Char) (segment : Segment) : Prop :=
  Laid Word.LiesAt offset slice segment.words

/-- A token has a slice that is its text once every gap between words is a single space. -/
structure Token.LiesAt (offset : Nat) (slice : List Char) (token : Token) : Prop where
  trimmed : IsTrimmed slice
  text_eq : token.text = joinWords (splitWords (String.ofList slice))
  span_eq : token.span = ⟨offset, offset + byteLength slice⟩

theorem Segment.LiesAt.token {offset : Nat} {slice : List Char} {segment : Segment}
    (here : segment.LiesAt offset slice) (position : Nat) :
    (segment.token position).LiesAt offset slice where
  trimmed := here.isTrimmed
  text_eq := by
    have words := here.map_text_wordsFrom 0
    rw [splitWords, Text.words, String.toList_ofList, words]
    rfl
  span_eq := by
    have start : segment.first.span.start = offset := here.start_eq
    have stop : segment.last.span.stop = offset + byteLength slice := here.stop_eq
    rw [Segment.token, start, stop]

/-- Tokens that cover a text ascend in it. -/
theorem Token.pairwise_of_laid {offset : Nat} {text : List Char} {tokens : List Token}
    (laid : Laid Token.LiesAt offset text tokens) :
    tokens.Pairwise fun token later =>
      token.span.start < token.span.stop ∧ token.span.stop < later.span.start := by
  induction laid with
  | one _ => exact List.pairwise_singleton _ _
  | more here nonempty _ later ih =>
    refine List.pairwise_cons.mpr ⟨fun other member => ?_, ih⟩
    rcases later.exists_slice member with ⟨front, _, _, -, there⟩
    have wide := byteLength_pos here.trimmed.nonempty
    have apart := byteLength_pos nonempty
    rw [here.span_eq, there.span_eq]
    constructor
    · exact Nat.lt_add_of_pos_right wide
    · exact Nat.lt_of_lt_of_le (Nat.lt_add_of_pos_right apart) (Nat.le_add_right _ _)

namespace Tokenizer

/-- What words cover is covered by their segments. -/
theorem laid_segments (tokenizer : Tokenizer) {offset : Nat} {text : List Char} {words : List Word}
    (laid : Laid Word.LiesAt offset text words) :
    Laid Segment.LiesAt offset text (tokenizer.segments words) := by
  fun_induction tokenizer.segments words generalizing offset text with
  | case1 => exact absurd rfl laid.ne_nil
  | @case2 first rest extent ih =>
    rw [← List.take_append_drop extent rest, ← List.cons_append] at laid
    by_cases last : rest.drop extent = []
    · rw [last, List.append_nil] at laid
      rw [last, segments]
      exact .one laid
    · rcases laid.split (List.cons_ne_nil _ _) last with
        ⟨slice, gap, others, rfl, here, nonempty, blank, later⟩
      exact .more here nonempty blank (ih later)

/-- A sentence in normal form is covered by its tokens. -/
theorem laid_tokenize {tokenizer : Tokenizer} {sentence : String}
    (filled : tokenizer.tokenize sentence ≠ []) :
    Laid Token.LiesAt 0 (normalize sentence).toList (tokenizer.tokenize sentence) := by
  have trimmed := isTrimmed_normalize (mt tokenize_eq_nil_iff.mpr filled)
  exact (tokenizer.laid_segments (laid_wordsFrom trimmed 0)).mapIdx fun index _ _ _ here =>
    here.token (index + 1)

/-- The only blanks in a token are spaces. -/
theorem eq_space_of_mem_text {tokenizer : Tokenizer} {sentence : String} {token : Token} {c : Char}
    (member : token ∈ tokenizer.tokenize sentence) (letter : c ∈ token.text.toList)
    (blank : isBlank c = true) : c = ' ' := by
  rcases (laid_tokenize (List.ne_nil_of_mem member)).exists_slice member with ⟨_, _, _, _, here⟩
  rw [here.text_eq] at letter
  rcases mem_toList_joinWords letter with space | ⟨word, inWords, inWord⟩
  · exact space
  · have visible := (isWord_of_mem_splitWords inWords).2 c inWord
    exact absurd blank (Bool.eq_false_iff.mp visible)

end Tokenizer

end Cyk
