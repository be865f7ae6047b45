import Cyk.Proofs.Text.Blanks
import Cyk.Proofs.Text.Layout
import Mathlib.Logic.Function.Iterate

/-!
# What a normal form leaves out

Full stops and blanks are dropped from a sentence in rounds, until a round changes nothing.  What is
left is the small form without its longest row of blanks in front and then without its longest row
of blanks and full stops behind; so more of these around a sentence make no difference.
-/

namespace Cyk

namespace Text

/-! ## Longest beginnings and ends -/

/-- What is left of a text when its longest beginning of characters in a class is cut off. -/
def LacksFront (inClass : Char → Bool) (text rest : List Char) : Prop :=
  ∃ front, text = front ++ rest ∧ (∀ c ∈ front, inClass c = true) ∧
    ∀ other, other <+: text → (∀ c ∈ other, inClass c = true) → other <+: front

/-- What is left of a text when its longest end of characters in a class is cut off. -/
def LacksEnd (inClass : Char → Bool) (text rest : List Char) : Prop :=
  ∃ tail, text = rest ++ tail ∧ (∀ c ∈ tail, inClass c = true) ∧
    ∀ other, other <:+ text → (∀ c ∈ other, inClass c = true) → other <:+ tail

theorem lacksFront_dropWhile (inClass : Char → Bool) (text : List Char) :
    LacksFront inClass text (text.dropWhile inClass) := by
  refine ⟨text.takeWhile inClass, List.takeWhile_append_dropWhile.symm, ?_, ?_⟩
  · intro c member
    exact List.all_eq_true.mp List.all_takeWhile c member
  · rintro other ⟨more, rfl⟩ all
    rw [List.takeWhile_append_of_pos all]
    exact List.prefix_append _ _

theorem LacksFront.reverse {inClass : Char → Bool} {text rest : List Char}
    (lacks : LacksFront inClass text rest) : LacksEnd inClass text.reverse rest.reverse := by
  rcases lacks with ⟨front, rfl, all, longest⟩
  refine ⟨front.reverse, List.reverse_append, ?_, ?_⟩
  · intro c member
    exact all c (List.mem_reverse.mp member)
  · intro other isSuffix others
    have inFront : other.reverse <+: front := by
      apply longest
      · exact List.reverse_suffix.mp (by rwa [List.reverse_reverse])
      · intro c member
        exact others c (List.mem_reverse.mp member)
    exact List.reverse_prefix.mp (by rwa [List.reverse_reverse])

theorem lacksEnd_dropEndWhile (inClass : Char → Bool) (text : List Char) :
    LacksEnd inClass text (dropEndWhile inClass text) := by
  have lacks := (lacksFront_dropWhile inClass text.reverse).reverse
  rwa [List.reverse_reverse] at lacks

/-! ## Rounds -/

/-- Full stops are dropped in rounds.  Each but the last shortens the text, and the last changes
nothing. -/
theorem exists_rounds_dropAllStops (text : List Char) :
    ∃ rounds, dropAllStops text = dropStops^[rounds] text ∧
      (∀ round < rounds, dropStops^[round + 1] text ≠ dropStops^[round] text) ∧
        dropStops^[rounds + 1] text = dropStops^[rounds] text := by
  induction text using dropAllStops.induct with
  | case1 text shorter ih =>
    rcases ih with ⟨rounds, result, changes, stays⟩
    refine ⟨rounds + 1, ?_, ?_, stays⟩
    · rw [dropAllStops, if_pos shorter, result]
      rfl
    · intro round before
      cases round with
      | zero =>
        intro same
        have length_eq := congrArg List.length same
        exact Nat.ne_of_lt shorter length_eq
      | succ round => exact changes round (Nat.lt_of_succ_lt_succ before)
  | case2 text done =>
    have unchanged : dropStops text = text :=
      (dropStops_isPrefix text).eq_of_length_le (Nat.not_lt.mp done)
    refine ⟨0, ?_, ?_, unchanged⟩
    · rw [dropAllStops, if_neg done]
      rfl
    · intro round before
      contradiction

/-! ## Normal forms of normal forms -/

/-- The normal form of a sentence is its own normal form. -/
theorem normalize_normalize (sentence : String) :
    normalize (normalize sentence) = normalize sentence := by
  apply normalize_eq_self
  · rw [lowercase_eq_self_iff]
    exact fun c => isSmall_of_mem_normalize
  · intro c first
    have filled : normalize sentence ≠ "" := by
      intro empty
      simp [empty] at first
    exact (isTrimmed_normalize filled).begins c first
  · rw [toList_normalize]
    exact getLast?_dropEndWhile isClosing _

end Text

open Text

/-- **What is normal about a normal form.**  Dropping full stops comes to an end, and the normal
form of a sentence is its small form without the longest row of blanks in front and the longest row
of blanks and full stops behind what is left.  It is its own normal form, and blanks around a
sentence, with full stops between those behind it, change neither the normal form nor any token. -/
theorem normal_form_lacks_blanks_and_stops (sentence : String) :
    (∃ rounds, (normalize sentence).toList =
        dropStops^[rounds] (trim (lowercase sentence).toList) ∧
      (∀ round < rounds, dropStops^[round + 1] (trim (lowercase sentence).toList) ≠
        dropStops^[round] (trim (lowercase sentence).toList)) ∧
      dropStops (normalize sentence).toList = (normalize sentence).toList) ∧
    (∃ rest, LacksFront isBlank (lowercase sentence).toList rest ∧
      LacksEnd isClosing rest (normalize sentence).toList) ∧
    normalize (normalize sentence) = normalize sentence ∧
    ∀ front tail : String, (∀ c ∈ front.toList, isBlank c = true) →
      (∀ c ∈ tail.toList, isBlank c = true ∨ c = '.') →
        normalize (front ++ sentence ++ tail) = normalize sentence ∧
          ∀ tokenizer : Tokenizer,
            tokenizer.tokenize (front ++ sentence ++ tail) = tokenizer.tokenize sentence := by
  refine ⟨?_, ?_, normalize_normalize sentence, ?_⟩
  · rcases exists_rounds_dropAllStops (trim (lowercase sentence).toList) with
      ⟨rounds, result, changes, stays⟩
    have normal : (normalize sentence).toList =
        dropStops^[rounds] (trim (lowercase sentence).toList) := by
      rw [Text.normalize, String.toList_ofList, result]
    refine ⟨rounds, normal, changes, ?_⟩
    rwa [normal, ← Function.iterate_succ_apply' dropStops]
  · refine ⟨_, lacksFront_dropWhile isBlank _, ?_⟩
    rw [toList_normalize]
    exact lacksEnd_dropEndWhile isClosing _
  · intro front tail blank closing
    have same : normalize (front ++ sentence ++ tail) = normalize sentence := by
      rw [normalize_append_closing fun c member => by simpa [isClosing] using closing c member,
        normalize_blanks_append blank]
    refine ⟨same, fun tokenizer => ?_⟩
    rw [Tokenizer.tokenize, same, Tokenizer.tokenize]

/-- A capital sigma that ends a word, behind a blank of three bytes and in front of stops and
blanks. -/
theorem normal_form_lacks_blanks_and_stops_of_sigma :
    (∀ c ∈ "\u3000\t".toList, isBlank c = true) ∧
      (∀ c ∈ ". \u00a0..\n".toList, isBlank c = true ∨ c = '.') ∧
      normalize "ΛΟΓΟΣ ΛΟΓΟΣ" = "λογος λογος" ∧
      normalize "\u3000\tΛΟΓΟΣ ΛΟΓΟΣ. \u00a0..\n" = "λογος λογος" ∧
      (Tokenizer.ofPhrases ["λογος λογος"]).tokenize "\u3000\tΛΟΓΟΣ ΛΟΓΟΣ. \u00a0..\n" =
        [⟨"λογος λογος", 1, ⟨0, 21⟩⟩] := by
  have blank : ∀ c ∈ "\u3000\t".toList, isBlank c = true := List.all_eq_true.mp (by decide)
  have closing : ∀ c ∈ ". \u00a0..\n".toList, isBlank c = true ∨ c = '.' := by
    have all : ". \u00a0..\n".toList.all isClosing = true := by decide
    simpa [isClosing] using List.all_eq_true.mp all
  have normal : normalize "ΛΟΓΟΣ ΛΟΓΟΣ" = "λογος λογος" := by decide +kernel
  have tokens : (Tokenizer.ofPhrases ["λογος λογος"]).tokenize "ΛΟΓΟΣ ΛΟΓΟΣ" =
      [⟨"λογος λογος", 1, ⟨0, 21⟩⟩] := by
    decide +kernel
  rcases normal_form_lacks_blanks_and_stops "ΛΟΓΟΣ ΛΟΓΟΣ" with ⟨-, -, -, surrounded⟩
  rcases surrounded "\u3000\t" ". \u00a0..\n" blank closing with ⟨same, sameTokens⟩
  exact ⟨blank, closing, normal, same.trans normal, (sameTokens _).trans tokens⟩

end Cyk
