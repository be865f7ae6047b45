import Cyk.Command.Run
import Cyk.Proofs.Text.Bytes

/-!
# Lines of an input

Sentences that are typed one to a line, with a line feed behind each or a carriage return and a line
feed, are the lines that are read.  A carriage return that ends a sentence of its own accord is
taken for a part of the line end, and no other character is lost.
-/

namespace Cyk.Command

open Text

/-- How a line ends. -/
inductive LineEnd where
  | lineFeed
  | returnAndLineFeed
deriving DecidableEq, Repr

namespace LineEnd

/-- What a line end has in front of its line feed. -/
def lead : LineEnd → String
  | lineFeed => ""
  | returnAndLineFeed => "\r"

/-- The characters of a line end. -/
def text (lineEnd : LineEnd) : String :=
  lineEnd.lead ++ "\n"

theorem isBlank_of_mem_lead {lineEnd : LineEnd} {c : Char} (member : c ∈ lineEnd.lead.toList) :
    isBlank c = true := by
  cases lineEnd with
  | lineFeed => simp [lead] at member
  | returnAndLineFeed =>
    obtain rfl : c = '\r' := by simpa [lead] using member
    decide

end LineEnd

/-- An input of some lines, each with its end. -/
def typed (lines : List (String × LineEnd)) : List UInt8 :=
  bytes (String.join (lines.map fun line => line.1 ++ line.2.text))

/-- What is read of a line. -/
def lineText (line : String × LineEnd) : String :=
  String.ofList (withoutLast '\r' (line.1 ++ line.2.lead).toList)

theorem typed_cons (line : String × LineEnd) (lines : List (String × LineEnd)) :
    typed (line :: lines) = bytes (line.1 ++ line.2.lead) ++ 10 :: typed lines := by
  have lineFeed : bytes "\n" = [10] := rfl
  rw [typed, List.map_cons, String.join_cons, bytes_append, LineEnd.text, ← String.append_assoc,
    bytes_append, lineFeed, typed, List.append_assoc, List.singleton_append]

/-! ## Reading lines -/

/-- The bytes before the first line feed are the first line, less a carriage return. -/
theorem inputLines_append {line : List UInt8} (unbroken : 10 ∉ line) (rest : List UInt8) :
    inputLines (line ++ 10 :: rest) = withoutLast 13 line :: inputLines rest := by
  induction line with
  | nil => simp [inputLines, withoutLast]
  | cons byte more ih =>
    rw [List.mem_cons, not_or] at unbroken
    have here : byte ≠ 10 := fun same => unbroken.1 same.symm
    rw [List.cons_append, inputLines, if_neg here, ih unbroken.2]
    cases more with
    | nil =>
      by_cases isReturn : byte = 13 <;> simp [withoutLast, isReturn]
    | cons next others =>
      have visible : next ≠ 10 := fun same => unbroken.2 (by simp [same])
      by_cases isReturn : (next :: others).getLast? = some 13 <;>
        simp [withoutLast, isReturn, visible]

theorem inputLines_typed {lines : List (String × LineEnd)}
    (unbroken : ∀ line ∈ lines, '\n' ∉ line.1.toList) :
    inputLines (typed lines) = lines.map fun line => bytes (lineText line) := by
  induction lines with
  | nil => rfl
  | cons line rest ih =>
    rcases List.forall_mem_cons.mp unbroken with ⟨here, others⟩
    have noFeed : 10 ∉ bytes (line.1 ++ line.2.lead) := by
      rw [lineFeed_mem_bytes_iff, String.toList_append, List.mem_append, not_or]
      refine ⟨here, ?_⟩
      cases line.2 <;> simp [LineEnd.lead]
    rw [typed_cons, inputLines_append noFeed, ih others, withoutLast_bytes, List.map_cons, lineText]

/-- Bytes of a text are decoded to the text. -/
theorem decode_bytes (text : String) : decode (bytes text) = .ok text := by
  have whole : (⟨(bytes text).toArray⟩ : ByteArray) = text.toByteArray := by
    rw [bytes, Array.toArray_toList]
    rfl
  rw [decode, whole, String.fromUTF8?, dif_pos text.isValidUTF8]
  rfl

theorem inputSentences_map_bytes (texts : List String) :
    inputSentences (texts.map bytes) = (texts.filter (!isBlankLine ·), none) := by
  induction texts with
  | nil => rfl
  | cons text rest ih =>
    rw [List.map_cons, inputSentences, decode_bytes]
    simp only [ih]
    by_cases blank : isBlankLine text = true <;> simp [blank]

/-- A line is read without blanks that it ends in. -/
theorem exists_append_lineText (line : String × LineEnd) :
    ∃ blanks : String, (∀ c ∈ blanks.toList, isBlank c = true) ∧
      line.1 ++ line.2.lead = lineText line ++ blanks := by
  rcases exists_append_withoutLast (show isBlank '\r' = true by decide)
    (line.1 ++ line.2.lead).toList with ⟨blanks, blank, whole⟩
  refine ⟨String.ofList blanks, by simpa using blank, ?_⟩
  have read : (lineText line).toList = withoutLast '\r' (line.1 ++ line.2.lead).toList :=
    String.toList_ofList
  apply String.toList_inj.mp
  rw [whole, ← read, String.toList_append, String.toList_ofList]

theorem isBlankLine_lineText {line : String × LineEnd}
    (visible : ∃ c ∈ line.1.toList, isBlank c = false) : isBlankLine (lineText line) = false := by
  rcases visible with ⟨c, member, visible⟩
  rcases exists_append_lineText line with ⟨blanks, blank, whole⟩
  have inRead : c ∈ (lineText line).toList := by
    have inLine : c ∈ (line.1 ++ line.2.lead).toList := by simp [member]
    rw [whole, String.toList_append, List.mem_append] at inLine
    apply inLine.resolve_right
    intro inBlanks
    simp [blank c inBlanks] at visible
  apply Bool.eq_false_iff.mpr
  intro allBlank
  simp [List.all_eq_true.mp allBlank c inRead] at visible

/-- **Lines are read as they were typed.** -/
theorem inputSentences_typed {lines : List (String × LineEnd)}
    (unbroken : ∀ line ∈ lines, '\n' ∉ line.1.toList)
    (visible : ∀ line ∈ lines, ∃ c ∈ line.1.toList, isBlank c = false) :
    inputSentences (inputLines (typed lines)) = (lines.map lineText, none) := by
  have kept : (lines.map lineText).filter (!isBlankLine ·) = lines.map lineText := by
    rw [List.filter_eq_self]
    intro text listed
    rcases List.mem_map.mp listed with ⟨line, member, rfl⟩
    simp [isBlankLine_lineText (visible line member)]
  have texts : lines.map (fun line => bytes (lineText line)) = (lines.map lineText).map bytes := by
    rw [List.map_map]
    rfl
  rw [inputLines_typed unbroken, texts, inputSentences_map_bytes, kept]

end Cyk.Command
