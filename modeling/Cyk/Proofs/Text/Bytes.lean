import Cyk.Text.Blank

/-!
# Texts as bytes

The bytes of a text, character by character.  A byte below 128 is a character of its own, so line
ends are found among the bytes of a text as they are among its characters.
-/

namespace Cyk.Text

/-- The bytes of a text. -/
def bytes (text : String) : List UInt8 :=
  text.toUTF8.data.toList

theorem bytes_eq_flatMap (text : String) :
    bytes text = text.toList.flatMap String.utf8EncodeChar := by
  have encoded : text.toUTF8 = text.toList.utf8Encode := String.utf8Encode_toList.symm
  rw [bytes, encoded, List.utf8Encode, List.toList_data_toByteArray]

theorem bytes_append (front back : String) : bytes (front ++ back) = bytes front ++ bytes back := by
  rw [bytes_eq_flatMap, String.toList_append, List.flatMap_append, ← bytes_eq_flatMap,
    ← bytes_eq_flatMap]

/-! ## Small bytes -/

/-- A byte with the mark of a longer character is not small. -/
theorem not_or_lt {byte mark : UInt8} (high : 128 ≤ mark) : ¬ byte ||| mark < 128 := by
  have marked : mark.toNat ≤ (byte ||| mark).toNat := by
    rw [UInt8.toNat_or]
    exact Nat.right_le_or
  rw [UInt8.le_iff_toNat_le] at high
  rw [UInt8.lt_iff_toNat_lt]
  omega

/-- A small byte of a character is its number. -/
theorem toNat_of_mem_utf8EncodeChar {c : Char} {byte : UInt8}
    (member : byte ∈ String.utf8EncodeChar c) (small : byte < 128) : c.toNat = byte.toNat := by
  rcases Char.utf8Size_eq c with one | two | three | four
  · rw [String.utf8EncodeChar_eq_singleton one] at member
    obtain rfl := List.mem_singleton.mp member
    have ascii : c.val ≤ 127 := Char.utf8Size_eq_one_iff.mp one
    have bound : c.val.toNat ≤ 127 := UInt32.le_iff_toNat_le.mp ascii
    rw [UInt32.toNat_toUInt8, Nat.mod_eq_of_lt (by omega)]
    rfl
  -- All bytes of longer characters are marked.
  · rw [String.utf8EncodeChar_eq_cons_cons two] at member
    simp only [List.mem_cons, List.not_mem_nil, or_false] at member
    rcases member with rfl | rfl <;> exact absurd small (not_or_lt (by decide))
  · rw [String.utf8EncodeChar_eq_cons_cons_cons three] at member
    simp only [List.mem_cons, List.not_mem_nil, or_false] at member
    rcases member with rfl | rfl | rfl <;> exact absurd small (not_or_lt (by decide))
  · rw [String.utf8EncodeChar_eq_cons_cons_cons_cons four] at member
    simp only [List.mem_cons, List.not_mem_nil, or_false] at member
    rcases member with rfl | rfl | rfl | rfl <;> exact absurd small (not_or_lt (by decide))

/-- A small byte stands for the one character that has its number. -/
theorem mem_utf8EncodeChar_iff (c : Char) {mark : Char} {byte : UInt8} (small : byte < 128)
    (encoded : String.utf8EncodeChar mark = [byte]) :
    byte ∈ String.utf8EncodeChar c ↔ c = mark := by
  have inMark : byte ∈ String.utf8EncodeChar mark := by simp [encoded]
  constructor
  · intro member
    have number := toNat_of_mem_utf8EncodeChar member small
    exact Char.toNat_inj.mp (number.trans (toNat_of_mem_utf8EncodeChar inMark small).symm)
  · rintro rfl
    exact inMark

theorem lineFeed_mem_utf8EncodeChar_iff (c : Char) : 10 ∈ String.utf8EncodeChar c ↔ c = '\n' :=
  mem_utf8EncodeChar_iff c (by decide) rfl

theorem return_mem_utf8EncodeChar_iff (c : Char) : 13 ∈ String.utf8EncodeChar c ↔ c = '\r' :=
  mem_utf8EncodeChar_iff c (by decide) rfl

theorem lineFeed_mem_bytes_iff {text : String} : 10 ∈ bytes text ↔ '\n' ∈ text.toList := by
  rw [bytes_eq_flatMap, List.mem_flatMap]
  constructor
  · rintro ⟨c, listed, member⟩
    exact (lineFeed_mem_utf8EncodeChar_iff c).mp member ▸ listed
  · intro listed
    exact ⟨'\n', listed, (lineFeed_mem_utf8EncodeChar_iff _).mpr rfl⟩

/-! ## Marks at the end -/

/-- A list without its last item, if that is a certain mark. -/
def withoutLast {α : Type} [DecidableEq α] (mark : α) (items : List α) : List α :=
  if items.getLast? = some mark then items.dropLast else items

/-- A carriage return at the end of a text is the last of its bytes. -/
theorem withoutLast_bytes (text : String) :
    withoutLast 13 (bytes text) = bytes (String.ofList (withoutLast '\r' text.toList)) := by
  rw [bytes_eq_flatMap, bytes_eq_flatMap, String.toList_ofList]
  rcases List.eq_nil_or_concat text.toList with none | ⟨front, c, split⟩
  · rw [none]
    rfl
  · rw [split, List.concat_eq_append, List.flatMap_append, List.flatMap_singleton]
    by_cases isReturn : c = '\r'
    · subst isReturn
      have encoded : String.utf8EncodeChar '\r' = [13] := rfl
      simp [withoutLast, encoded]
    · have other : (front.flatMap String.utf8EncodeChar ++ String.utf8EncodeChar c).getLast? ≠
          some 13 := by
        intro last
        rcases List.eq_nil_or_concat (String.utf8EncodeChar c) with empty | ⟨first, byte, whole⟩
        · exact absurd empty (by simp)
        · rw [whole, List.concat_eq_append, ← List.append_assoc, List.getLast?_concat] at last
          have member : 13 ∈ String.utf8EncodeChar c := by
            rw [whole, Option.some.inj last]
            simp
          exact isReturn ((return_mem_utf8EncodeChar_iff c).mp member)
      rw [withoutLast, if_neg other, withoutLast, if_neg (by simpa using isReturn),
        List.flatMap_append, List.flatMap_singleton]

/-- What is cut off is a blank, if the mark is one. -/
theorem exists_append_withoutLast {mark : Char} (blank : isBlank mark = true) (text : List Char) :
    ∃ blanks, (∀ c ∈ blanks, isBlank c = true) ∧ text = withoutLast mark text ++ blanks := by
  unfold withoutLast
  split
  · rename_i last
    rcases List.getLast?_eq_some_iff.mp last with ⟨front, rfl⟩
    exact ⟨[mark], by simpa using blank, by rw [List.dropLast_concat]⟩
  · exact ⟨[], by simp, (List.append_nil text).symm⟩

end Cyk.Text
