import Cyk.Grammar.Phrases
import Cyk.Proofs.Text.Terminals

/-!
# The order of phrases

Phrases are compared by their words, then by their characters, and then by their code points.  No
two phrases are equal in all three, so sorting has only one result, wherever the phrases come from.
-/

namespace Cyk.Phrases

open Text

/-- A phrase goes before another if it has more words, or as many words and more characters, or as
many of both and comes first in the order of code points. -/
def Precedes (phrase other : String) : Prop :=
  (splitWords other).length < (splitWords phrase).length ∨
    (splitWords phrase).length = (splitWords other).length ∧
      (other.length < phrase.length ∨ phrase.length = other.length ∧ phrase < other)

/-! ## Comparing -/

theorem comesBefore_iff {phrase other : String} :
    comesBefore phrase other = true ↔
      spaces other < spaces phrase ∨
        spaces phrase = spaces other ∧
          (other.length < phrase.length ∨ phrase.length = other.length ∧ phrase ≤ other) := by
  unfold comesBefore
  split
  · rename_i different
    rw [decide_eq_true_eq]
    omega
  · rename_i same
    split
    · rename_i different
      rw [decide_eq_true_eq]
      omega
    · rename_i alike
      rw [Bool.not_eq_true', decide_eq_false_iff_not, String.not_lt]
      grind

theorem comesBefore_trans (first second third : String) (before : comesBefore first second = true)
    (after : comesBefore second third = true) : comesBefore first third = true := by
  rw [comesBefore_iff] at before after ⊢
  have order : first ≤ second → second ≤ third → first ≤ third := String.le_trans
  grind

theorem comesBefore_total (first second : String) :
    (comesBefore first second || comesBefore second first) = true := by
  rw [Bool.or_eq_true, comesBefore_iff, comesBefore_iff]
  have order : first ≤ second ∨ second ≤ first := String.le_total first second
  grind

theorem comesBefore_antisymm {first second : String} (before : comesBefore first second = true)
    (after : comesBefore second first = true) : first = second := by
  rw [comesBefore_iff] at before after
  have order : first ≤ second ∧ second ≤ first := by grind
  exact String.le_antisymm order.1 order.2

/-! ## Sorting -/

theorem longestFirst_perm (terminals : List String) :
    (longestFirst terminals).Perm (terminals.filter (·.toList.contains ' ')) :=
  List.mergeSort_perm _ _

theorem longestFirst_pairwise (terminals : List String) :
    (longestFirst terminals).Pairwise (comesBefore · · = true) :=
  List.pairwise_mergeSort comesBefore_trans comesBefore_total _

/-- There is only one way to sort terminals. -/
theorem longestFirst_eq {terminals sorted : List String}
    (same : sorted.Perm (terminals.filter (·.toList.contains ' ')))
    (ordered : sorted.Pairwise (comesBefore · · = true)) : longestFirst terminals = sorted := by
  apply List.Perm.eq_of_pairwise (fun _ _ _ _ => comesBefore_antisymm)
    (longestFirst_pairwise terminals) ordered
  exact (longestFirst_perm terminals).trans same.symm

/-- The order in which the terminals are given makes no difference. -/
theorem longestFirst_eq_of_perm {terminals others : List String} (same : terminals.Perm others) :
    longestFirst terminals = longestFirst others :=
  longestFirst_eq ((longestFirst_perm others).trans (same.filter _).symm)
    (longestFirst_pairwise others)

theorem nodup_longestFirst {terminals : List String} (distinct : terminals.Nodup) :
    (longestFirst terminals).Nodup :=
  (longestFirst_perm terminals).nodup_iff.mpr (distinct.filter _)

/-! ## Words of terminals -/

theorem spaces_append (front back : List Char) :
    (front ++ ' ' :: back).count ' ' = front.count ' ' + (back.count ' ' + 1) := by
  rw [List.count_append, List.count_cons_self]

theorem spaces_of_isWord {word : String} (isWord : IsWord word) : spaces word = 0 := by
  apply List.count_eq_zero.mpr
  intro member
  have visible := isWord.2 ' ' member
  exact absurd visible (by decide)

/-- There is a space between any two neighbouring words, and nowhere else. -/
theorem spaces_joinWords {parts : List String} (all : ∀ part ∈ parts, IsWord part)
    (nonempty : parts ≠ []) : spaces (joinWords parts) + 1 = parts.length := by
  induction parts with
  | nil => exact absurd rfl nonempty
  | cons part rest ih =>
    rcases List.forall_mem_cons.mp all with ⟨here, others⟩
    have none : part.toList.count ' ' = 0 := spaces_of_isWord here
    cases rest with
    | nil =>
      rw [joinWords_singleton, spaces, none]
      rfl
    | cons next rest =>
      have more := ih others (by simp)
      rw [spaces, toList_joinWords_cons_cons, spaces_append, none, List.length_cons, ← more, spaces]
      omega

theorem spaces_add_one {terminal : String} (normal : IsNormalTerminal terminal) :
    spaces terminal + 1 = (splitWords terminal).length := by
  have joined := spaces_joinWords (fun _ => isWord_of_mem_splitWords) normal.splitWords_ne_nil
  rwa [normal.joinWords_splitWords] at joined

/-- Of terminals in normal form, the phrases are those of more than one word. -/
theorem mem_longestFirst {terminals : List String}
    (normal : ∀ terminal ∈ terminals, IsNormalTerminal terminal) {phrase : String} :
    phrase ∈ longestFirst terminals ↔ phrase ∈ terminals ∧ 1 < (splitWords phrase).length := by
  rw [(longestFirst_perm terminals).mem_iff, List.mem_filter]
  apply and_congr_right
  intro member
  rw [← spaces_add_one (normal phrase member), List.contains_iff_mem, ← List.count_pos_iff, spaces]
  omega

/-- Phrases that are all different are sorted strictly. -/
theorem pairwise_precedes {terminals : List String}
    (normal : ∀ terminal ∈ terminals, IsNormalTerminal terminal) (distinct : terminals.Nodup) :
    (longestFirst terminals).Pairwise Precedes := by
  have sorted := (longestFirst_pairwise terminals).and (nodup_longestFirst distinct)
  refine sorted.imp_of_mem ?_
  rintro phrase other member member' ⟨before, different⟩
  have words := spaces_add_one (normal _ ((mem_longestFirst normal).mp member).1)
  have words' := spaces_add_one (normal _ ((mem_longestFirst normal).mp member').1)
  have strict : phrase ≤ other → phrase < other := fun atMost =>
    String.not_le.mp fun atLeast => different (String.le_antisymm atMost atLeast)
  rw [comesBefore_iff] at before
  unfold Precedes
  grind

end Cyk.Phrases
