import Cyk.Command.Options
import Cyk.Proofs.Outcome

/-!
# Sentences behind two dashes

Two dashes end the options: what comes behind them is a sentence, whatever it looks like.  So the
options that some arguments ask for are those that they ask for with sentences behind them.
-/

namespace Cyk.Command

open Outcome

namespace Progress

variable {progress next : Progress}

/-! ## What one argument leaves alone -/

theorem assign_eq_ok {setting : Setting} {value : String}
    (assigned : progress.assign setting value = .ok next) :
    next = { progress with options := next.options } := by
  unfold assign at assigned
  split at assigned
  · split at assigned
    · contradiction
    · split at assigned
      · contradiction
      · rw [← Except.ok.inj assigned]
  · split at assigned
    · contradiction
    · rw [← Except.ok.inj assigned]

/-- When a setting is settled, nothing is open. -/
theorem settle_eq_ok (settled : progress.settle = .ok next) :
    next = { progress with options := next.options, pending := none } := by
  unfold settle at settled
  split at settled
  · rename_i none
    rw [← Except.ok.inj settled, ← none]
  · contradiction
  · exact assign_eq_ok settled

theorem settle_of_pending (settled : progress.pending = none) : progress.settle = .ok progress := by
  rw [settle, settled]

theorem sentence_eq_ok {argument : String} (taken : progress.sentence argument = .ok next) :
    next.sentencesOnly = progress.sentencesOnly := by
  rcases bind_eq_ok_iff.mp taken with ⟨settled, first, rest⟩
  rw [← Except.ok.inj rest, settle_eq_ok first]

theorem setting_eq_ok {setting : Setting} {value : Option String}
    (taken : progress.setting setting value = .ok next) :
    next.sentencesOnly = progress.sentencesOnly := by
  rcases bind_eq_ok_iff.mp taken with ⟨settled, first, rest⟩
  have same : settled.sentencesOnly = progress.sentencesOnly := by rw [settle_eq_ok first]
  cases value with
  | none => rw [← Except.ok.inj rest, same]
  | some value => rw [assign_eq_ok rest, same]

theorem switch_eq_ok {switch : Switch} (taken : progress.switch switch = .ok next) :
    next.sentencesOnly = progress.sentencesOnly := by
  rcases bind_eq_ok_iff.mp taken with ⟨settled, first, rest⟩
  have same : settled.sentencesOnly = progress.sentencesOnly := by rw [settle_eq_ok first]
  cases switch with
  | plain =>
    simp only at rest
    split at rest
    · contradiction
    · rw [← Except.ok.inj rest, same]
  | highlight =>
    simp only at rest
    split at rest
    · contradiction
    · rw [← Except.ok.inj rest, same]
  | version => contradiction
  | help => contradiction

theorem longSwitch_eq_ok {switch : Switch} {value : Option String}
    (taken : progress.longSwitch switch value = .ok next) :
    next.sentencesOnly = progress.sentencesOnly := by
  cases value with
  | none => exact switch_eq_ok taken
  | some value => contradiction

theorem long_eq_ok {option : List Char} (taken : progress.long option = .ok next) :
    next.sentencesOnly = progress.sentencesOnly := by
  simp only [long] at taken
  split at taken
  · exact setting_eq_ok taken
  · exact setting_eq_ok taken
  · exact longSwitch_eq_ok taken
  · exact longSwitch_eq_ok taken
  · exact longSwitch_eq_ok taken
  · exact longSwitch_eq_ok taken
  · contradiction

theorem short_eq_ok {letter : Char} {rest : List Char}
    (taken : progress.short letter rest = .ok next) :
    next.sentencesOnly = progress.sentencesOnly := by
  unfold short at taken
  split at taken
  · exact setting_eq_ok taken
  · exact setting_eq_ok taken
  · exact switch_eq_ok taken
  · exact switch_eq_ok taken
  · contradiction

/-- Only two dashes end the options. -/
theorem sentencesOnly_of_argument {text : String} (notDashes : text ≠ "--")
    (started : progress.sentencesOnly = false) (taken : progress.argument text = .ok next) :
    next.sentencesOnly = false := by
  rw [argument, started] at taken
  simp only [Bool.false_eq_true, if_false] at taken
  split at taken
  · rename_i dashes
    exact absurd (String.toList_inj.mp dashes) notDashes
  · rw [long_eq_ok taken, started]
  · rw [short_eq_ok taken, started]
  · split at taken
    · rw [← Except.ok.inj taken]
    · rw [sentence_eq_ok taken, started]

theorem sentencesOnly_of_arguments {arguments : List String} (noDashes : "--" ∉ arguments)
    (started : progress.sentencesOnly = false)
    (taken : arguments.foldlM argument progress = .ok next) : next.sentencesOnly = false := by
  induction arguments generalizing progress with
  | nil => exact Except.ok.inj taken ▸ started
  | cons text rest ih =>
    rw [List.mem_cons, not_or] at noDashes
    rcases bind_eq_ok_iff.mp taken with ⟨middle, first, others⟩
    have notDashes : text ≠ "--" := fun same => noDashes.1 same.symm
    exact ih noDashes.2 (sentencesOnly_of_argument notDashes started first) others

/-! ## Behind the dashes -/

/-- The progress with the options at an end. -/
def closed (progress : Progress) : Progress :=
  { progress with sentencesOnly := true }

theorem assign_closed (progress : Progress) (setting : Setting) (value : String) :
    progress.closed.assign setting value = closed <$> progress.assign setting value := by
  unfold assign
  cases setting with
  | grammar =>
    by_cases again : progress.options.grammar.isSome = true
    · simp only [closed, again, if_true]
      rfl
    · by_cases empty : value.isEmpty = true
      · simp only [closed, again, empty, if_true]
        rfl
      · simp only [closed, again, empty]
        rfl
  | start =>
    by_cases again : progress.options.start.isSome = true
    · simp only [closed, again, if_true]
      rfl
    · simp only [closed, again]
      rfl

/-- What is open is settled alike on both sides of the dashes. -/
theorem settle_closed : progress.closed.settle = closed <$> progress.settle := by
  have samePending : progress.closed.pending = progress.pending := rfl
  rw [settle, settle, samePending]
  cases pending : progress.pending with
  | none => rfl
  | some last =>
    rcases last with ⟨setting, value⟩
    cases value with
    | none => rfl
    | some value => exact assign_closed { progress with pending := none } setting value

/-- The progress with some more sentences. -/
def withSentences (progress : Progress) (sentences : List String) : Progress :=
  { progress with options.sentences := progress.options.sentences ++ sentences }

theorem withSentences_nil (progress : Progress) : progress.withSentences [] = progress := by
  simp [withSentences]

theorem withSentences_cons (progress : Progress) (text : String) (sentences : List String) :
    progress.withSentences (text :: sentences) =
      (progress.withSentences [text]).withSentences sentences := by
  simp [withSentences]

/-- Once the options are at an end, all arguments are sentences. -/
theorem foldlM_argument_of_sentencesOnly {settled : Progress} (sentences : List String)
    (only : progress.sentencesOnly = true) (first : progress.settle = .ok settled) :
    (sentences.foldlM argument progress >>= settle) = .ok (settled.withSentences sentences) := by
  induction sentences generalizing progress settled with
  | nil =>
    rw [withSentences_nil]
    exact first
  | cons text rest ih =>
    have shape := settle_eq_ok first
    have taken : progress.argument text = .ok (settled.withSentences [text]) := by
      rw [argument, if_pos only]
      exact bind_eq_ok_iff.mpr ⟨settled, first, rfl⟩
    have stillOnly : (settled.withSentences [text]).sentencesOnly = true := by
      rw [shape]
      exact only
    have nothingOpen : (settled.withSentences [text]).pending = none := by
      rw [shape]
      rfl
    rw [List.foldlM_cons, taken, withSentences_cons settled text rest]
    exact ih stillOnly (settle_of_pending nothingOpen)

end Progress

/-- Sentences may be put behind the options and two dashes. -/
theorem Options.parse_append {arguments : List String} {options : Options}
    (understood : parse arguments = .ok options) (noDashes : "--" ∉ arguments)
    (sentences : List String) :
    parse (arguments ++ "--" :: sentences) =
      .ok { options with sentences := options.sentences ++ sentences } := by
  rcases bind_eq_ok_iff.mp understood with ⟨progress, taken, rest⟩
  rcases bind_eq_ok_iff.mp rest with ⟨settled, first, last⟩
  have started : progress.sentencesOnly = false :=
    Progress.sentencesOnly_of_arguments noDashes rfl taken
  have dashes : progress.argument "--" = .ok progress.closed := by
    rw [Progress.argument, started]
    rfl
  have closed : progress.closed.settle = .ok settled.closed := by
    rw [Progress.settle_closed, first]
    rfl
  have others := Progress.foldlM_argument_of_sentencesOnly sentences rfl closed
  rcases bind_eq_ok_iff.mp others with ⟨final, folded, settles⟩
  have all : (arguments ++ "--" :: sentences).foldlM Progress.argument {} = .ok final := by
    rw [List.foldlM_append]
    exact bind_eq_ok_iff.mpr
      ⟨progress, taken, bind_eq_ok_iff.mpr ⟨progress.closed, dashes, folded⟩⟩
  refine bind_eq_ok_iff.mpr ⟨final, all, ?_⟩
  rw [settles, ← Except.ok.inj last]
  rfl

end Cyk.Command
