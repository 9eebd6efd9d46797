import Questionnaire.Source.Reading

/-!
# Looking ahead, line by line

The look ahead goes over the lines behind a question marker in a mode (outside
of everything, inside quotes, behind a fence) and may end before the lines do
(`lookMode`). What it has heard in some lines it never forgets
(`lookAhead_append`, `Signals.Within`), and the kind that it settles on is
ranked no lower than any signal it has heard (`rank_le_of_word`,
`rank_le_of_rows`).
-/

namespace Questionnaire

/-- The strength of a kind as a signal. -/
def QuestionKind.rank : QuestionKind → Nat
  | .breakdown => 5
  | .matrix => 4
  | .text => 3
  | .essay => 2
  | .number => 1
  | .checkbox => 0
  | .multipleChoice => 0

namespace Source

open Text

/-! ## Modes -/

/-- The mode behind a line, if the line does not end the look ahead. -/
def lookStep (mode : Skipping) (raw : Text) : Option Skipping :=
  match mode with
  | .quoted => some (if hasEnd quotes (trim raw) then .nothing else .quoted)
  | .fenced => some (if hasStart fence (trim raw) then .nothing else .fenced)
  | .nothing =>
    if hasStart fence (trim raw) then some .fenced
    else if endsQuestion (trim raw) then none
    else if opensQuotes (trim raw) then some .quoted
    else some .nothing

/-- The mode behind some lines, if none of them ends the look ahead. -/
def lookMode (mode : Skipping) (lines : List Text) : Option Skipping :=
  lines.foldlM lookStep mode

/-- Whether a line is looked at for signals. -/
def isHeard (mode : Skipping) (raw : Text) : Bool :=
  mode = .nothing && !hasStart fence (trim raw) && !endsQuestion (trim raw) &&
    !opensQuotes (trim raw)

/-- The signals with those of one more line, if it is looked at. -/
def Signals.hear (signals : Signals) (mode : Skipping) (raw : Text) : Signals :=
  if isHeard mode raw then signals.add (trim raw) else signals

theorem lookAhead_cons (mode : Skipping) (signals : Signals) (raw : Text) (rest : List Text) :
    lookAhead mode signals (raw :: rest)
      = match lookStep mode raw with
        | none => signals
        | some next => lookAhead next (signals.hear mode raw) rest := by
  cases mode with
  | quoted => simp [lookAhead, lookStep, Signals.hear, isHeard]
  | fenced => simp [lookAhead, lookStep, Signals.hear, isHeard]
  | nothing =>
      by_cases hfence : hasStart fence (trim raw) = true
      · simp [lookAhead, lookStep, Signals.hear, isHeard, hfence]
      · by_cases hends : endsQuestion (trim raw) = true
        · simp [lookAhead, lookStep, hfence, hends]
        · by_cases hopens : opensQuotes (trim raw) = true
          · simp [lookAhead, lookStep, Signals.hear, isHeard, hfence, hends, hopens]
          · simp [lookAhead, lookStep, Signals.hear, isHeard, hfence, hends, hopens]

/-- A line that is looked at adds its signal. -/
theorem lookAhead_of_isHeard {raw : Text} (h : isHeard .nothing raw = true) (signals : Signals)
    (rest : List Text) : lookAhead .nothing signals (raw :: rest)
      = lookAhead .nothing (signals.add (trim raw)) rest := by
  simp only [isHeard, Bool.and_eq_true, Bool.not_eq_true'] at h
  simp [lookAhead, h]

/-- **What has been heard is kept**, and the look ahead goes on in the mode that
it has come to. -/
theorem lookAhead_append {mode next : Skipping} {lines : List Text}
    (h : lookMode mode lines = some next) (signals : Signals) (rest : List Text) :
    lookAhead mode signals (lines ++ rest)
      = lookAhead next (lookAhead mode signals lines) rest := by
  induction lines generalizing mode signals with
  | nil =>
      obtain rfl : mode = next := Option.some.inj h
      rfl
  | cons raw lines ih =>
      rw [lookMode, List.foldlM_cons, Option.bind_eq_bind, Option.bind_eq_some_iff] at h
      obtain ⟨middle, hmiddle, hrest⟩ := h
      rw [List.cons_append, lookAhead_cons, lookAhead_cons, hmiddle]
      exact ih hrest (signals.hear mode raw)

/-- Lines behind the end of the look ahead play no part. -/
theorem lookAhead_append_of_none {mode : Skipping} {lines : List Text}
    (h : lookMode mode lines = none) (signals : Signals) (rest : List Text) :
    lookAhead mode signals (lines ++ rest) = lookAhead mode signals lines := by
  induction lines generalizing mode signals with
  | nil => cases h
  | cons raw lines ih =>
      rw [List.cons_append, lookAhead_cons, lookAhead_cons]
      cases hstep : lookStep mode raw with
      | none => rfl
      | some middle =>
          rw [lookMode, List.foldlM_cons, hstep, Option.bind_eq_bind, Option.bind_some] at h
          exact ih h (signals.hear mode raw)

theorem lookMode_concat (mode : Skipping) (lines : List Text) (raw : Text) :
    lookMode mode (lines ++ [raw]) = (lookMode mode lines).bind (lookStep · raw) := by
  simp [lookMode, List.foldlM_append]

/-! ## Signals -/

/-- One lot of signals holds all of another. -/
structure Signals.Within (fewer more : Signals) : Prop where
  /-- The input words. -/
  words : fewer.words ⊆ more.words
  /-- The row of a matrix. -/
  rows : fewer.rows = true → more.rows = true

namespace Signals.Within

theorem refl (signals : Signals) : signals.Within signals :=
  ⟨List.Subset.refl _, id⟩

theorem trans {first second third : Signals} (h : first.Within second)
    (h' : second.Within third) : first.Within third :=
  ⟨List.Subset.trans h.words h'.words, fun hrows => h'.rows (h.rows hrows)⟩

theorem add (signals : Signals) (t : Text) : signals.Within (signals.add t) := by
  rw [Signals.add]
  split
  · exact ⟨List.subset_cons_self _ _, id⟩
  · split
    · exact ⟨List.Subset.refl _, fun _ => rfl⟩
    · split <;> exact ⟨List.Subset.refl _, id⟩

theorem hear (signals : Signals) (mode : Skipping) (raw : Text) :
    signals.Within (signals.hear mode raw) := by
  rw [Signals.hear]
  split
  · exact Within.add signals _
  · exact Within.refl signals

theorem lookAhead (mode : Skipping) (signals : Signals) (lines : List Text) :
    signals.Within (lookAhead mode signals lines) := by
  induction lines generalizing mode signals with
  | nil => exact Within.refl signals
  | cons raw lines ih =>
      rw [lookAhead_cons]
      split
      · exact Within.refl signals
      · exact (Within.hear signals mode raw).trans (ih _ _)

end Signals.Within

theorem Signals.words_add {t : Text} {word : InputWord} (h : InputWord.ofText? t = some word)
    (signals : Signals) : (signals.add t).words = word :: signals.words := by
  rw [Signals.add, h]

/-- **The kind is no weaker than a word that has been heard.** -/
theorem rank_le_of_word {signals : Signals} {word : InputWord} (h : word ∈ signals.words) :
    word.kind.rank ≤ signals.kind.rank := by
  have hword : signals.words.contains word = true := by simpa using h
  rw [Signals.kind]
  -- The kinds are tried from the strongest one down, so none below the word's is reached.
  cases word
  all_goals repeat' split
  all_goals first
    | contradiction
    | decide

/-- **The kind is no weaker than a matrix** once a row of one has been heard. -/
theorem rank_le_of_rows {signals : Signals} (h : signals.rows = true) :
    QuestionKind.matrix.rank ≤ signals.kind.rank := by
  rw [Signals.kind]
  split
  · decide
  · exact Nat.le_refl _

end Source
end Questionnaire
