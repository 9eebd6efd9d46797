import Questionnaire.Text.Digit
import Questionnaire.Text.LowerCase

/-!
# Characters without case

A character that is its own lower case stays in a text that is written in lower
case (`mem_lower`). The digits of every script are such characters.
-/

namespace Questionnaire.Text

/-- A character without case is its own lower case. -/
theorem mem_lower {t : Text} {c : Char} (h : c ∈ t) (hlower : lowerChar c = [c])
    (hc : c ≠ 'Σ') : c ∈ lower t := by
  -- Lower case looks back at what stands before, so that is generalized.
  have hgen : ∀ before, c ∈ lowerFrom before t := by
    induction t with
    | nil => cases h
    | cons d t ih =>
        intro before
        rw [lowerFrom, List.mem_append]
        rcases List.mem_cons.mp h with rfl | h
        · exact .inl (by simp [hc, hlower])
        · exact .inr (ih h _)
  exact hgen []

/-- A code point in none of the runs has no partner in them. -/
theorem lowerRun_eq_self {n : Nat} {runs : List (Nat × Nat × Nat × Int)}
    (h : ∀ run ∈ runs, run.2.1 < n ∨ n < run.1) : lowerRun n runs = n := by
  induction runs with
  | nil => rfl
  | cons run runs ih =>
      obtain ⟨low, high, apart, shift⟩ := run
      obtain ⟨hrun, hruns⟩ := List.forall_mem_cons.mp h
      dsimp only at hrun
      rw [lowerRun]
      split
      · rfl
      · rename_i hlow
        rw [if_neg (show ¬ n ≤ high by omega), ih hruns]

/-- No run of characters with a partner reaches into the digits. -/
private theorem lowerRuns_apart_decimalZeros : (lowerRuns.all fun run =>
    decimalZeros.all fun start => run.2.1 < start || start + 9 < run.1) = true := by
  decide +kernel

theorem toLower_of_isDecimal {c : Char} (h : isDecimal c = true) : c.toLower = c := by
  have hupper : ¬ (c.val ≥ 'A'.val ∧ c.val ≤ 'Z'.val) := by
    rintro ⟨hlow, hhigh⟩
    have hlow' : 65 ≤ c.toNat := hlow
    have hhigh' : c.toNat ≤ 90 := hhigh
    have hascii : c.toNat < 128 := by omega
    have hdigit : ¬ (48 ≤ c.toNat ∧ c.toNat ≤ 57) := by omega
    simp [isDecimal, digitValue?, hascii, hdigit] at h
  exact dif_neg hupper

theorem lowerChar_of_isDecimal {c : Char} (h : isDecimal c = true) : lowerChar c = [c] := by
  rw [lowerChar]
  split
  · rw [toLower_of_isDecimal h]
  · rename_i hascii
    have hdotted : c ≠ 'İ' := by
      rintro rfl
      exact absurd h (by decide)
    rw [isDecimal, digitValue?, if_neg hascii, Option.isSome_map, List.find?_isSome] at h
    obtain ⟨start, hstart, hrange⟩ := h
    rw [Bool.and_eq_true, decide_eq_true_eq, decide_eq_true_eq] at hrange
    have hrun : lowerRun c.toNat lowerRuns = c.toNat := by
      refine lowerRun_eq_self fun run hrun => ?_
      have happart := List.all_eq_true.mp
        (List.all_eq_true.mp lowerRuns_apart_decimalZeros run hrun) start hstart
      rw [Bool.or_eq_true, decide_eq_true_eq, decide_eq_true_eq] at happart
      omega
    rw [if_neg hdotted, hrun, Char.ofNat_toNat]

/-! ## Texts of ASCII, and texts with digits -/

/-- Text of ASCII is put in lower case character by character. -/
theorem lower_of_ascii {t : Text} (h : ∀ c ∈ t, c.toNat < 128) : lower t = t.map Char.toLower := by
  -- What stands before matters only for a sigma.
  have hgen : ∀ before, lowerFrom before t = t.map Char.toLower := by
    induction t with
    | nil => exact fun _ => rfl
    | cons c t ih =>
        intro before
        obtain ⟨hc, ht⟩ := List.forall_mem_cons.mp h
        have hsigma : c ≠ 'Σ' := by
          rintro rfl
          exact absurd hc (by decide)
        rw [lowerFrom, ih ht, if_neg hsigma, lowerChar, if_pos hc]
        rfl
  exact hgen []

/-- A character whose lower case is in ASCII is in ASCII itself. -/
theorem ascii_of_toLower {c : Char} (h : c.toLower.toNat < 128) : c.toNat < 128 := by
  unfold Char.toLower at h
  split at h
  · rename_i hupper
    have hbound : c.toNat ≤ 90 := hupper.2
    omega
  · exact h

/-- A text with a digit in it is no word without digits, whatever the case. -/
theorem lower_ne_of_isDecimal {t word : Text} {c : Char} (hc : c ∈ t)
    (hdecimal : isDecimal c = true) (hword : word.any isDecimal = false) : lower t ≠ word := by
  rintro rfl
  have hsigma : c ≠ 'Σ' := by
    rintro rfl
    exact absurd hdecimal (by decide)
  have hlower := mem_lower hc (lowerChar_of_isDecimal hdecimal) hsigma
  exact List.any_eq_false.mp hword c hlower hdecimal

end Questionnaire.Text
