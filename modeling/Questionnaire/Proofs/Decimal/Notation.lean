import Questionnaire.Decimal.Notation
import Questionnaire.Text.Digit
import Mathlib.Data.List.TakeWhile

/-!
# Whole numbers in decimal

The notation of a natural number is a run of ASCII digits without a zero at the
front, the number zero apart, and its value is the number.
-/

namespace Questionnaire.Decimal

open Text

theorem isDigit_of_mem_writeNat {n : Nat} {c : Char} (h : c ∈ writeNat n) : c.isDigit = true :=
  Nat.isDigit_of_mem_toDigits (by decide) (by decide) h

theorem writeNat_ne_nil (n : Nat) : writeNat n ≠ [] := Nat.toDigits_ne_nil

theorem takeWhile_writeNat (n : Nat) : (writeNat n).takeWhile Char.isDigit = writeNat n :=
  List.takeWhile_eq_self_iff.mpr fun _ => isDigit_of_mem_writeNat

theorem dropWhile_writeNat (n : Nat) : (writeNat n).dropWhile Char.isDigit = [] :=
  List.dropWhile_eq_nil_iff.mpr fun _ => isDigit_of_mem_writeNat

theorem head?_writeNat {n : Nat} (h : n ≠ 0) : (writeNat n).head? ≠ some '0' := by
  induction n using Nat.strongRecOn with
  | ind n ih =>
      by_cases hn : n < 10
      · have hdigit : ∀ d < 10, d ≠ 0 → d.digitChar ≠ '0' := by decide
        rw [writeNat, Nat.toDigits_of_lt_base hn, List.head?_cons]
        exact fun heq => hdigit n hn h (Option.some.inj heq)
      · have htens := ih (n / 10) (by omega) (by omega)
        rw [writeNat, Nat.toDigits_of_base_le (by decide) (by omega)]
        rw [writeNat] at htens
        cases hdigits : Nat.toDigits 10 (n / 10) with
        | nil => exact absurd hdigits Nat.toDigits_ne_nil
        | cons d rest => simpa [hdigits] using htens

theorem digitValue?_of_isDigit {c : Char} (h : c.isDigit = true) :
    digitValue? c = some (c.toNat - 48) := by
  have hrange : 48 ≤ c.toNat ∧ c.toNat ≤ 57 := by
    simpa [Char.isDigit, UInt32.le_iff_toNat_le] using h
  have hascii : c.toNat < 128 := by omega
  simp [digitValue?, hrange, hascii]

theorem foldl_digits {t : Text} (h : ∀ c ∈ t, c.isDigit = true) (value : Nat) :
    t.foldl (fun n c => n * 10 + (digitValue? c).getD 0) value = Nat.ofDigitChars 10 t value := by
  induction t generalizing value with
  | nil => rfl
  | cons c t ih =>
      obtain ⟨hc, ht⟩ := List.forall_mem_cons.mp h
      rw [List.foldl_cons, ih ht, Nat.ofDigitChars_cons, digitValue?_of_isDigit hc, Nat.mul_comm]
      rfl

/-- **The notation of a number has the number as its value.** -/
theorem digitsValue_writeNat (n : Nat) : digitsValue (writeNat n) = n := by
  rw [digitsValue, foldl_digits fun c => isDigit_of_mem_writeNat]
  exact Nat.ofDigitChars_ten_toDigits

end Questionnaire.Decimal
