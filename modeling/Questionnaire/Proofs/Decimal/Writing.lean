import Questionnaire.Proofs.Decimal.Notation
import Questionnaire.Proofs.Decimal.PlainNumber
import Questionnaire.Proofs.Decimal.Shortest

/-!
# Written numbers

A numeral is written with a point among its digits, and then it is a plain decimal,
or with an exponent, and then it is none. Which of the two it is depends on its value
alone: the point is used from `10 ^ -4` up to `10 ^ 16` (`isPlainDecimal_write`,
`mark_mem_write`).
-/

namespace Questionnaire.Decimal

open Text

variable {n : Nat} {d : Numeral} {t digits : Text}

/-! ## Signs -/

theorem isPlainNumber_of_isPlainDecimal (h : isPlainDecimal t = true) : isPlainNumber t = true := by
  rw [isPlainNumber, trim_of_no_blank fun c => isBlank_of_mem_isPlainDecimal h]
  split
  · exact absurd List.mem_cons_self (not_mem_isPlainDecimal h (by decide) (by decide))
  · exact h

theorem isPlainNumber_minus (h : isPlainDecimal t = true) : isPlainNumber ('-' :: t) = true := by
  have hblank : ∀ c ∈ '-' :: t, isBlank c = false :=
    List.forall_mem_cons.mpr ⟨by decide, fun c => isBlank_of_mem_isPlainDecimal h⟩
  rw [isPlainNumber, trim_of_no_blank hblank]
  exact h

/-- There is no exponent in a plain number. -/
theorem isPlainNumber_of_mark (h : 'e' ∈ t) : isPlainNumber t = false := by
  rw [Bool.eq_false_iff]
  intro hplain
  exact absurd (mem_of_isPlainNumber hplain h) (by decide)

/-! ## Digits -/

theorem isDecimal_of_isDigit {c : Char} (h : c.isDigit = true) : isDecimal c = true := by
  rw [isDecimal, digitValue?_of_isDigit h, Option.isSome_some]

theorem all_isDecimal_writeNat (n : Nat) : (writeNat n).all isDecimal = true :=
  List.all_eq_true.mpr fun _ hc => isDecimal_of_isDigit (isDigit_of_mem_writeNat hc)

theorem isPlainDecimal_writeNat (n : Nat) : isPlainDecimal (writeNat n) = true :=
  isPlainDecimal_iff.mpr (.inl ⟨writeNat_ne_nil n, all_isDecimal_writeNat n⟩)

/-- **A whole number is written as a plain number.** -/
theorem isPlainNumber_writeInt (n : Int) : isPlainNumber (writeInt n) = true := by
  rw [writeInt]
  split
  · exact isPlainNumber_minus (isPlainDecimal_writeNat _)
  · exact isPlainNumber_of_isPlainDecimal (isPlainDecimal_writeNat _)

/-- The number of digits. -/
theorem length_writeNat_iff (hpos : 0 < n) {k : Nat} :
    (writeNat n).length = k + 1 ↔ 10 ^ k ≤ n ∧ n < 10 ^ (k + 1) := by
  have hle := @Nat.length_toDigits_le_iff 10 n (k + 1) (by decide) (by omega)
  have hlt : (writeNat n).length ≤ k ↔ n < 10 ^ k := by
    cases k with
    | zero =>
        have := List.length_pos_iff.mpr (writeNat_ne_nil n)
        omega
    | succ k => exact Nat.length_toDigits_le_iff (by decide) (by omega)
  rw [← writeNat] at hle
  omega

/-! ## Digits and a point -/

theorem isPlainDecimal_writePositional (hne : digits ≠ []) (hdigits : digits.all isDecimal = true)
    (point : Int) : isPlainDecimal (writePositional digits point) = true := by
  have hzeros : ∀ k, (List.replicate k '0').all isDecimal = true := fun k =>
    List.all_eq_true.mpr fun c hc => by rw [List.eq_of_mem_replicate hc]; decide
  refine isPlainDecimal_iff.mpr (.inr ?_)
  rw [writePositional]
  split
  · exact ⟨['0'], List.replicate point.natAbs '0' ++ digits, by simp, by decide,
      by rw [List.all_append, hzeros, hdigits]; rfl, by simp⟩
  · split
    · exact ⟨digits ++ List.replicate (point.toNat - digits.length) '0', ['0'], by simp,
        by rw [List.all_append, hzeros, hdigits]; rfl, by decide, by simp⟩
    · rw [← List.take_append_drop point.toNat digits, List.all_append, Bool.and_eq_true] at hdigits
      exact ⟨digits.take point.toNat, digits.drop point.toNat, by simp, hdigits.1, hdigits.2,
        by rwa [List.take_append_drop]⟩

theorem mark_mem_writeScientific (hne : digits ≠ []) (e : Int) :
    'e' ∈ writeScientific digits e := by
  obtain _ | ⟨c, _ | ⟨c', rest⟩⟩ := digits
  · exact absurd rfl hne
  all_goals simp [writeScientific]

/-- Where the point stands among or around the digits of a numeral. -/
def Numeral.point (d : Numeral) : Int := (writeNat d.digits).length + d.exponent

/-- The place of the point bounds the value. -/
theorem value_lt_iff (hpos : 0 < d.digits) (k : Int) : d.value < 10 ^ k ↔ d.point ≤ k := by
  obtain ⟨l, hl⟩ : ∃ l, (writeNat d.digits).length = l + 1 := by
    have := List.length_pos_iff.mpr (writeNat_ne_nil d.digits)
    exact ⟨(writeNat d.digits).length - 1, by omega⟩
  obtain ⟨hlow, hhigh⟩ := (length_writeNat_iff hpos).mp hl
  have hweight : (0 : ℚ) < 10 ^ d.exponent := by positivity
  have hlow' : (10 : ℚ) ^ (d.point - 1) ≤ d.value := by
    have hpoint : d.point - 1 = (l : Int) + d.exponent := by
      rw [Numeral.point, hl]
      omega
    rw [hpoint, zpow_add₀ (by norm_num), zpow_natCast, Numeral.value]
    exact mul_le_mul_of_nonneg_right (by exact_mod_cast hlow) hweight.le
  have hhigh' : d.value < (10 : ℚ) ^ d.point := by
    rw [Numeral.point, hl, zpow_add₀ (by norm_num), zpow_natCast, Numeral.value]
    exact mul_lt_mul_of_pos_right (by exact_mod_cast hhigh) hweight
  constructor
  · intro hlt
    have := (zpow_lt_zpow_iff_right₀ (by norm_num)).mp (hlow'.trans_lt hlt)
    omega
  · intro hle
    exact hhigh'.trans_le (zpow_le_zpow_right₀ (by norm_num) hle)

/-- Whether the point is used is a matter of the value. -/
private theorem positional_iff (hpos : 0 < d.value) :
    (-4 < d.point && d.point ≤ 16) = true ↔ 1 / 10 ^ 4 ≤ d.value ∧ d.value < 10 ^ 16 := by
  have hdigits : 0 < d.digits := by
    rw [Nat.pos_iff_ne_zero]
    intro hzero
    rw [Numeral.value, hzero] at hpos
    simp at hpos
  have hlow : 1 / 10 ^ 4 ≤ d.value ↔ -4 < d.point := by
    rw [show (1 / 10 ^ 4 : ℚ) = 10 ^ (-4 : Int) by norm_num, ← not_lt, value_lt_iff hdigits,
      Int.not_le]
  have hhigh : d.value < 10 ^ 16 ↔ d.point ≤ 16 := by
    rw [show (10 ^ 16 : ℚ) = 10 ^ (16 : Int) by norm_num, value_lt_iff hdigits]
  rw [Bool.and_eq_true, decide_eq_true_eq, decide_eq_true_eq, hlow, hhigh]

/-- **A numeral of ordinary size is written as a plain decimal.** -/
theorem isPlainDecimal_write (hlow : 1 / 10 ^ 4 ≤ d.value) (hhigh : d.value < 10 ^ 16) :
    isPlainDecimal d.write = true := by
  have hpos : 0 < d.value := lt_of_lt_of_le (by norm_num) hlow
  have hpoint := (positional_iff hpos).mpr ⟨hlow, hhigh⟩
  rw [Numeral.point] at hpoint
  rw [Numeral.write, if_pos hpoint]
  exact isPlainDecimal_writePositional (writeNat_ne_nil _) (all_isDecimal_writeNat _) _

/-- **Any other numeral is written with an exponent.** -/
theorem mark_mem_write (hpos : 0 < d.value) (h : ¬(1 / 10 ^ 4 ≤ d.value ∧ d.value < 10 ^ 16)) :
    'e' ∈ d.write := by
  have hpoint := (positional_iff hpos).not.mpr h
  rw [Numeral.point] at hpoint
  rw [Numeral.write, if_neg hpoint]
  exact mark_mem_writeScientific (writeNat_ne_nil _) _

end Questionnaire.Decimal
