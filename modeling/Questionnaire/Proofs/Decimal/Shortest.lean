import Questionnaire.Decimal.Shortest
import Questionnaire.Proofs.Decimal.Magnitude

/-!
# The digits of a number

The digits that are chosen for a number stand for one that is read back as it, so
they are no further from it than half the weight of its last bit (`near_shortest`).
-/

namespace Questionnaire.Decimal

/-- The rational number that a numeral stands for. -/
def Numeral.value (d : Numeral) : ℚ := d.digits * 10 ^ d.exponent

/-! ## Comparing scaled numbers -/

private theorem pow_toNat {x : ℚ} (hx : x ≠ 0) (i : Int) :
    x ^ i.toNat = x ^ i * x ^ (-i).toNat := by
  rw [← zpow_natCast, ← zpow_natCast, ← zpow_add₀ hx]
  congr 1
  omega

/-- Both sides are multiplied by the same powers of two and ten. -/
private theorem scaled_le_scaled (a : Nat) (i : Int) (n : Nat) (j : Int) :
    (a * Nat.pow 10 i.toNat * Nat.pow 2 (-j).toNat ≤
        n * Nat.pow 2 j.toNat * Nat.pow 10 (-i).toNat ↔ (a : ℚ) * 10 ^ i ≤ n * 2 ^ j) ∧
      (n * Nat.pow 2 j.toNat * Nat.pow 10 (-i).toNat ≤
        a * Nat.pow 10 i.toNat * Nat.pow 2 (-j).toNat ↔ (n : ℚ) * 2 ^ j ≤ a * 10 ^ i) := by
  obtain ⟨c, hc⟩ : ∃ c : ℚ, c = 10 ^ (-i).toNat * 2 ^ (-j).toNat := ⟨_, rfl⟩
  have hpos : 0 < c := by rw [hc]; positivity
  have hleft : ((a * Nat.pow 10 i.toNat * Nat.pow 2 (-j).toNat : Nat) : ℚ) = a * 10 ^ i * c := by
    rw [hc, Nat.pow_eq, Nat.pow_eq]
    push_cast
    rw [pow_toNat (by norm_num) i]
    ring
  have hright : ((n * Nat.pow 2 j.toNat * Nat.pow 10 (-i).toNat : Nat) : ℚ) = n * 2 ^ j * c := by
    rw [hc, Nat.pow_eq, Nat.pow_eq]
    push_cast
    rw [pow_toNat (by norm_num) j]
    ring
  rw [← Nat.cast_le (α := ℚ), ← Nat.cast_le (α := ℚ), hleft, hright, mul_le_mul_iff_left₀ hpos,
    mul_le_mul_iff_left₀ hpos]
  exact ⟨Iff.rfl, Iff.rfl⟩

theorem compareScaled_ne_gt {a : Nat} {i : Int} {n : Nat} {j : Int} :
    compareScaled a i n j ≠ .gt ↔ (a : ℚ) * 10 ^ i ≤ n * 2 ^ j :=
  Nat.compare_ne_gt.trans (scaled_le_scaled a i n j).1

theorem compareScaled_ne_lt {a : Nat} {i : Int} {n : Nat} {j : Int} :
    compareScaled a i n j ≠ .lt ↔ (n : ℚ) * 2 ^ j ≤ a * 10 ^ i :=
  Nat.compare_ne_lt.trans (scaled_le_scaled a i n j).2

/-! ## What is read back -/

variable {b : Binary} {d : Numeral} {e : Int}

/-- Half the weight of the last bit. -/
def Binary.half (b : Binary) : ℚ := 2 ^ (b.exponent - 1)

/-- A numeral that is read back as a number is near it. -/
theorem near_of_isReadFrom (hpos : 0 < b.mantissa) (h : b.isReadFrom d = true) :
    |d.value - b.value| ≤ b.half := by
  simp only [Binary.isReadFrom, Bool.and_eq_true, Bool.or_eq_true, beq_iff_eq] at h
  obtain ⟨hlow, hhigh⟩ := h
  have hweight : (0 : ℚ) ≤ 2 ^ (b.exponent - 2) := by positivity
  have hleast : (4 * b.mantissa - 2 : ℚ) * 2 ^ (b.exponent - 2) ≤ d.value := by
    have hle := compareScaled_ne_lt.mp (show _ ≠ Ordering.lt by
      rcases hlow with h | ⟨-, h⟩ <;> rw [h] <;> decide)
    refine le_trans (mul_le_mul_of_nonneg_right ?_ hweight) hle
    have hend : 4 * b.mantissa ≤
        (if b.narrowBelow = true then 4 * b.mantissa - 1 else 4 * b.mantissa - 2) + 2 := by
      split <;> omega
    rw [sub_le_iff_le_add]
    exact_mod_cast hend
  have hmost : d.value ≤ (4 * b.mantissa + 2 : ℚ) * 2 ^ (b.exponent - 2) := by
    have hle := compareScaled_ne_gt.mp (show _ ≠ Ordering.gt by
      rcases hhigh with h | ⟨-, h⟩ <;> rw [h] <;> decide)
    exact_mod_cast hle
  -- The interval is given in quarters of the last bit.
  have hquarter : (2 : ℚ) ^ b.exponent = 4 * 2 ^ (b.exponent - 2) := by
    rw [show (4 : ℚ) = 2 ^ (2 : Int) by norm_num, ← zpow_add₀ (by norm_num)]
    congr 1
    omega
  have hhalf : b.half = 2 * 2 ^ (b.exponent - 2) := by
    rw [Binary.half, ← zpow_one_add₀ (by norm_num)]
    congr 1
    omega
  rw [hhalf, Binary.value, hquarter, abs_le]
  constructor <;> linarith

/-! ## The digits that are chosen -/

theorem isReadFrom_of_onGrid? (h : b.onGrid? e = some d) : b.isReadFrom d = true := by
  rw [Binary.onGrid?] at h
  split at h
  · cases h
  · rename_i hbelow _
    cases h
    exact hbelow
  · rename_i habove
    cases h
    exact habove
  · rename_i hbelow habove
    split at h <;> cases h
    · exact habove
    · exact hbelow
    · split <;> assumption

theorem isReadFrom_of_search {steps : Nat} (h : b.search steps e = some d) :
    b.isReadFrom d = true := by
  induction steps generalizing e with
  | zero => cases h
  | succ steps ih =>
      rw [Binary.search, Option.or_eq_some_iff] at h
      rcases h with h | ⟨-, h⟩
      · exact isReadFrom_of_onGrid? h
      · exact ih h

@[simp] theorem value_exact (b : Binary) : b.exact.value = b.value := by
  rw [Binary.exact]
  split
  · rename_i hnonneg
    rw [Numeral.value, Binary.value, Nat.pow_eq]
    push_cast
    rw [mul_one, ← zpow_natCast, Int.toNat_of_nonneg hnonneg]
  · obtain ⟨k, hk⟩ : ∃ k : Nat, b.exponent = -(k : Int) := ⟨b.exponent.natAbs, by omega⟩
    have hten : (10 : ℚ) ^ k = 2 ^ k * 5 ^ k := by
      rw [← mul_pow]
      norm_num
    rw [Numeral.value, Binary.value, Nat.pow_eq, hk, Int.natAbs_neg, Int.natAbs_natCast, zpow_neg,
      zpow_neg, zpow_natCast, zpow_natCast, hten]
    push_cast
    field_simp

@[simp] theorem value_strip (steps : Nat) (d : Numeral) : (d.strip steps).value = d.value := by
  induction steps generalizing d with
  | zero => rfl
  | succ steps ih =>
      rw [Numeral.strip]
      split
      · rename_i hzero
        have hdigits : (d.digits : ℚ) = (d.digits / 10 : Nat) * 10 := by
          exact_mod_cast (Nat.div_mul_cancel (Nat.dvd_of_mod_eq_zero hzero)).symm
        rw [ih, Numeral.value, Numeral.value, zpow_add_one₀ (by norm_num), hdigits]
        ring
      · rfl

/-- **The digits that are chosen stand for a number that is near.** -/
theorem near_shortest (hpos : 0 < b.mantissa) : |b.shortest.value - b.value| ≤ b.half := by
  rw [Binary.shortest, value_strip]
  cases hsearch : b.search 17 (b.places - 1) with
  | none =>
      rw [Option.getD_none, value_exact, sub_self, abs_zero, Binary.half]
      positivity
  | some d => exact near_of_isReadFrom hpos (isReadFrom_of_search hsearch)

end Questionnaire.Decimal
