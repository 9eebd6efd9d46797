import Questionnaire.Proofs.Decimal.Magnitude

/-!
# Rounded quotients

A quotient of two numbers is rounded to fifty-three bits, which leaves it near the
exact one (`Near`): no further from it than one part in `2 ^ 52`. So a count of small
decimal places becomes a number that is near its exact value (`near_ofScientific`).
-/

namespace Questionnaire.Decimal

open Float.Model UnpackedFloat

/-- A number of fifty-three bits with this sign whose magnitude is near `q`. -/
inductive Near (s : Sign) (q : ℚ) : UnpackedFloat → Prop
  | intro {n : Nat} {f : Int} (hpos : 0 < n) (low : 2 ^ 52 ≤ n) (high : n < 2 ^ 53)
      (least : -1074 ≤ f) (error : |(n : ℚ) * 2 ^ f - q| * 2 ^ 52 ≤ q) :
      Near s q (.finite s n f hpos)

variable {s : Sign} {m n k : Nat} {e : Int} {q : ℚ}

/-! ## Shifting -/

theorem mantissa_shiftRight (em : ExtendedMantissa) (k : Nat) :
    (em >>> k).mantissa = em.mantissa / 2 ^ k := by
  show (Nat.repeat ExtendedMantissa.shiftRightOne k em).mantissa = _
  induction k with
  | zero => simp [Nat.repeat]
  | succ k ih =>
      rw [Nat.repeat, ExtendedMantissa.shiftRightOne, ih, Nat.div_div_eq_div_mul, Nat.pow_succ]

theorem mantissa_ofMantissaAndAccuracy (m : Nat) (a : Accuracy) :
    (ExtendedMantissa.ofMantissaAndAccuracy m a).mantissa = m := by
  obtain _ | _ | _ | _ := a <;> rfl

theorem roundedMantissa_bounds (em : ExtendedMantissa) :
    em.mantissa ≤ em.roundedMantissa ∧ em.roundedMantissa ≤ em.mantissa + 1 := by
  obtain ⟨m, round, sticky⟩ := em
  cases round <;> cases sticky <;>
    simp only [ExtendedMantissa.roundedMantissa, ExtendedMantissa.accuracy,
      Accuracy.roundToNearestEven] <;>
    omega

theorem shiftToTargetExponent_eq (a : Accuracy) (hlow : 2 ^ 52 ≤ m) (he : -1074 ≤ e) :
    shiftToTargetExponent .binary64 m e a =
      (ExtendedMantissa.ofMantissaAndAccuracy m a >>> (m.log2 - 52),
        e + ((m.log2 - 52 : Nat) : Int)) := by
  have hlog : 52 ≤ m.log2 := (Nat.le_log2 (by omega)).mpr hlow
  have htarget : Format.binary64.targetExponent (totalExponent m e) =
      e + ((m.log2 - 52 : Nat) : Int) := by
    simp only [Format.targetExponent, totalExponent, Format.mantissaBits, Format.minExponent]
    omega
  rw [shiftToTargetExponent, shiftToExponent, htarget]
  simp

/-- Fifty-three bits are not shifted. -/
theorem shiftToTargetExponent_exact (hlow : 2 ^ 52 ≤ m) (hhigh : m < 2 ^ 53) (he : -1074 ≤ e) :
    shiftToTargetExponent .binary64 m e .exact = (⟨m, false, false⟩, e) := by
  have hlog : m.log2 = 52 := (Nat.log2_eq_iff (by omega)).mpr ⟨hlow, hhigh⟩
  rw [shiftToTargetExponent_eq _ hlow he, hlog]
  simp only [Nat.sub_self, Int.natCast_zero, Int.add_zero]
  rfl

/-- A carry into a fifty-fourth bit moves the point by one place. -/
theorem shiftToTargetExponent_carry (hlow : 2 ^ 52 ≤ m) (hhigh : m ≤ 2 ^ 53) (he : -1074 ≤ e) :
    ∃ n f, shiftToTargetExponent .binary64 m e .exact = (⟨n, false, false⟩, f) ∧
      2 ^ 52 ≤ n ∧ n < 2 ^ 53 ∧ e ≤ f ∧ (n : ℚ) * 2 ^ f = m * 2 ^ e := by
  rcases hhigh.lt_or_eq with hlt | rfl
  · exact ⟨m, e, shiftToTargetExponent_exact hlow hlt he, hlow, hlt, le_refl _, rfl⟩
  · refine ⟨2 ^ 52, e + 1, ?_, le_refl _, by decide, by omega, ?_⟩
    · rw [shiftToTargetExponent_eq _ hlow he, Nat.log2_two_pow]
      rfl
    · rw [zpow_add_one₀ (by norm_num)]
      norm_num
      ring

/-! ## Rounding to fifty-three bits -/

/-- The bits behind the first fifty-three, and the one that rounding adds, do not count much. -/
private theorem error_of_floor (hlow : 2 ^ 52 ≤ m / 2 ^ k) (hn : m / 2 ^ k ≤ n)
    (hn' : n ≤ m / 2 ^ k + 1) (hq : (m : ℚ) * 2 ^ e ≤ q) (hq' : q ≤ (m + 1 : ℚ) * 2 ^ e) :
    |(n : ℚ) * 2 ^ (e + k) - q| * 2 ^ 52 ≤ q := by
  have hmul := Nat.div_mul_le_self m (2 ^ k)
  have hmul' := Nat.lt_mul_div_succ m (Nat.two_pow_pos k)
  rw [Nat.mul_comm] at hmul'
  -- Let `top` be the first fifty-three bits and `unit` the weight of the last of them.
  generalize m / 2 ^ k = top at *
  obtain ⟨unit, hunit⟩ : ∃ unit : ℚ, unit = 2 ^ (e + k) := ⟨_, rfl⟩
  have hsplit : unit = 2 ^ k * 2 ^ e := by
    rw [hunit, zpow_add₀ (by norm_num), zpow_natCast, mul_comm]
  have hpos : 0 ≤ unit := by rw [hunit]; positivity
  have hweight : (0 : ℚ) ≤ 2 ^ e := by positivity
  have hbelow : top * unit ≤ q := by
    rw [hsplit, ← mul_assoc]
    exact (mul_le_mul_of_nonneg_right (by exact_mod_cast hmul) hweight).trans hq
  have habove : q ≤ (top + 1) * unit := by
    rw [hsplit, ← mul_assoc]
    exact hq'.trans (mul_le_mul_of_nonneg_right (by exact_mod_cast hmul') hweight)
  have herror : |n * unit - q| ≤ unit := by
    have hle : top * unit ≤ n * unit := mul_le_mul_of_nonneg_right (by exact_mod_cast hn) hpos
    have hle' : n * unit ≤ (top + 1) * unit :=
      mul_le_mul_of_nonneg_right (by exact_mod_cast hn') hpos
    rw [abs_le]
    constructor <;> linarith
  rw [← hunit]
  calc |n * unit - q| * 2 ^ 52
      ≤ unit * 2 ^ 52 := by gcongr
    _ ≤ top * unit := by
        rw [mul_comm]
        exact mul_le_mul_of_nonneg_right (by exact_mod_cast hlow) hpos
    _ ≤ q := hbelow

/-- **Rounding gives a near number**, whatever is known of the bits behind the mantissa. -/
theorem near_roundWithAccuracy (s : Sign) (a : Accuracy) (hlow : 2 ^ 52 ≤ m) (he : -1074 ≤ e)
    (hq : (m : ℚ) * 2 ^ e ≤ q) (hq' : q ≤ (m + 1 : ℚ) * 2 ^ e) :
    Near s q (roundWithAccuracy .binary64 s m e a) := by
  have hm : m ≠ 0 := by omega
  obtain ⟨k, hk⟩ : ∃ k, m.log2 = 52 + k := Nat.exists_eq_add_of_le ((Nat.le_log2 hm).mpr hlow)
  have hbits := (Nat.log2_eq_iff hm).mp hk
  have htop : 2 ^ 52 ≤ m / 2 ^ k := by
    rw [Nat.le_div_iff_mul_le (by positivity), ← Nat.pow_add]
    exact hbits.1
  have htop' : m / 2 ^ k < 2 ^ 53 := by
    rw [Nat.div_lt_iff_lt_mul (by positivity), ← Nat.pow_add]
    exact lt_of_lt_of_eq hbits.2 (by congr 1; omega)
  obtain ⟨hround, hround'⟩ :=
    roundedMantissa_bounds (ExtendedMantissa.ofMantissaAndAccuracy m a >>> k)
  rw [mantissa_shiftRight, mantissa_ofMantissaAndAccuracy] at hround hround'
  obtain ⟨n, f, hcarry, hn, hn', hf, hvalue⟩ := shiftToTargetExponent_carry
    (htop.trans hround) (hround'.trans (by omega)) (show -1074 ≤ e + (k : Int) by omega)
  have hresult : roundWithAccuracy .binary64 s m e a = .finite s n f (by omega) := by
    rw [roundWithAccuracy, shiftToTargetExponent_eq a hlow he, hk, Nat.add_sub_cancel_left]
    dsimp only
    rw [hcarry]
    exact dif_neg (show n ≠ 0 by omega)
  rw [hresult]
  refine .intro _ hn hn' (by omega) ?_
  rw [hvalue]
  exact error_of_floor htop hround hround' hq hq'

/-- Fifty-three bits are not rounded. -/
theorem roundWithAccuracy_exact (s : Sign) (hlow : 2 ^ 52 ≤ m) (hhigh : m < 2 ^ 53)
    (he : -1074 ≤ e) (hpos : 0 < m) :
    roundWithAccuracy .binary64 s m e .exact = .finite s m e hpos := by
  have hrounded : (ExtendedMantissa.mk m false false).roundedMantissa = m := rfl
  rw [roundWithAccuracy, shiftToTargetExponent_exact hlow hhigh he]
  dsimp only
  rw [hrounded, shiftToTargetExponent_exact hlow hhigh he]
  simp [hpos.ne']

/-! ## Dividing -/

section Quotient

variable {m₁ m₂ : Nat} {e₁ e₂ t : Int}

/-- Enough bits are added to the dividend. -/
private theorem bits_quotient (h₁ : 0 < m₁) (h₂ : 0 < m₂) (hk : 53 + m₂.log2 ≤ m₁.log2 + k) :
    2 ^ 52 ≤ (m₁ <<< k) / m₂ := by
  rw [Nat.le_div_iff_mul_le h₂, Nat.shiftLeft_eq]
  calc 2 ^ 52 * m₂ ≤ 2 ^ 52 * 2 ^ (m₂.log2 + 1) := by
        gcongr
        exact Nat.lt_log2_self.le
    _ = 2 ^ (53 + m₂.log2) := by
        rw [← Nat.pow_add]
        congr 1
        omega
    _ ≤ 2 ^ (m₁.log2 + k) := Nat.pow_le_pow_right (by decide) hk
    _ = 2 ^ m₁.log2 * 2 ^ k := Nat.pow_add ..
    _ ≤ m₁ * 2 ^ k := Nat.mul_le_mul_right _ (Nat.log2_self_le h₁.ne')

/-- The exact quotient stands between two neighbours. -/
private theorem quotient_between (m₁ : Nat) (h₂ : 0 < m₂) (ht : e₁ - e₂ = t + k) :
    (((m₁ <<< k) / m₂ : Nat) : ℚ) * 2 ^ t ≤ m₁ * 2 ^ e₁ / (m₂ * 2 ^ e₂) ∧
      (m₁ * 2 ^ e₁ / (m₂ * 2 ^ e₂) : ℚ) ≤ (((m₁ <<< k) / m₂ : Nat) + 1) * 2 ^ t := by
  have hm₂ : (0 : ℚ) < m₂ := by exact_mod_cast h₂
  have hquotient : (m₁ * 2 ^ e₁ / (m₂ * 2 ^ e₂) : ℚ) = ((m₁ <<< k : Nat) : ℚ) / m₂ * 2 ^ t := by
    have hpow : (2 : ℚ) ^ e₁ = 2 ^ e₂ * (2 ^ k * 2 ^ t) := by
      rw [← zpow_natCast, ← zpow_add₀ (by norm_num), ← zpow_add₀ (by norm_num)]
      congr 1
      omega
    have hne : (2 : ℚ) ^ e₂ ≠ 0 := by positivity
    rw [hpow, Nat.shiftLeft_eq]
    push_cast
    field_simp
  have hweight : (0 : ℚ) ≤ 2 ^ t := by positivity
  rw [hquotient]
  constructor
  · exact mul_le_mul_of_nonneg_right Nat.cast_div_le hweight
  · refine mul_le_mul_of_nonneg_right ?_ hweight
    have hlt := (Nat.lt_mul_div_succ (m₁ <<< k) h₂).le
    rw [Nat.mul_comm] at hlt
    rw [div_le_iff₀ hm₂]
    exact_mod_cast hlt

/-- **A quotient is near the exact one**, as long as that is no tiny number. -/
theorem near_div (s₁ s₂ : Sign) (h₁ : 0 < m₁) (h₂ : 0 < m₂) (hexp : -1074 ≤ e₁ - e₂)
    (hlow : -1021 ≤ totalExponent m₁ e₁ - totalExponent m₂ e₂) :
    Near (s₁ / s₂) (m₁ * 2 ^ e₁ / (m₂ * 2 ^ e₂))
      (div .binary64 (.finite s₁ m₁ e₁ h₁) (.finite s₂ m₂ e₂ h₂)) := by
  obtain ⟨t, ht⟩ : ∃ t, t = min (e₁ - e₂) (Format.binary64.targetExponent
      (totalExponent m₁ e₁ - totalExponent m₂ e₂)) := ⟨_, rfl⟩
  obtain ⟨k, hk⟩ : ∃ k, k = (e₁ - e₂ - t).toNat := ⟨_, rfl⟩
  have htarget : t = min (e₁ - e₂) (totalExponent m₁ e₁ - totalExponent m₂ e₂ - 53) := by
    rw [ht]
    simp only [Format.targetExponent, Format.mantissaBits, Format.minExponent]
    omega
  have hbits : 53 + m₂.log2 ≤ m₁.log2 + k := by
    rw [totalExponent, totalExponent] at htarget
    omega
  have hshift : e₁ - e₂ = t + k := by omega
  obtain ⟨hbelow, habove⟩ := quotient_between m₁ h₂ hshift
  rw [UnpackedFloat.div, divCore, ← ht]
  dsimp only
  rw [← hk]
  exact near_roundWithAccuracy _ _ (bits_quotient h₁ h₂ hbits) (by omega) hbelow habove

end Quotient

/-! ## What a near number is -/

/-- A near number is packed without loss. -/
theorem Near.unpack_pack {u : UnpackedFloat} (h : Near s q u) (hq : q ≤ 2 ^ 100) :
    (Float.Model.pack u).unpack = u := by
  obtain @⟨n, f, hpos, low, high, least, error⟩ := h
  refine Decimal.unpack_pack s low high least ?_ hpos
  -- Twice `q` is an upper bound.
  have hvalue : (n : ℚ) * 2 ^ f ≤ 2 * q := by
    have hle := le_abs_self ((n : ℚ) * 2 ^ f - q)
    have hnonneg := abs_nonneg ((n : ℚ) * 2 ^ f - q)
    linarith
  have hpow : (2 : ℚ) ^ (52 + f) ≤ 2 ^ (101 : Int) := by
    calc (2 : ℚ) ^ (52 + f) = 2 ^ 52 * 2 ^ f := by
          rw [zpow_add₀ (by norm_num)]
          norm_num
      _ ≤ n * 2 ^ f := mul_le_mul_of_nonneg_right (by exact_mod_cast low) (by positivity)
      _ ≤ 2 * 2 ^ 100 := hvalue.trans (by linarith)
      _ = 2 ^ (101 : Int) := by norm_num
  have := (zpow_le_zpow_iff_right₀ (by norm_num)).mp hpow
  omega

/-- With the other sign it is as near. -/
theorem Near.neg {x : Float} (h : Near s q x.toModel.unpack) (hq : q ≤ 2 ^ 100) :
    Near (-s) q (-x).toModel.unpack := by
  have hneg : Near (-s) q x.toModel.unpack.neg := by
    generalize x.toModel.unpack = u at h
    obtain @⟨n, f, hpos, low, high, least, error⟩ := h
    exact .intro hpos low high least error
  show Near (-s) q (Float.Model.pack x.toModel.unpack.neg).unpack
  rwa [hneg.unpack_pack hq]

/-! ## A count of decimal places -/

/-- Any number that is shorter is shifted to fifty-three bits. -/
private theorem bits_shiftLeft (hpos : 0 < n) (hk : n.log2 + k = 52) :
    2 ^ 52 ≤ n <<< k ∧ n <<< k < 2 ^ 53 := by
  rw [Nat.shiftLeft_eq]
  constructor
  · rw [← hk, Nat.pow_add]
    exact Nat.mul_le_mul_right _ (Nat.log2_self_le hpos.ne')
  · calc n * 2 ^ k < 2 ^ (n.log2 + 1) * 2 ^ k :=
          Nat.mul_lt_mul_of_pos_right Nat.lt_log2_self (by positivity)
      _ = 2 ^ 53 := by
          rw [← Nat.pow_add]
          congr 1
          omega

/-- A whole number below `2 ^ 53` is a number exactly. -/
private theorem unpack_toFloat (hpos : 0 < n) (hn : n < 2 ^ 53) (hk : n.log2 + k = 52)
    (h : 0 < n <<< k) :
    n.toUInt64.toFloat.toModel.unpack = .finite .positive (n <<< k) (-(k : Int)) h := by
  obtain ⟨hlow, hhigh⟩ := bits_shiftLeft hpos hk
  have htarget : (0 - Format.binary64.targetExponent (totalExponent n 0)).toNat = k := by
    simp only [Format.targetExponent, totalExponent, Format.mantissaBits, Format.minExponent]
    omega
  have hround : UnpackedFloat.round .binary64 .positive n 0 =
      .finite .positive (n <<< k) (-(k : Int)) h := by
    rw [UnpackedFloat.round, decreaseExponent, htarget]
    dsimp only
    rw [Int.zero_sub, roundWithAccuracy_exact .positive hlow hhigh (by omega) h]
  have hofNat : UnpackedFloat.ofNat .binary64 n = UnpackedFloat.round .binary64 .positive n 0 := by
    have hsign : compare (n : Int) 0 = .gt := Int.compare_eq_gt.mpr (by omega)
    rw [UnpackedFloat.ofNat, UnpackedFloat.ofInt, UnpackedFloat.normalize, hsign]
    rfl
  have hvalue : n.toUInt64.toNat = n :=
    UInt64.toNat_ofNat_of_lt (show n < 2 ^ 64 by omega)
  show (Float.Model.pack (UnpackedFloat.ofNat .binary64 n.toUInt64.toNat)).unpack = _
  rw [hvalue, hofNat, hround]
  exact unpack_pack _ hlow hhigh (by omega) (by omega) _

/-- The tenth power of ten is a number exactly. -/
private theorem unpack_tenPow : Float.exactlyRepresentablePowersOfTen[10].toModel.unpack =
    .finite .positive (10 ^ 10 * 2 ^ 19) (-19) (by decide) := by
  rfl

/-- Two numbers below `2 ^ 53` are divided as numbers. -/
private theorem near_of_small (hpos : 0 < n) (hn : n < 2 ^ 53) (hq : (n / 10 ^ 10 : ℚ) ≤ 2 ^ 100) :
    Near .positive (n / 10 ^ 10)
      (n.toUInt64.toFloat / Float.exactlyRepresentablePowersOfTen[10]).toModel.unpack := by
  obtain ⟨k, hk⟩ : ∃ k, n.log2 + k = 52 := by
    have := (Nat.log2_lt hpos.ne').mpr hn
    exact ⟨52 - n.log2, by omega⟩
  obtain ⟨hlow, hhigh⟩ := bits_shiftLeft hpos hk
  have hshift : 0 < n <<< k := by omega
  have hlog : (n <<< k).log2 = 52 := (Nat.log2_eq_iff hshift.ne').mpr ⟨hlow, hhigh⟩
  have hlog' : Nat.log2 (10 ^ 10 * 2 ^ 19) = 52 := (Nat.log2_eq_iff (by decide)).mpr (by decide)
  have hvalue : ((n <<< k : Nat) : ℚ) * 2 ^ (-(k : Int)) /
      (((10 ^ 10 * 2 ^ 19 : Nat) : ℚ) * 2 ^ (-19 : Int)) = n / 10 ^ 10 := by
    rw [Nat.shiftLeft_eq, zpow_neg, zpow_natCast]
    push_cast
    rw [mul_inv_cancel_right₀ (by positivity)]
    norm_num
  have hnear := near_div .positive .positive hshift (show 0 < 10 ^ 10 * 2 ^ 19 by decide)
    (show -1074 ≤ -(k : Int) - -19 by omega)
    (by rw [totalExponent, totalExponent, hlog, hlog']; omega)
  rw [hvalue] at hnear
  show Near _ _ (Float.Model.pack (div .binary64 n.toUInt64.toFloat.toModel.unpack
    Float.exactlyRepresentablePowersOfTen[10].toModel.unpack)).unpack
  rw [unpack_toFloat hpos hn hk hshift, unpack_tenPow, hnear.unpack_pack hq]
  exact hnear

/-- Others are divided as if they were numbers. -/
private theorem near_of_large (hpos : 0 < n) (hq : (n / 10 ^ 10 : ℚ) ≤ 2 ^ 100) :
    Near .positive (n / 10 ^ 10) (Float.Model.ofScientific n (-10)).unpack := by
  have hlog : Nat.log2 (10 ^ 10) = 33 := (Nat.log2_eq_iff (by decide)).mpr (by decide)
  have hnear := near_div .positive .positive hpos (show 0 < 10 ^ 10 by decide)
    (show -1074 ≤ (0 : Int) - 0 by decide) (by rw [totalExponent, totalExponent, hlog]; omega)
  rw [zpow_zero, mul_one, mul_one, Nat.cast_pow, Nat.cast_ofNat] at hnear
  have hdiv : UnpackedFloat.ofScientific .binary64 n (-10) =
      div .binary64 (.finite .positive n 0 hpos) (.finite .positive (10 ^ 10) 0 (by decide)) := by
    have hrange : ¬(-10 : Int) < -((2 ^ Format.binary64.exponentBits : Int) + n.log2) := by
      show ¬(-10 : Int) < -(2048 + (n.log2 : Int))
      omega
    rw [UnpackedFloat.ofScientific, dif_neg hpos.ne', if_neg (by decide), if_neg hrange,
      if_neg (by decide)]
    rfl
  rw [Float.Model.ofScientific, hdiv, hnear.unpack_pack hq]
  exact hnear

/-- **A count of tenth decimal places is near its exact value.** -/
theorem near_ofScientific (hpos : 0 < n) (hn : n ≤ 2 ^ 100) :
    Near .positive (n / 10 ^ 10) (Float.ofScientific n true 10).toModel.unpack := by
  have hq : (n / 10 ^ 10 : ℚ) ≤ 2 ^ 100 := by
    have hcast : (n : ℚ) ≤ 2 ^ 100 := by exact_mod_cast hn
    linarith
  rw [Float.ofScientific]
  split
  · rename_i hsmall
    exact near_of_small hpos hsmall.1 hq
  · exact near_of_large hpos hq

end Questionnaire.Decimal
