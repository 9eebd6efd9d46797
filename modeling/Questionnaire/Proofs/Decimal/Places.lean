import Questionnaire.Decimal.Places
import Questionnaire.Proofs.Decimal.Rounding
import Questionnaire.Proofs.Decimal.Writing

/-!
# Displayed numbers

A number is rounded to ten decimal places before it is displayed. What it is rounded
to is a count of tenth places, divided by `10 ^ 10` (`placeCount`). A number that
becomes zero or whole is displayed by its digits alone and one from `10 ^ -4` on with
a point, but between half a tenth place and `10 ^ -4` an exponent is needed (`IsFaint`).
So exactly the faint numbers are displayed as what is no plain number
(`isPlainNumber_displayFloat`).
-/

namespace Questionnaire.Decimal

open Text Float.Model UnpackedFloat

variable {x y : Float} {k num den : Nat} {q : ℚ} {s : Sign}

/-! ## Rounding to a whole number -/

private theorem roundQuotient_eq (num den : Nat) : roundQuotient num den =
    if 2 * (num % den) < den ∨ 2 * (num % den) = den ∧ num / den % 2 = 0 then num / den
    else num / den + 1 := by
  rw [roundQuotient]
  split
  · rename_i hlt
    rw [if_pos (.inl (Nat.compare_eq_lt.mp hlt))]
  · rename_i hgt
    have hgt := Nat.compare_eq_gt.mp hgt
    rw [if_neg (by omega)]
  · rename_i heq
    have heq := Nat.compare_eq_eq.mp heq
    simp [heq]

/-- The numbers that are rounded to at most `k`, which is even: those up to the half above it. -/
theorem roundQuotient_le_iff (hden : 0 < den) (heven : k % 2 = 0) :
    roundQuotient num den ≤ k ↔ 2 * num ≤ 2 * (den * k) + den := by
  have hsplit := Nat.div_add_mod num den
  have hrest := Nat.mod_lt num hden
  rw [roundQuotient_eq]
  generalize num / den = whole at *
  generalize num % den = rest at *
  rcases Nat.lt_trichotomy whole k with hlt | rfl | hgt
  · have hmul : den * (whole + 1) ≤ den * k := Nat.mul_le_mul_left _ hlt
    rw [Nat.mul_add, Nat.mul_one] at hmul
    split <;> omega
  · split <;> omega
  · have hmul : den * (k + 1) ≤ den * whole := Nat.mul_le_mul_left _ hgt
    rw [Nat.mul_add, Nat.mul_one] at hmul
    split <;> omega

/-- The numbers that are rounded to at least `k`, which is even: those from the half below it. -/
theorem le_roundQuotient_iff (hden : 0 < den) (heven : k % 2 = 0) :
    k ≤ roundQuotient num den ↔ 2 * (den * k) ≤ 2 * num + den := by
  have hsplit := Nat.div_add_mod num den
  have hrest := Nat.mod_lt num hden
  rw [roundQuotient_eq]
  generalize num / den = whole at *
  generalize num % den = rest at *
  rcases Nat.lt_trichotomy (whole + 1) k with hlt | rfl | hgt
  · have hmul : den * (whole + 2) ≤ den * k := Nat.mul_le_mul_left _ hlt
    rw [Nat.mul_add] at hmul
    split <;> omega
  · rw [Nat.mul_add, Nat.mul_one]
    split <;> omega
  · have hmul : den * k ≤ den * whole := Nat.mul_le_mul_left _ (Nat.le_of_lt_succ hgt)
    split <;> omega

/-! ## Faint numbers -/

/-- More than half a tenth decimal place, so that the number is not rounded to zero, but rounded to
less than `10 ^ -4`. -/
def IsFaint (x : Float) : Prop :=
  1 / (2 * 10 ^ 10) < magnitude x ∧ magnitude x < (10 ^ 6 - 1 / 2) / 10 ^ 10

/-- The number of tenth decimal places that a number is rounded to. -/
def placeCount (x : Float) : Nat :=
  roundQuotient ((Binary.ofFloat x).mantissa * Nat.pow 10 displayPlaces)
    (Nat.pow 2 (Binary.ofFloat x).exponent.natAbs)

theorem magnitude_of_neg (h : (Binary.ofFloat x).exponent < 0) : magnitude x =
    (Binary.ofFloat x).mantissa / (2 ^ (Binary.ofFloat x).exponent.natAbs : Nat) := by
  obtain ⟨k, hk⟩ : ∃ k : Nat, (Binary.ofFloat x).exponent = -(k : Int) :=
    ⟨(Binary.ofFloat x).exponent.natAbs, by omega⟩
  rw [magnitude, Binary.value, hk, zpow_neg, zpow_natCast, Int.natAbs_neg, Int.natAbs_natCast]
  push_cast
  rw [div_eq_mul_inv]

theorem placeCount_le_iff (h : (Binary.ofFloat x).exponent < 0) (heven : k % 2 = 0) :
    placeCount x ≤ k ↔ magnitude x ≤ (2 * k + 1) / (2 * 10 ^ 10) := by
  have hden : 0 < 2 ^ (Binary.ofFloat x).exponent.natAbs := by positivity
  have hden' : (0 : ℚ) < (2 ^ (Binary.ofFloat x).exponent.natAbs : Nat) := by exact_mod_cast hden
  rw [placeCount, Nat.pow_eq, Nat.pow_eq, roundQuotient_le_iff hden heven, magnitude_of_neg h,
    div_le_div_iff₀ hden' (by norm_num), displayPlaces]
  generalize 2 ^ (Binary.ofFloat x).exponent.natAbs = den
  rw [← Nat.cast_le (α := ℚ)]
  push_cast
  constructor <;> intro hle <;> linarith

theorem le_placeCount_iff (h : (Binary.ofFloat x).exponent < 0) (heven : k % 2 = 0) :
    k ≤ placeCount x ↔ (2 * k - 1) / (2 * 10 ^ 10) ≤ magnitude x := by
  have hden : 0 < 2 ^ (Binary.ofFloat x).exponent.natAbs := by positivity
  have hden' : (0 : ℚ) < (2 ^ (Binary.ofFloat x).exponent.natAbs : Nat) := by exact_mod_cast hden
  rw [placeCount, Nat.pow_eq, Nat.pow_eq, le_roundQuotient_iff hden heven, magnitude_of_neg h,
    div_le_div_iff₀ (by norm_num) hden', displayPlaces]
  generalize 2 ^ (Binary.ofFloat x).exponent.natAbs = den
  rw [← Nat.cast_le (α := ℚ)]
  push_cast
  constructor <;> intro hle <;> linarith

/-- A number is faint exactly if it is rounded to few places. -/
theorem isFaint_iff (h : (Binary.ofFloat x).exponent < 0) :
    IsFaint x ↔ 0 < placeCount x ∧ placeCount x < 10 ^ 6 := by
  have hzero := (placeCount_le_iff h (show 0 % 2 = 0 from rfl)).not
  have hmany := (le_placeCount_iff h (show 10 ^ 6 % 2 = 0 from rfl)).not
  rw [not_le, not_le] at hzero hmany
  rw [IsFaint, hzero, hmany]
  norm_num

/-- No whole number is faint. -/
theorem not_isFaint_of_whole? {n : Nat} (h : (Binary.ofFloat x).whole? = some n) : ¬IsFaint x := by
  rintro ⟨hlow, hhigh⟩
  rw [magnitude, value_of_whole? h] at hlow hhigh
  have hpos : (0 : ℚ) < n := lt_trans (by norm_num) hlow
  have hone : (1 : ℚ) ≤ n := by exact_mod_cast Nat.cast_pos.mp hpos
  exact absurd (hone.trans_lt hhigh) (by norm_num)

/-! ## The rounded number -/

theorem placeCount_le (x : Float) : placeCount x ≤ 2 ^ 100 := by
  have hmantissa := mantissa_ofFloat_lt x
  have hdiv := Nat.div_le_self ((Binary.ofFloat x).mantissa * 10 ^ 10)
    (2 ^ (Binary.ofFloat x).exponent.natAbs)
  rw [placeCount, roundQuotient_eq, Nat.pow_eq, Nat.pow_eq, displayPlaces]
  split <;> omega

theorem roundPlaces_eq (h : (Binary.ofFloat x).exponent < 0) : roundPlaces x =
    if isNegative x = true then -Float.ofScientific (placeCount x) true 10
    else Float.ofScientific (placeCount x) true 10 :=
  if_neg (by omega)

/-- The rounded number is near the exact count of places, unless that is zero. -/
theorem near_roundPlaces (h : (Binary.ofFloat x).exponent < 0) (hpos : 0 < placeCount x) :
    ∃ s, Near s (placeCount x / 10 ^ 10) (roundPlaces x).toModel.unpack := by
  have hnear := near_ofScientific hpos (placeCount_le x)
  rw [roundPlaces_eq h]
  split
  · refine ⟨_, hnear.neg ?_⟩
    have hcast : (placeCount x : ℚ) ≤ 2 ^ 100 := by exact_mod_cast placeCount_le x
    linarith
  · exact ⟨_, hnear⟩

/-- The magnitude of a near number. -/
theorem Near.ofFloat (h : Near s q y.toModel.unpack) : 2 ^ 52 ≤ (Binary.ofFloat y).mantissa ∧
    (Binary.ofFloat y).mantissa < 2 ^ 53 ∧ |magnitude y - q| * 2 ^ 52 ≤ q := by
  generalize hu : y.toModel.unpack = u at h
  obtain @⟨n, f, hpos, low, high, least, error⟩ := h
  obtain ⟨hmantissa, hexponent⟩ := ofFloat_of_unpack hu
  rw [magnitude, Binary.value, hmantissa, hexponent]
  exact ⟨low, high, error⟩

theorem Near.not_special (h : Near s q y.toModel.unpack) :
    y.isNaN = false ∧ y.isInf = false := by
  show y.toModel.unpack.isNaN = false ∧ y.toModel.unpack.isInf = false
  generalize y.toModel.unpack = u at h
  cases h
  exact ⟨rfl, rfl⟩

/-- A near number is written with the digits chosen for it. -/
theorem Near.writeFloat (h : Near s q y.toModel.unpack) : writeFloat y =
    if isNegative y = true then '-' :: (Binary.ofFloat y).shortest.write
    else (Binary.ofFloat y).shortest.write := by
  obtain ⟨hlow, -, -⟩ := h.ofFloat
  obtain ⟨hnan, hinf⟩ := h.not_special
  have hmantissa : (Binary.ofFloat y).mantissa ≠ 0 := by omega
  rw [Decimal.writeFloat, hnan, hinf]
  simp only [Bool.false_eq_true, if_false, if_neg hmantissa]

/-- The digits chosen for a near number are near as well. -/
theorem Near.value_shortest (h : Near s q y.toModel.unpack) :
    |(Binary.ofFloat y).shortest.value - q| * 2 ^ 51 ≤ q := by
  obtain ⟨hlow, -, herror⟩ := h.ofFloat
  have hdigits := near_shortest (b := Binary.ofFloat y) (by omega)
  rw [← magnitude] at hdigits
  -- Half the weight of the last bit is little in comparison with the first.
  have hhalf : (Binary.ofFloat y).half * 2 ^ 53 ≤ magnitude y := by
    have hfirst : (2 ^ 52 : ℚ) * 2 ^ (Binary.ofFloat y).exponent ≤ magnitude y :=
      mul_le_mul_of_nonneg_right (by exact_mod_cast hlow) (by positivity)
    rw [Binary.half, zpow_sub_one₀ (by norm_num)]
    linarith
  have htriangle := abs_sub_le (Binary.ofFloat y).shortest.value (magnitude y) q
  have hvalue := le_abs_self (magnitude y - q)
  have hnonneg := abs_nonneg (magnitude y - q)
  linarith

/-- A whole number is not small. -/
theorem Near.ge_of_whole? (h : Near s q y.toModel.unpack) {n : Nat}
    (hwhole : (Binary.ofFloat y).whole? = some n) : 1 / 2 ≤ q := by
  obtain ⟨hlow, -, herror⟩ := h.ofFloat
  have hpos : 0 < magnitude y := by
    have hmantissa : (0 : ℚ) < (Binary.ofFloat y).mantissa := by exact_mod_cast (by omega)
    rw [magnitude, Binary.value]
    positivity
  rw [magnitude, value_of_whole? hwhole] at hpos herror
  have hone : (1 : ℚ) ≤ n := by exact_mod_cast Nat.cast_pos.mp hpos
  have hle := le_abs_self (n - q)
  have hnonneg := abs_nonneg (n - q)
  linarith

/-- What is no whole number is not large. -/
theorem Near.le_of_whole? (h : Near s q y.toModel.unpack)
    (hwhole : (Binary.ofFloat y).whole? = none) : q ≤ 2 ^ 52 + 2 := by
  obtain ⟨-, hhigh, herror⟩ := h.ofFloat
  have hneg : (Binary.ofFloat y).exponent ≤ -1 := by
    rw [Binary.whole?] at hwhole
    split at hwhole
    · cases hwhole
    · omega
  have hvalue : magnitude y ≤ 2 ^ 53 * 2 ^ (-1 : Int) :=
    mul_le_mul (by exact_mod_cast hhigh.le) (zpow_le_zpow_right₀ (by norm_num) hneg)
      (by positivity) (by positivity)
  have hhalf : (2 : ℚ) ^ (-1 : Int) = 1 / 2 := by norm_num
  have hle := neg_abs_le (magnitude y - q)
  have hnonneg := abs_nonneg (magnitude y - q)
  rw [hhalf] at hvalue
  linarith

/-! ## What is displayed -/

/-- A near number above `10 ^ -4` is written as a plain number. -/
theorem Near.isPlainNumber_writeFloat (h : Near s q y.toModel.unpack)
    (hwhole : (Binary.ofFloat y).whole? = none) (hlow : (10 ^ 6 + 1) / 10 ^ 10 ≤ q) :
    isPlainNumber (Decimal.writeFloat y) = true := by
  have hdigits := h.value_shortest
  have hhigh := h.le_of_whole? hwhole
  have hbelow := neg_abs_le ((Binary.ofFloat y).shortest.value - q)
  have habove := le_abs_self ((Binary.ofFloat y).shortest.value - q)
  have hplain : isPlainDecimal (Binary.ofFloat y).shortest.write = true :=
    isPlainDecimal_write (by linarith) (by linarith)
  rw [h.writeFloat]
  split
  · exact isPlainNumber_minus hplain
  · exact isPlainNumber_of_isPlainDecimal hplain

/-- One below `10 ^ -4` is not. -/
theorem Near.not_isPlainNumber_writeFloat (h : Near s q y.toModel.unpack) (hpos : 0 < q)
    (hhigh : q ≤ (10 ^ 6 - 1) / 10 ^ 10) : isPlainNumber (Decimal.writeFloat y) = false := by
  have hdigits := h.value_shortest
  have hbelow := neg_abs_le ((Binary.ofFloat y).shortest.value - q)
  have habove := le_abs_self ((Binary.ofFloat y).shortest.value - q)
  have hmark : 'e' ∈ (Binary.ofFloat y).shortest.write :=
    mark_mem_write (by linarith) fun hordinary => absurd hordinary.1 (by
      rw [not_le]
      linarith)
  refine isPlainNumber_of_mark ?_
  rw [h.writeFloat]
  split
  · exact List.mem_cons_of_mem _ hmark
  · exact hmark

/-- Zero is whole. -/
private theorem whole?_of_zero {b : Binary} (h : b.mantissa = 0) : b.whole? = some 0 := by
  rw [Binary.whole?, h]
  simp

private theorem displayFloat_of_whole? (hfinite : (x.isNaN || x.isInf) = false) {n : Nat}
    (h : (Binary.ofFloat (roundPlaces x)).whole? = some n) :
    isPlainNumber (displayFloat x) = true := by
  rw [displayFloat, hfinite, if_neg Bool.false_ne_true]
  dsimp only
  rw [h]
  exact isPlainNumber_writeInt _

private theorem displayFloat_of_fraction (hfinite : (x.isNaN || x.isInf) = false)
    (h : (Binary.ofFloat (roundPlaces x)).whole? = none) :
    displayFloat x = writeFloat (roundPlaces x) := by
  rw [displayFloat, hfinite, if_neg Bool.false_ne_true]
  dsimp only
  rw [h]

/-- A number that is rounded to `10 ^ -4` is displayed with a point, its digit being just that. -/
private theorem isPlainNumber_of_limit (h : (Binary.ofFloat x).exponent < 0)
    (hlimit : placeCount x = 10 ^ 6) : isPlainNumber (writeFloat (roundPlaces x)) = true := by
  rw [roundPlaces_eq h, hlimit]
  split <;> decide

private theorem isPlainNumber_of_rounded (hfinite : (x.isNaN || x.isInf) = false)
    (h : (Binary.ofFloat x).exponent < 0) (hpos : 0 < placeCount x) :
    isPlainNumber (displayFloat x) = true ↔ 10 ^ 6 ≤ placeCount x := by
  obtain ⟨s, hnear⟩ := near_roundPlaces h hpos
  cases hwhole : (Binary.ofFloat (roundPlaces x)).whole? with
  | some n =>
      have hlarge := hnear.ge_of_whole? hwhole
      refine iff_of_true (displayFloat_of_whole? hfinite hwhole) ?_
      have hcount : ((10 ^ 6 : Nat) : ℚ) ≤ placeCount x := by
        push_cast
        linarith
      exact_mod_cast hcount
  | none =>
      rw [displayFloat_of_fraction hfinite hwhole]
      rcases Nat.lt_trichotomy (placeCount x) (10 ^ 6) with hlt | heq | hgt
      · have hcount : (placeCount x : ℚ) + 1 ≤ 10 ^ 6 := by exact_mod_cast hlt
        have hcount' : (0 : ℚ) < placeCount x := by exact_mod_cast hpos
        refine iff_of_false ?_ (by omega)
        rw [hnear.not_isPlainNumber_writeFloat (by positivity) (by linarith)]
        exact Bool.false_ne_true
      · exact iff_of_true (isPlainNumber_of_limit h heq) heq.ge
      · have hcount : (10 ^ 6 : ℚ) + 1 ≤ placeCount x := by exact_mod_cast hgt
        exact iff_of_true (hnear.isPlainNumber_writeFloat hwhole (by linarith)) hgt.le

/-- **Exactly the faint numbers are displayed as what is no plain number.** -/
theorem isPlainNumber_displayFloat (x : Float) :
    isPlainNumber (displayFloat x) = true ↔ ¬IsFaint x := by
  have hwhole : 0 ≤ (Binary.ofFloat x).exponent → ∃ n, (Binary.ofFloat x).whole? = some n :=
    fun h => ⟨_, if_pos h⟩
  cases hfinite : x.isNaN || x.isInf with
  | true =>
      obtain ⟨n, hn⟩ := hwhole (by rw [exponent_of_not_finite hfinite]; decide)
      rw [displayFloat, hfinite, if_pos rfl]
      exact iff_of_true (by decide) (not_isFaint_of_whole? hn)
  | false =>
      rcases lt_or_ge (Binary.ofFloat x).exponent 0 with hneg | hnonneg
      · rw [isFaint_iff hneg]
        rcases Nat.eq_zero_or_pos (placeCount x) with hzero | hpos
        · refine iff_of_true (displayFloat_of_whole? (n := 0) hfinite (whole?_of_zero ?_)) (by omega)
          rw [roundPlaces_eq hneg, hzero]
          split <;> decide
        · rw [isPlainNumber_of_rounded hfinite hneg hpos]
          omega
      · obtain ⟨n, hn⟩ := hwhole hnonneg
        have hround : roundPlaces x = x := if_pos hnonneg
        exact iff_of_true (displayFloat_of_whole? hfinite (by rw [hround]; exact hn))
          (not_isFaint_of_whole? hn)

example : displayFloat 0.00001 = "1e-05".toList := by decide

end Questionnaire.Decimal
