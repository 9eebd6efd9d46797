import Questionnaire.Decimal.Binary
import Mathlib

/-!
# The magnitude of a number

`Binary.ofFloat` takes a mantissa and an exponent from the bits of a number. They
are those that the arithmetic of floating-point numbers unpacks (`unpacks_ofFloat`),
and a number of fifty-three bits whose exponent is in range is packed without loss
(`unpack_pack`). So what that arithmetic computes is known by its magnitude, a
rational number (`magnitude`).
-/

namespace Questionnaire.Decimal

open Float.Model UnpackedFloat

/-- The rational number that a binary number stands for. -/
def Binary.value (b : Binary) : ℚ := b.mantissa * 2 ^ b.exponent

/-- A number without its sign. -/
def magnitude (x : Float) : ℚ := (Binary.ofFloat x).value

/-- A whole number is its own value. -/
theorem value_of_whole? {b : Binary} {n : Nat} (h : b.whole? = some n) : b.value = n := by
  rw [Binary.whole?] at h
  split at h
  · rename_i hnonneg
    cases h
    rw [Binary.value, Nat.pow_eq, ← Int.toNat_of_nonneg hnonneg, zpow_natCast]
    push_cast
    rfl
  · split at h
    · rename_i hneg hrest
      cases h
      obtain ⟨k, hk⟩ : ∃ k : Nat, b.exponent = -(k : Int) := ⟨b.exponent.natAbs, by omega⟩
      rw [Nat.pow_eq, hk, Int.natAbs_neg, Int.natAbs_natCast] at hrest ⊢
      have hne : ((2 ^ k : Nat) : ℚ) ≠ 0 := Nat.cast_ne_zero.mpr (Nat.two_pow_pos k).ne'
      rw [Binary.value, hk, zpow_neg, zpow_natCast,
        Nat.cast_div (Nat.dvd_of_mod_eq_zero hrest) hne, div_eq_mul_inv]
      push_cast
      rfl
    · cases h

/-! ## The fields of the bits -/

theorem toNat_scale (bits : UInt64) : ((bits >>> 52) &&& 0x7FF).toNat =
    (@unpackExponent .binary64 bits.toBitVec).toNat := by
  have hmask : UInt64.toNat 0x7FF = 2 ^ 11 - 1 := by decide
  rw [UInt64.toNat_and, hmask, Nat.and_two_pow_sub_one_eq_mod, unpackExponent, BitVec.toNat_cast,
    BitVec.extractLsb_toNat, UInt64.toNat_shiftRight, UInt64.toNat_toBitVec]
  rfl

theorem toNat_fraction (bits : UInt64) : (bits &&& 0xFFFFFFFFFFFFF).toNat =
    (@unpackMantissa .binary64 bits.toBitVec).toNat := by
  have hmask : UInt64.toNat 0xFFFFFFFFFFFFF = 2 ^ 52 - 1 := by decide
  rw [UInt64.toNat_and, hmask, Nat.and_two_pow_sub_one_eq_mod, unpackMantissa, BitVec.toNat_cast,
    BitVec.extractLsb_toNat, UInt64.toNat_toBitVec]
  rfl

/-- A mantissa has at most fifty-three bits. -/
theorem mantissa_ofFloat_lt (x : Float) : (Binary.ofFloat x).mantissa < 2 ^ 53 := by
  have hfraction : (x.toBits &&& 0xFFFFFFFFFFFFF).toNat < 2 ^ 52 := by
    rw [toNat_fraction]
    exact (unpackMantissa _).isLt
  have hpow : Nat.pow 2 52 = 2 ^ 52 := rfl
  rw [Binary.ofFloat, Binary.ofBits]
  split
  · exact Nat.lt_trans hfraction (by decide)
  · show Nat.pow 2 52 + _ < _
    omega

/-! ## Unpacking -/

/-- The implicit bit in front of a mantissa. -/
theorem toNat_implicit {n : Nat} (m : BitVec n) : (1#1 ++ m).toNat = 2 ^ n + m.toNat := by
  rw [BitVec.toNat_append, ← Nat.shiftLeft_add_eq_or_of_lt m.isLt]
  simp [Nat.shiftLeft_eq]

/-- What the magnitude of a number is if its bits are unpacked to this. -/
def Binary.Unpacks (b : Binary) : UnpackedFloat → Prop
  | .finite _ m e _ => b.mantissa = m ∧ b.exponent = e
  | .zero _ => b.mantissa = 0
  | .infinity _ => b.exponent = 972
  | .notANumber => b.exponent = 972

/-- **The magnitude is what the bits are unpacked to.** -/
theorem unpacks_ofFloat (x : Float) : (Binary.ofFloat x).Unpacks x.toModel.unpack := by
  rw [Float.Model.unpack, UnpackedFloat.unpack, Binary.ofFloat, Binary.ofBits, toNat_scale,
    toNat_fraction, Float.toBits]
  dsimp only
  generalize @unpackExponent .binary64 x.toModel.toBits.toBitVec = scale
  by_cases hall : scale = -1#11
  · rw [if_pos hall, if_neg (by rw [hall]; decide), hall]
    split <;> rfl
  rw [if_neg hall]
  by_cases hzero : scale = 0#11
  · rw [if_pos hzero, if_pos (by rw [hzero]; rfl), hzero]
    split
    · rename_i hfraction
      rw [hfraction]
      rfl
    · exact ⟨rfl, rfl⟩
  · have hscale : scale.toNat ≠ 0 := fun h => hzero (BitVec.eq_of_toNat_eq h)
    rw [if_neg hzero, if_neg hscale, Binary.Unpacks, toNat_implicit]
    exact ⟨rfl, rfl⟩

theorem ofFloat_of_unpack {x : Float} {s : Sign} {m : Nat} {e : Int} {h : 0 < m}
    (hx : x.toModel.unpack = .finite s m e h) :
    (Binary.ofFloat x).mantissa = m ∧ (Binary.ofFloat x).exponent = e := by
  have := unpacks_ofFloat x
  rwa [hx] at this

/-- What is not finite has an exponent beyond the range. -/
theorem exponent_of_not_finite {x : Float} (hx : (x.isNaN || x.isInf) = true) :
    (Binary.ofFloat x).exponent = 972 := by
  have hexponent := unpacks_ofFloat x
  have hspecial : (x.toModel.unpack.isNaN || x.toModel.unpack.isInf) = true := hx
  cases hunpack : x.toModel.unpack <;> rw [hunpack] at hexponent hspecial
  case infinity => exact hexponent
  case notANumber => exact hexponent
  all_goals cases hspecial

/-! ## Packing -/

private theorem pack_finite (s : Sign) {m : Nat} {e : Int} (hlow : 2 ^ 52 ≤ m)
    (hhigh : m < 2 ^ 53) (hmost : e ≤ 971) (h : 0 < m) :
    UnpackedFloat.pack .binary64 (.finite s m e h) =
      packComponents .binary64 s (BitVec.ofNat 11 (e + 1075).toNat) (BitVec.ofNat 52 m) := by
  have hlog : m.log2 = 52 := (Nat.log2_eq_iff h.ne').mpr ⟨hlow, hhigh⟩
  have hbias : e + (Format.binary64.exponentBias : Int) + (52 : Nat) = e + 1075 := by
    simp only [Format.exponentBias]
    omega
  simp only [UnpackedFloat.pack, hlog, hbias, Format.mantissaBits]
  rw [if_neg (by omega), if_pos (by decide)]

/-- **A number of fifty-three bits is packed without loss.** -/
theorem unpack_pack (s : Sign) {m : Nat} {e : Int} (hlow : 2 ^ 52 ≤ m) (hhigh : m < 2 ^ 53)
    (hleast : -1074 ≤ e) (hmost : e ≤ 971) (h : 0 < m) :
    (Float.Model.pack (.finite s m e h)).unpack = .finite s m e h := by
  have hscale : (BitVec.ofNat 11 (e + 1075).toNat).toNat = (e + 1075).toNat := by
    rw [BitVec.toNat_ofNat, Nat.mod_eq_of_lt (by omega)]
  have hfraction : 2 ^ 52 + (BitVec.ofNat 52 m).toNat = m := by
    rw [BitVec.toNat_ofNat]
    omega
  -- The two exponents that are kept for other purposes are not met.
  have hall : BitVec.ofNat 11 (e + 1075).toNat ≠ -1#11 := by
    intro hall
    have hvalue : (e + 1075).toNat = 2047 := hscale.symm.trans (congrArg BitVec.toNat hall)
    omega
  have hzero : BitVec.ofNat 11 (e + 1075).toNat ≠ 0#11 := by
    intro hzero
    have hvalue : (e + 1075).toNat = 0 := hscale.symm.trans (congrArg BitVec.toNat hzero)
    omega
  show UnpackedFloat.unpack .binary64 (UnpackedFloat.pack .binary64 (.finite s m e h)) = _
  rw [pack_finite s hlow hhigh hmost]
  simp only [UnpackedFloat.unpack, unpackExponent_packComponents, unpackMantissa_packComponents,
    unpackSign_packComponents, Sign.ofBitVec_toBitVec, toNat_implicit, hfraction, hscale, if_neg hall,
    if_neg hzero]
  congr 1
  simp only [Format.exponentBias]
  omega

end Questionnaire.Decimal
