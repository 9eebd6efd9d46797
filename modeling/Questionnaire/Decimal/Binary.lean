/-!
Binary numbers exactly. A finite floating-point number is a natural mantissa times a power of
two; from here on digits are chosen and places are rounded by natural-number arithmetic alone.
-/
namespace Questionnaire.Decimal

/-- A finite floating-point number without its sign: `mantissa * 2 ^ exponent`. -/
structure Binary where
  /-- The mantissa, below `2 ^ 53`. -/
  mantissa : Nat
  /-- The power of two. -/
  exponent : Int
  /-- Whether the neighbour below is half as far away as the neighbour above. -/
  narrowBelow : Bool
deriving DecidableEq, Repr

/-- The number that the bits of a finite value stand for, its sign left out. -/
def Binary.ofBits (bits : UInt64) : Binary :=
  let scale := ((bits >>> 52) &&& 0x7FF).toNat
  let fraction := (bits &&& 0xFFFFFFFFFFFFF).toNat
  if scale = 0 then ⟨fraction, -1074, false⟩
  else ⟨Nat.pow 2 52 + fraction, (scale : Int) - 1075, fraction == 0 && scale > 1⟩

/-- The magnitude of a finite number. -/
def Binary.ofFloat (x : Float) : Binary := .ofBits x.toBits

/-- Whether the sign bit is set; it is on a negative zero too. -/
def isNegative (x : Float) : Bool := x.toBits >>> 63 == 1

/-- The number itself if it is a whole one. -/
def Binary.whole? (b : Binary) : Option Nat :=
  if 0 ≤ b.exponent then some (b.mantissa * Nat.pow 2 b.exponent.toNat)
  else if b.mantissa % Nat.pow 2 b.exponent.natAbs = 0 then
    some (b.mantissa / Nat.pow 2 b.exponent.natAbs)
  else none

end Questionnaire.Decimal
