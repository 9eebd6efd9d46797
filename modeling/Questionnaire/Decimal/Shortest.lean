import Questionnaire.Decimal.Basic
import Questionnaire.Decimal.Binary
/-!
The fewest digits that identify a number. The reals that round to a binary number form an
interval around it, its ends included when the mantissa is even; the digits chosen are those of
the coarsest decimal grid with a point in that interval, and on it of the nearest such point. The
two neighbours of the number are the only points that need a test.
-/
namespace Questionnaire.Decimal

/-- How `a * 10 ^ i` compares with `n * 2 ^ j`, exactly. -/
def compareScaled (a : Nat) (i : Int) (n : Nat) (j : Int) : Ordering :=
  compare (a * Nat.pow 10 i.toNat * Nat.pow 2 (-j).toNat)
    (n * Nat.pow 2 j.toNat * Nat.pow 10 (-i).toNat)

/-- Whether the numeral is one of the reals that round to the binary number. -/
def Binary.isReadFrom (b : Binary) (d : Numeral) : Bool :=
  -- The interval reaches half a unit up and half a unit down, in quarters of a unit; below a
  -- power of two the numbers lie closer and it reaches a quarter down.
  let low := if b.narrowBelow then 4 * b.mantissa - 1 else 4 * b.mantissa - 2
  let ends := b.mantissa % 2 == 0
  let atLow := compareScaled d.digits d.exponent low (b.exponent - 2)
  let atHigh := compareScaled d.digits d.exponent (4 * b.mantissa + 2) (b.exponent - 2)
  (atLow == .gt || (ends && atLow == .eq)) && (atHigh == .lt || (ends && atHigh == .eq))

/-- The first `k` from `k` on with the number below `10 ^ k`, within `steps`. -/
def Binary.climb (b : Binary) : Nat → Int → Int
  | 0, k => k
  | steps + 1, k =>
    if compareScaled 1 k b.mantissa b.exponent == .gt then k else b.climb steps (k + 1)

/-- The least `k` with the number below `10 ^ k`, from an estimate by the binary logarithm. -/
def Binary.places (b : Binary) : Int :=
  b.climb 4 (((b.mantissa.log2 : Int) + b.exponent) * 30103 / 100000 - 1)

/-- The greatest multiple of `10 ^ e` that is at most the number. -/
def Binary.floorOn (b : Binary) (e : Int) : Nat :=
  b.mantissa * Nat.pow 2 b.exponent.toNat * Nat.pow 10 (-e).toNat /
    (Nat.pow 2 (-b.exponent).toNat * Nat.pow 10 e.toNat)

/-- The point of the grid `10 ^ e` that is read back as the number, the nearer one of two, on a
tie the even one. -/
def Binary.onGrid? (b : Binary) (e : Int) : Option Numeral :=
  let below := b.floorOn e
  match b.isReadFrom ⟨below, e⟩, b.isReadFrom ⟨below + 1, e⟩ with
  | false, false => none
  | true, false => some ⟨below, e⟩
  | false, true => some ⟨below + 1, e⟩
  | true, true =>
    match compareScaled (2 * below + 1) e (2 * b.mantissa) b.exponent with
    | .lt => some ⟨below + 1, e⟩
    | .gt => some ⟨below, e⟩
    | .eq => some ⟨if below % 2 = 0 then below else below + 1, e⟩

/-- The first grid with a hit, going down from `10 ^ e` by one place at a time. -/
def Binary.search (b : Binary) : Nat → Int → Option Numeral
  | 0, _ => none
  | steps + 1, e => (b.onGrid? e).or (b.search steps (e - 1))

/-- The exact decimal value of a binary number. -/
def Binary.exact (b : Binary) : Numeral :=
  if 0 ≤ b.exponent then ⟨b.mantissa * Nat.pow 2 b.exponent.toNat, 0⟩
  else ⟨b.mantissa * Nat.pow 5 b.exponent.natAbs, b.exponent⟩

/-- The numeral without the zeros at the end of its digits. -/
def Numeral.strip : Nat → Numeral → Numeral
  | 0, d => d
  | steps + 1, d =>
    if d.digits % 10 = 0 then Numeral.strip steps ⟨d.digits / 10, d.exponent + 1⟩ else d

/-- The fewest digits that are read back as the number, which is not zero. Seventeen grids are
enough; should none have a hit, the exact value stands in. -/
def Binary.shortest (b : Binary) : Numeral :=
  Numeral.strip 18 ((b.search 17 (b.places - 1)).getD b.exact)

end Questionnaire.Decimal
