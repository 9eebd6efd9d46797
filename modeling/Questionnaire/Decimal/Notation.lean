import Questionnaire.Text.Blank
import Questionnaire.Decimal.Shortest
/-!
Writing numbers. A floating-point number is written with the fewest digits that identify it:
positionally while the exponent of its leading digit is from -4 to 15, with a signed exponent of
at least two digits beyond. A positional number always shows a fraction.
-/
namespace Questionnaire.Decimal

/-- A natural number in decimal. -/
def writeNat (n : Nat) : Text := Nat.toDigits 10 n

/-- A whole number in decimal. -/
def writeInt (n : Int) : Text :=
  if n < 0 then '-' :: writeNat n.natAbs else writeNat n.natAbs

/-- An exponent: its sign, and at least two digits. -/
def writeExponent (e : Int) : Text :=
  (if e < 0 then '-' else '+') ::
    (if e.natAbs < 10 then '0' :: writeNat e.natAbs else writeNat e.natAbs)

/-- Digits with a point among, before or behind them; `point` is the number of places before the
point. -/
def writePositional (digits : Text) (point : Int) : Text :=
  if point ≤ 0 then '0' :: '.' :: List.replicate point.natAbs '0' ++ digits
  else if (digits.length : Int) ≤ point then
    digits ++ List.replicate (point.toNat - digits.length) '0' ++ ['.', '0']
  else digits.take point.toNat ++ '.' :: digits.drop point.toNat

/-- Digits with a point behind the first, if there are more, and an exponent. -/
def writeScientific (digits : Text) (e : Int) : Text :=
  match digits with
  | [] => []
  | [d] => d :: 'e' :: writeExponent e
  | d :: rest => d :: '.' :: rest ++ 'e' :: writeExponent e

/-- A numeral without a sign. -/
def Numeral.write (d : Numeral) : Text :=
  let digits := writeNat d.digits
  let point := digits.length + d.exponent
  if -4 < point && point ≤ 16 then writePositional digits point
  else writeScientific digits (point - 1)

/-- A floating-point number in full: all numbers that differ are written differently. -/
def writeFloat (x : Float) : Text :=
  if x.isNaN then "nan".toList
  else
    let magnitude :=
      if x.isInf then "inf".toList
      else
        let b := Binary.ofFloat x
        if b.mantissa = 0 then "0.0".toList else b.shortest.write
    if isNegative x then '-' :: magnitude else magnitude

end Questionnaire.Decimal
