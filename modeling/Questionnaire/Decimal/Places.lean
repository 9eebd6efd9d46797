import Questionnaire.Decimal.Notation
/-!
Numbers for display. A number is rounded to ten places, a half to the even neighbour, and then
written: a whole number by its digits alone, any other in full.
-/
namespace Questionnaire.Decimal

/-- The quotient rounded to the nearest natural number, a half to the even neighbour. -/
def roundQuotient (num den : Nat) : Nat :=
  match compare (2 * (num % den)) den with
  | .lt => num / den
  | .gt => num / den + 1
  | .eq => if num / den % 2 = 0 then num / den else num / den + 1

/-- The number of places that a displayed number keeps. -/
def displayPlaces : Nat := 10

/-- A finite number rounded to the places that are displayed. A number of `2 ^ 52` or more is
whole and stays. -/
def roundPlaces (x : Float) : Float :=
  let b := Binary.ofFloat x
  if 0 ≤ b.exponent then x
  else
    let scaled := roundQuotient (b.mantissa * Nat.pow 10 displayPlaces)
      (Nat.pow 2 b.exponent.natAbs)
    let y := Float.ofScientific scaled true displayPlaces
    if isNegative x then -y else y

/-- A number as it is displayed; what is not finite counts as zero. -/
def displayFloat (x : Float) : Text :=
  if x.isNaN || x.isInf then ['0']
  else
    let y := roundPlaces x
    match (Binary.ofFloat y).whole? with
    | some n => writeInt (if isNegative y then -(n : Int) else n)
    | none => writeFloat y

end Questionnaire.Decimal
