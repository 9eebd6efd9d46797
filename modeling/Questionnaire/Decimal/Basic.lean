/-!
Decimal numerals exactly: digits and a power of ten. Reading gives one that is then rounded to a
floating-point number, and writing starts from one that has been chosen for such a number.
-/
namespace Questionnaire.Decimal

/-- A decimal numeral: `digits * 10 ^ exponent`. -/
structure Numeral where
  /-- The digits as one natural number. -/
  digits : Nat
  /-- The power of ten. -/
  exponent : Int
deriving DecidableEq, Repr

end Questionnaire.Decimal
