import Questionnaire.Decimal.Basic
import Questionnaire.Text.Digit
import Questionnaire.Text.Cut
/-!
Reading numbers. `readFloat?` accepts a decimal numeral with an optional sign, fraction and
exponent, digits of any script, low lines between digits, and the words for the infinities and
for "not a number"; `isPlainNumber` is the narrower class of plain decimals. A numeral is read
exactly and rounded once.
-/
namespace Questionnaire.Decimal

open Text

/-- The positive infinity. -/
def infinity : Float := Float.ofBits 0x7FF0000000000000

/-- The result of an operation on numbers that has none. -/
def notANumber : Float := Float.ofBits 0x7FF8000000000000

/-- The nearest floating-point number. Numerals of more than four hundred places on either side
of the point are settled without raising ten to a power. -/
def Numeral.toFloat (n : Numeral) : Float :=
  let size := (Nat.toDigits 10 n.digits).length + n.exponent
  if n.digits = 0 then Float.ofBits 0
  else if size > 400 then infinity
  else if size < -400 then Float.ofBits 0
  else Float.ofScientific n.digits (n.exponent < 0) n.exponent.natAbs

/-- The nearest floating-point number to a whole number, unless it is out of range. -/
def ofInt? (n : Int) : Option Float :=
  if n.natAbs.log2 > 1024 then none
  else
    let x := Float.ofScientific n.natAbs false 0
    if x.isInf then none else some (if n < 0 then -x else x)

/-- The numeral of an unsigned decimal: whole part, optional fraction. -/
def numeral (whole fraction : Text) (exponent : Int) : Numeral :=
  ⟨digitsValue (whole ++ fraction), exponent - fraction.length⟩

/-- The power of ten after the digits: nothing, or a mark, an optional sign and digits. -/
def readExponent? : Text → Option Int
  | [] => some 0
  | mark :: rest =>
    if mark = 'e' || mark = 'E' then
      match rest with
      | '-' :: digits => magnitude digits |>.map (-·)
      | '+' :: digits => magnitude digits
      | digits => magnitude digits
    else none
where
  /-- The value of a text of digits only. -/
  magnitude (digits : Text) : Option Int :=
    if !digits.isEmpty && digits.all isDecimal then some (digitsValue digits) else none

/-- The numeral of an unsigned decimal with an optional exponent. -/
def readUnsigned? (t : Text) : Option Numeral :=
  let whole := t.takeWhile isDecimal
  match t.dropWhile isDecimal with
  | '.' :: rest =>
    let fraction := rest.takeWhile isDecimal
    if whole.isEmpty && fraction.isEmpty then none
    else (readExponent? (rest.dropWhile isDecimal)).map (numeral whole fraction)
  | rest => if whole.isEmpty then none else (readExponent? rest).map (numeral whole [])

/-- The text without its low lines, each of which has to stand between two digits. -/
def dropSeparators? (afterDigit : Bool) : Text → Option Text
  | [] => some []
  | '_' :: rest =>
    if afterDigit && (rest.head?.map isDecimal).getD false then dropSeparators? false rest
    else none
  | c :: rest => (dropSeparators? (isDecimal c) rest).map (c :: ·)

/-- Blanks that may surround a number: all but the information separators. -/
def isOuterBlank (c : Char) : Bool := isBlank c && !(0x1C ≤ c.toNat && c.toNat ≤ 0x1F)

/-- A number without a sign. -/
def readMagnitude? (t : Text) : Option Float :=
  let name := t.map Char.toLower
  if name = "inf".toList || name = "infinity".toList then some infinity
  else if name = "nan".toList then some notANumber
  else (dropSeparators? false t).bind fun plain => (readUnsigned? plain).map Numeral.toFloat

/-- The number that a text writes, with blanks around it allowed. -/
def readFloat? (t : Text) : Option Float :=
  match ((t.dropWhile isOuterBlank).reverse.dropWhile isOuterBlank).reverse with
  | '-' :: rest => (readMagnitude? rest).map (-·)
  | '+' :: rest => readMagnitude? rest
  | rest => readMagnitude? rest

/-- Whether the text is an unsigned plain decimal: digits with an optional fraction, or a
fraction alone. -/
def isPlainDecimal (t : Text) : Bool :=
  match t.dropWhile isDecimal with
  | [] => !t.isEmpty
  | '.' :: rest => rest.all isDecimal && !(t.takeWhile isDecimal).isEmpty ||
      (!rest.isEmpty && rest.all isDecimal)
  | _ => false

/-- Whether the text, blanks around it apart, is a plain decimal with an optional minus. -/
def isPlainNumber (t : Text) : Bool :=
  match trim t with
  | '-' :: rest => isPlainDecimal rest
  | rest => isPlainDecimal rest

end Questionnaire.Decimal
