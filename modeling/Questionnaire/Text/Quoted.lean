import Questionnaire.Text.Blank
import Questionnaire.Text.PrintableTable
/-!
Texts inside a printed list or map are quoted: in single quotes, or in double quotes when the
text holds a single quote and no double one. Backslash, the chosen quote and every character
without a printed form are escaped.
-/
namespace Questionnaire.Text

/-- Whether the character has a printed form; of the blanks only the space has one. -/
def isPrintable (c : Char) : Bool :=
  if c.toNat < 128 then 32 ≤ c.toNat && c.toNat < 127
  else !inRanges unprintableRanges c.toNat

/-- The lower-case hexadecimal digit of a number below sixteen. -/
def hexDigit (n : Nat) : Char := Char.ofNat (if n < 10 then 48 + n else 87 + n)

/-- The last `width` hexadecimal digits of a number. -/
def hexDigits : Nat → Nat → Text
  | 0, _ => []
  | width + 1, n => hexDigits width (n / 16) ++ [hexDigit (n % 16)]

/-- One character inside a quoted text. -/
def quoteChar (mark c : Char) : Text :=
  if c = mark || c = '\\' then ['\\', c]
  else if c = '\t' then ['\\', 't']
  else if c = '\n' then ['\\', 'n']
  else if c = '\r' then ['\\', 'r']
  else if isPrintable c then [c]
  else if c.toNat < 0x100 then '\\' :: 'x' :: hexDigits 2 c.toNat
  else if c.toNat < 0x10000 then '\\' :: 'u' :: hexDigits 4 c.toNat
  else '\\' :: 'U' :: hexDigits 8 c.toNat

/-- The quotation mark for a text: single, unless that alone occurs in the text. -/
def quoteMark (t : Text) : Char :=
  if t.contains '\'' && !t.contains '"' then '"' else '\''

/-- The text in quotation marks. -/
def quoted (t : Text) : Text :=
  quoteMark t :: t.flatMap (quoteChar (quoteMark t)) ++ [quoteMark t]

end Questionnaire.Text
