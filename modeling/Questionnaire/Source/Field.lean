import Questionnaire.Text.Word
import Questionnaire.Text.Cut
import Questionnaire.Decimal.Notation
/-!
The values of keywords that have a form of their own: a range of numbers, a column, a
computation, and a level of navigation. Each reader gives the value or says what is wrong with
the text.
-/
namespace Questionnaire.Source

open Text Decimal

/-- What is wrong with the value of a keyword. -/
inductive Fault where
  /-- The text is no range. -/
  | range (value : Text)
  /-- The range ends before it starts. -/
  | reversed (first last : Int)
  /-- The text is no column. -/
  | column (value : Text)
  /-- The text is made of digits, but some have no place in a numeral or there are too many. -/
  | numeral (value : Text)
  /-- The text is no computation. -/
  | compute (value : Text)
  /-- The text is no level. -/
  | level (keyword value : Text)
deriving DecidableEq, Repr

/-- The message for a malformed value. -/
def Fault.message : Fault → Text
  | .range value =>
    "Invalid RANGE syntax: \"".toList ++ value ++
      "\". Expected format: RANGE: start-end (e.g., RANGE: 1-10)".toList
  | .reversed first last =>
    "Invalid RANGE: start (".toList ++ writeInt first ++
      ") must be less than or equal to end (".toList ++ writeInt last ++ [')']
  | .column value =>
    "Invalid COLUMN syntax: \"".toList ++ value ++ "\". Expected a positive number".toList
  | .numeral value => "Not a decimal numeral: \"".toList ++ value ++ ['"']
  | .compute value =>
    "Invalid COMPUTE syntax: \"".toList ++ value ++
      "\". Expected format: COMPUTE: variableName = expression".toList
  | .level keyword value =>
    "Invalid ".toList ++ keyword ++ " level: \"".toList ++ value ++ "\". Expected 1 or 2".toList

/-- A whole number at the start of a text, with an optional minus, and what follows it. -/
def readWhole? (t : Text) : Option (Int × Text) :=
  match t with
  | '-' :: rest =>
    if (rest.takeWhile isDecimal).isEmpty then none
    else some (-(digitsValue (rest.takeWhile isDecimal) : Int), rest.dropWhile isDecimal)
  | rest =>
    if (rest.takeWhile isDecimal).isEmpty then none
    else some ((digitsValue (rest.takeWhile isDecimal) : Int), rest.dropWhile isDecimal)

/-- The two ends that a text writes with a dash between them, in any order. -/
def readEnds? (t : Text) : Option (Int × Int) :=
  match readWhole? t with
  | some (first, '-' :: rest) =>
    match readWhole? rest with
    | some (last, []) => some (first, last)
    | _ => none
  | _ => none

/-- The greatest number of digits in a numeral. -/
def numeralLimit : Nat := 4300

/-- Whether more decimal digits stand in a row than a numeral may have, with `run` of them before
the text. -/
def isOverlong (run : Nat) : Text → Bool
  | [] => numeralLimit < run
  | c :: rest =>
    if isDecimal c then isOverlong (run + 1) rest else numeralLimit < run || isOverlong 0 rest

/-- The range that a text writes. -/
def rangeOf (value : Text) : Except Fault (Int × Int) :=
  match readEnds? (trim value) with
  | none => .error (.range value)
  | some (first, last) =>
    if isOverlong 0 (trim value) then .error (.numeral value)
    else if last < first then .error (.reversed first last)
    else .ok (first, last)

/-- The column that a text writes, a positive number. -/
def columnOf (value : Text) : Except Fault Nat :=
  let t := trim value
  if t.isEmpty || !t.all isDigitForm then .error (.column value)
  else if !t.all isDecimal || isOverlong 0 t then .error (.numeral value)
  else if digitsValue t = 0 then .error (.column value)
  else .ok (digitsValue t)

/-- The name and the expression on the two sides of the first equals sign. -/
def computationOf (value : Text) : Except Fault (Text × Text) :=
  let name := trim (value.takeWhile (· ≠ '='))
  match value.dropWhile (· ≠ '=') with
  | [] => .error (.compute value)
  | _ :: rest =>
    if isIdentifier name && !isBlankText rest then .ok (name, trim rest)
    else .error (.compute value)

/-- The level that a text writes for a keyword. -/
def levelOf (keyword value : Text) : Except Fault Nat :=
  if trim value = ['1'] then .ok 1
  else if trim value = ['2'] then .ok 2
  else .error (.level keyword value)

end Questionnaire.Source
