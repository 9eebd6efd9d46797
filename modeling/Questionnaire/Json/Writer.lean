import Questionnaire.Value
import Questionnaire.Text.Quoted
import Questionnaire.Text.Cut
import Questionnaire.Decimal.Notation
/-!
Values as JSON text, in ASCII: every other character is escaped by its 16-bit units. The short form
stands on one line; the long form has a line for every item and entry, two spaces further in than
what holds it. Lists and maps with nothing in them stay on one line in both.
-/
namespace Questionnaire.Json

open Text Decimal

/-- An escape by one 16-bit unit. -/
def unitEscape (unit : Nat) : Text := '\\' :: 'u' :: hexDigits 4 unit

/-- A character inside a string. -/
def escapeChar (c : Char) : Text :=
  if c = '"' || c = '\\' then ['\\', c]
  else if c = '\n' then ['\\', 'n']
  else if c = '\r' then ['\\', 'r']
  else if c = '\t' then ['\\', 't']
  else if c = '\u0008' then ['\\', 'b']
  else if c = '\u000c' then ['\\', 'f']
  else if 32 ≤ c.toNat && c.toNat < 127 then [c]
  else if c.toNat < 0x10000 then unitEscape c.toNat
  else
    unitEscape (0xD800 + (c.toNat - 0x10000) / 0x400) ++
      unitEscape (0xDC00 + (c.toNat - 0x10000) % 0x400)

/-- A text as a string. -/
def string (t : Text) : Text := '"' :: t.flatMap escapeChar ++ ['"']

/-- A number; what is not finite is written by name. -/
def number (x : Float) : Text :=
  if x.isNaN then "NaN".toList
  else if x.isInf then if isNegative x then "-Infinity".toList else "Infinity".toList
  else writeFloat x

mutual
/-- A value on one line. -/
def write : Value → Text
  | .null => "null".toList
  | .bool b => if b then "true".toList else "false".toList
  | .int n => writeInt n
  | .float x => number x
  | .text t => string t
  | .list items => '[' :: join [',', ' '] (writeItems items) ++ [']']
  | .map entries => '\x7b' :: join [',', ' '] (writeEntries entries) ++ ['\x7d']
/-- The items of a list, each on one line. -/
def writeItems : List Value → List Text
  | [] => []
  | item :: rest => write item :: writeItems rest
/-- The entries of a map, each on one line. -/
def writeEntries : List (Text × Value) → List Text
  | [] => []
  | (key, item) :: rest => (string key ++ [':', ' '] ++ write item) :: writeEntries rest
end

/-- A line feed and the indentation of a depth. -/
def newLine (depth : Nat) : Text := '\n' :: List.replicate (2 * depth) ' '

/-- Parts between two brackets, each on a line of its own. -/
def spread (depth : Nat) (opening closing : Char) (parts : List Text) : Text :=
  if parts.isEmpty then [opening, closing]
  else
    opening :: newLine (depth + 1) ++ join (',' :: newLine (depth + 1)) parts ++
      newLine depth ++ [closing]

mutual
/-- A value over several lines. -/
def writeLong (depth : Nat) : Value → Text
  | .list items => spread depth '[' ']' (writeLongItems depth items)
  | .map entries => spread depth '\x7b' '\x7d' (writeLongEntries depth entries)
  | .null => "null".toList
  | .bool b => if b then "true".toList else "false".toList
  | .int n => writeInt n
  | .float x => number x
  | .text t => string t
/-- The items of a list, each over several lines. -/
def writeLongItems (depth : Nat) : List Value → List Text
  | [] => []
  | item :: rest => writeLong (depth + 1) item :: writeLongItems depth rest
/-- The entries of a map, each over several lines. -/
def writeLongEntries (depth : Nat) : List (Text × Value) → List Text
  | [] => []
  | (key, item) :: rest =>
    (string key ++ [':', ' '] ++ writeLong (depth + 1) item) :: writeLongEntries depth rest
end

end Questionnaire.Json
