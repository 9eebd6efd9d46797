import Questionnaire.Value
import Questionnaire.Text.Quoted
import Questionnaire.Text.Cut
import Questionnaire.Decimal.Places
/-!
The two written forms of a value. `printed` is the literal form: it tells values apart, and texts
inside a list or a map are quoted. `display?` is the form that a respondent sees: truth values in
lower case, numbers rounded, and nothing at all for `null`.
-/
namespace Questionnaire.Value

open Text Decimal

mutual
/-- The literal form inside a list or a map. -/
def inner : Value → Text
  | null => "None".toList
  | bool b => if b then "True".toList else "False".toList
  | int n => writeInt n
  | float x => writeFloat x
  | text t => quoted t
  | list items => '[' :: join [',', ' '] (innerItems items) ++ [']']
  | map entries => '\x7b' :: join [',', ' '] (innerEntries entries) ++ ['\x7d']
/-- The literal forms of the items of a list. -/
def innerItems : List Value → List Text
  | [] => []
  | item :: rest => inner item :: innerItems rest
/-- The literal forms of the entries of a map. -/
def innerEntries : List (Text × Value) → List Text
  | [] => []
  | (key, item) :: rest => (quoted key ++ [':', ' '] ++ inner item) :: innerEntries rest
end

/-- The literal form of a value; a text stands for itself. -/
def printed : Value → Text
  | text t => t
  | other => inner other

/-- The form that a respondent sees, unless the value is a whole number out of range. -/
def display? : Value → Option Text
  | null => some []
  | bool b => some (if b then "true".toList else "false".toList)
  | int n => (ofInt? n).map displayFloat
  | float x => some (displayFloat x)
  | other => some other.printed

end Questionnaire.Value
