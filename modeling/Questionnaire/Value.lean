import Questionnaire.Text.LowerCase
import Questionnaire.Decimal.Numeral
/-!
Answers and computed values. A value is a text, a truth value, a number, a list or a map from
texts to values in order of arrival; `null` is an answer that was given as nothing. What a value
counts as in arithmetic is said once, by `toNumber?`, for every evaluator.
-/
namespace Questionnaire

open Text Decimal

/-- An answer or a computed value. -/
inductive Value where
  | null
  | bool (b : Bool)
  | int (n : Int)
  | float (x : Float)
  | text (t : Text)
  | list (items : List Value)
  | map (entries : List (Text × Value))
deriving Inhabited

namespace Value

/-- Whether the value holds nothing: `null`, a text of blanks, an empty list or map. -/
def isEmpty : Value → Bool
  | null => true
  | text t => isBlankText t
  | list items => items.isEmpty
  | map entries => entries.isEmpty
  | _ => false

/-- Words that count as one. -/
def yesWords : List Text := ["true".toList, "yes".toList, "ja".toList]

/-- Words that count as zero. -/
def noWords : List Text := ["false".toList, "no".toList, "nee".toList]

/-- What a text counts as: a word for yes is one, a number itself, anything else zero. -/
def textNumber (t : Text) : Float :=
  let word := lower (trim t)
  if yesWords.contains word then 1
  else if noWords.contains word then 0
  else (readFloat? (trim t)).getD 0

/-- What a value counts as in arithmetic: a list its length, a map the number of its entries that
hold something. Only a whole number beyond the floating-point range counts as nothing. -/
def toNumber? : Value → Option Float
  | null => some 0
  | bool b => some (if b then 1 else 0)
  | int n => ofInt? n
  | float x => some x
  | text t => some (textNumber t)
  | list items => some (Float.ofNat items.length)
  | map entries => some (Float.ofNat (entries.countP fun entry => !entry.2.isEmpty))

/-- The entry of a map under a key. -/
def cell? (key : Text) : Value → Option Value
  | map entries => entries.lookup key
  | _ => none

end Value

/-- Named values, in order of arrival; a name stands at most once. -/
abbrev Scope := List (Text × Value)

namespace Scope

/-- The value under a name. -/
def get? (scope : Scope) (name : Text) : Option Value := scope.lookup name

/-- Whether the name has a value. -/
def has (scope : Scope) (name : Text) : Bool := (scope.get? name).isSome

/-- The scope with a value under a name: in the old place if the name was there, else at the
end. -/
def set (scope : Scope) (name : Text) (value : Value) : Scope :=
  match scope with
  | [] => [(name, value)]
  | (key, old) :: rest =>
    if key = name then (name, value) :: rest else (key, old) :: set rest name value

/-- The scope without a name. -/
def erase (scope : Scope) (name : Text) : Scope := scope.filter fun entry => entry.1 ≠ name

/-- The scope with the values of `upper` put onto its own. -/
def onto (upper scope : Scope) : Scope :=
  upper.foldl (fun merged entry => merged.set entry.1 entry.2) scope

end Scope
end Questionnaire
