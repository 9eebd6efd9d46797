import Questionnaire.Value.Display
import Questionnaire.Text.LowerCase
/-!
Lists of values as a respondent reads them: a bullet for each item, or a phrase in lower case
with commas and a final "and". Both say "none" for an empty list. Nothing is written if an item
is a whole number out of range.
-/
namespace Questionnaire.Value

open Text

/-- The displayed forms of the items. -/
def displayItems? : List Value → Option (List Text)
  | [] => some []
  | item :: rest => do
    let first ← item.display?
    let others ← displayItems? rest
    pure (first :: others)

/-- Items one below the other with a bullet each; a single item stands alone. -/
def bulleted : List Text → Text
  | [] => "none".toList
  | [item] => item
  | items =>
    '\n' :: join ['\n'] (items.map fun item => '-' :: ' ' :: item) ++ ['\n', '\n']

/-- Items in one phrase, with a comma before "and" from three items on. -/
def phrased : List Text → Text
  | [] => "none".toList
  | [item] => item
  | [first, second] => first ++ " and ".toList ++ second
  | items => join [',', ' '] items.dropLast ++ ", and ".toList ++ items.getLast?.getD []

/-- A list of values with bullets. -/
def bulletList? (items : List Value) : Option Text := (displayItems? items).map bulleted

/-- A list of values as a phrase in lower case. -/
def phraseList? (items : List Value) : Option Text :=
  (displayItems? items).map fun words => phrased (words.map lower)

/-- The entries of a map as texts of the form "key: cell". -/
def labelEntries? : List (Text × Value) → Option (List Value)
  | [] => some []
  | (key, cell) :: rest => do
    let shown ← cell.display?
    let others ← labelEntries? rest
    pure (.text (key ++ [':', ' '] ++ shown) :: others)

end Questionnaire.Value
