import Questionnaire.Text.Blank
/-!
The order of texts by code points, and sorting by it.
-/
namespace Questionnaire.Text

/-- Whether the first text does not come after the second. -/
def precedes : Text → Text → Bool
  | [], _ => true
  | _ :: _, [] => false
  | a :: s, b :: t => if a = b then precedes s t else a.toNat < b.toNat

/-- The text put in its place among texts in order. -/
def insertOrdered (t : Text) : List Text → List Text
  | [] => [t]
  | first :: rest => if precedes t first then t :: first :: rest else first :: insertOrdered t rest

/-- The texts in order. -/
def sorted (texts : List Text) : List Text := texts.foldr insertOrdered []

end Questionnaire.Text
