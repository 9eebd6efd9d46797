import Questionnaire.Condition
import Questionnaire.Formula.Name
/-!
The names that a condition or an expression depends on. It is cut at every connective, and of
each part the names count: of a comparison those on the left, since a word on the right is an
answer, and on either side those of a computation; of any other part all of them. A part with a
quantified comparison names nothing.
-/
namespace Questionnaire.Validation

open Text Condition Formula

/-- Words that are no names in a condition. -/
def reserved : List Text :=
  ["AND".toList, "OR".toList, "NOT".toList, "IS".toList, "IS_NOT".toList, "GREATER_THAN".toList,
   "GREATER_THAN_OR_EQUAL".toList, "LESS_THAN".toList, "LESS_THAN_OR_EQUAL".toList,
   "STARTS_WITH".toList, "THEN".toList, "ELSE".toList, "IF".toList, "true".toList,
   "false".toList, "null".toList, "undefined".toList]

/-- The width of a connective of either kind. -/
def widthConnective (t : Text) : Nat :=
  match widthOr t with
  | 0 => widthAnd t
  | width => width

/-- The text without the negations before it. -/
def dropDenials (t : Text) : Text :=
  match h : after? "NOT ".toList t with
  | none => t
  | some rest =>
    have := length_after? h
    have := length_trim_le rest
    dropDenials (trim rest)
termination_by t.length
decreasing_by
  have : ("NOT ".toList).length = 4 := by decide
  omega

/-- The names on the left of a comparison. -/
def leftNames (t : Text) : List Text :=
  if isComputation t then identifiers t else if isIdentifier t then [t] else []

/-- The names on the right of a comparison. -/
def rightNames (t : Text) : List Text := if isComputation t then identifiers t else []

/-- The words of a part that may be names. -/
def candidates (part : Text) : List Text :=
  if part.isEmpty || hasStart "STARTS_WITH".toList part then []
  else
    match Comparison.ofText? part with
    | none => identifiers part
    | some comparison => leftNames comparison.left ++ rightNames comparison.right

/-- The names that a condition depends on, in order of first appearance. -/
def references (condition : Text) : List Text :=
  let parts := splitBy widthConnective (normalize condition)
  distinct ((parts.flatMap fun part => candidates (dropDenials (trim part))).filter
    fun n => !reserved.contains n)

/-- The names that an optional condition depends on. -/
def referencesOf (condition : Option Text) : List Text := (condition.map references).getD []

/-- The names that a condition depends on and that are not declared. -/
def undefinedNames (condition : Option Text) (declared : List Text) : List Text :=
  (referencesOf condition).filter fun n => !declared.contains n

end Questionnaire.Validation
