import Questionnaire.Text.Cut
import Questionnaire.Text.Word
/-!
Comparisons inside conditions. The keyword operators, which stand between blanks, are first
written as symbols; a comparison is then cut at the leftmost symbol that has something on both
sides.
-/
namespace Questionnaire.Condition

open Text

/-- How two sides are compared. -/
inductive Relation where
  | equal
  | different
  | atLeast
  | atMost
  | above
  | below
deriving DecidableEq, Repr

/-- The symbol of a relation. -/
def Relation.symbol : Relation → Text
  | .equal => "==".toList
  | .different => "!=".toList
  | .atLeast => ">=".toList
  | .atMost => "<=".toList
  | .above => ">".toList
  | .below => "<".toList

/-- Whether the relation holds between two numbers. -/
def Relation.holds (relation : Relation) (x y : Float) : Bool :=
  match relation with
  | .equal => x == y
  | .different => x != y
  | .atLeast => y ≤ x
  | .atMost => x ≤ y
  | .above => y < x
  | .below => x < y

/-- The relations in the order in which their symbols are tried: no symbol is tried after one
that it begins with. -/
def relations : List Relation := [.equal, .different, .atLeast, .atMost, .above, .below]

/-- The keyword operators with their relations, a longer keyword before one that it begins
with. -/
def keywords : List (Text × Relation) :=
  [("IS_NOT".toList, .different), ("GREATER_THAN_OR_EQUAL".toList, .atLeast),
   ("LESS_THAN_OR_EQUAL".toList, .atMost), ("GREATER_THAN".toList, .above),
   ("LESS_THAN".toList, .below), ("IS".toList, .equal)]

/-- A symbol with a space on each side. -/
def spaced (relation : Relation) : Text := ' ' :: relation.symbol ++ [' ']

/-- The condition with every keyword operator between blanks written as a symbol. -/
def normalize (t : Text) : Text :=
  keywords.foldl (fun t keyword => replaceBy (widthSpaced keyword.1) (spaced keyword.2) t) t

/-- Writing keyword operators as symbols never lengthens a condition. -/
theorem length_normalize_le (t : Text) : (normalize t).length ≤ t.length := by
  have step : ∀ (word : Text) (relation : Relation) (t : Text),
      (spaced relation).length ≤ word.length + 2 →
      (replaceBy (widthSpaced word) (spaced relation) t).length ≤ t.length :=
    fun word relation t h => length_replaceBy_le
      (fun _ hs => Nat.le_trans h (le_widthSpaced hs)) (widthSpaced_le word) t
  simp only [normalize, keywords, List.foldl_cons, List.foldl_nil]
  refine Nat.le_trans (step _ _ _ (by decide)) ?_
  refine Nat.le_trans (step _ _ _ (by decide)) ?_
  refine Nat.le_trans (step _ _ _ (by decide)) ?_
  refine Nat.le_trans (step _ _ _ (by decide)) ?_
  refine Nat.le_trans (step _ _ _ (by decide)) ?_
  exact step _ _ _ (by decide)

/-- A comparison of two sides. -/
structure Comparison where
  /-- The side before the symbol. -/
  left : Text
  /-- The relation that the symbol stands for. -/
  relation : Relation
  /-- The side after the symbol. -/
  right : Text
deriving DecidableEq, Repr

/-- The relation whose symbol the text begins with, and what follows, which is not empty. -/
def relationAt? (t : Text) : Option (Relation × Text) :=
  relations.findSome? fun relation =>
    match after? relation.symbol t with
    | some (c :: rest) => some (relation, c :: rest)
    | _ => none

/-- The comparison at the leftmost symbol of the text; the accumulator holds what stands before
it, reversed. -/
def Comparison.find? (before : Text) : Text → Option Comparison
  | [] => none
  | c :: rest =>
    match if before.isEmpty then none else relationAt? (c :: rest) with
    | some (relation, right) => some ⟨trim before.reverse, relation, trim right⟩
    | none => Comparison.find? (c :: before) rest

/-- The comparison that a text writes. -/
def Comparison.ofText? (t : Text) : Option Comparison := Comparison.find? [] (trim t)

/-- The text without blanks around it and without one pair of quotation marks. -/
def unquote (t : Text) : Text :=
  match trim t with
  | [] => []
  | c :: rest =>
    if (c = '\'' || c = '"') && rest.getLast? = some c then rest.dropLast else c :: rest

end Questionnaire.Condition
