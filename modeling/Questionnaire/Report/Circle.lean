import Questionnaire.Computation.Order
/-!
A circle among computations, found by going from each name to the names in its expression, one
path at a time. A name that has been left is not entered again.
-/
namespace Questionnaire.Report

open Text Formula Questionnaire.Computation

/-- The names of the scope that the last computation with a name depends on. -/
def neighbours (declared : List Computation) (n : Text) : List Text :=
  match last? declared n with
  | none => []
  | some computation =>
    (dependencies computation.expression).filter (scopeNames declared).contains

/-- The search from one name along a path: the names entered so far, and a circle if one was met.
The fuel bounds the length of the path. -/
def visit (declared : List Computation) :
    Nat → List Text → List Text → Text → List Text × Option (List Text)
  | 0, entered, _, _ => (entered, none)
  | fuel + 1, entered, path, n =>
    (neighbours declared n).foldl
      (fun found m =>
        match found with
        | (entered, some circle) => (entered, some circle)
        | (entered, none) =>
          if !entered.contains m then visit declared fuel entered (path ++ [n]) m
          else if (path ++ [n]).contains m then
            (entered, some ((path ++ [n]).dropWhile (· ≠ m) ++ [m]))
          else (entered, none))
      (entered ++ [n], none)

/-- The first circle of a scope: names each of which depends on the next, the first and the last
the same. -/
def circle? (declared : List Computation) : Option (List Text) :=
  ((scopeNames declared).foldl
    (fun found n =>
      match found with
      | (entered, some circle) => (entered, some circle)
      | (entered, none) =>
        if entered.contains n then (entered, none)
        else visit declared (declared.length + 1) entered [] n)
    ([], none)).2

end Questionnaire.Report
