import Questionnaire.Survey
import Questionnaire.Formula.Name
import Questionnaire.Text.Cut
/-!
The order in which the computations of a scope are carried out. A computation comes after those
whose names occur in its expression. The computations that wait for nothing come first, in the
order of declaration; each one carried out frees those that waited for it last. Where a circle
keeps some from ever being freed, the order of declaration stands.
-/
namespace Questionnaire.Computation

open Text Formula

/-- Words of an expression that name no value. -/
def reserved : List Text :=
  ["AND".toList, "OR".toList, "NOT".toList, "IS".toList, "THEN".toList, "ELSE".toList,
   "IF".toList, "true".toList, "false".toList, "null".toList, "undefined".toList]

/-- The names in an expression. -/
def dependencies (expression : Text) : List Text :=
  (identifiers expression).filter fun n => !reserved.contains n

/-- Whether the expression of a computation mentions a name. -/
def mentions (computation : Computation) (n : Text) : Bool :=
  (dependencies computation.expression).contains n

/-- The distinct names of a scope. -/
def scopeNames (declared : List Computation) : List Text := distinct (declared.map Computation.name)

/-- The names that wait for `n`, in the order of declaration. A name does not wait for itself:
nothing will ever free it. -/
def waiting (declared : List Computation) (n : Text) : List Text :=
  distinct ((declared.filter fun c => c.name ≠ n && mentions c n).map Computation.name)

/-- How many names `n` waits for, and how often it mentions itself. -/
def burden (declared : List Computation) (n : Text) : Nat :=
  ((scopeNames declared).countP fun m => (waiting declared m).contains n) +
    declared.countP fun c => c.name = n && mentions c n

/-- How often one of the names that `n` waits for has been carried out. -/
def relief (declared : List Computation) (done : List Text) (n : Text) : Nat :=
  done.countP fun m => (waiting declared m).contains n

/-- The names that wait for the last one carried out and now wait no longer. -/
def freed (declared : List Computation) (last : Text) (done : List Text) : List Text :=
  (waiting declared last).filter fun n => relief declared (last :: done) n = burden declared n

/-- The names in the order in which they are carried out, given those that are `ready` and those
that are `done`, the last one first. -/
def carryOut (declared : List Computation) : Nat → List Text → List Text → List Text
  | 0, _, done => done.reverse
  | _ + 1, [], done => done.reverse
  | fuel + 1, n :: ready, done =>
    carryOut declared fuel (ready ++ freed declared n done) (n :: done)

/-- The names that can be carried out. A name is ready once at most, or as often as it is
declared, and freed once at most, so twice the number of computations is fuel enough. -/
def order (declared : List Computation) : List Text :=
  carryOut declared (2 * declared.length)
    ((declared.map Computation.name).filter fun n => burden declared n = 0) []

/-- Whether every name can be carried out. -/
def isOrderable (declared : List Computation) : Bool :=
  (order declared).length = (scopeNames declared).length

/-- The last computation with a name. -/
def last? (declared : List Computation) (n : Text) : Option Computation :=
  declared.reverse.find? fun c => c.name = n

/-- The computations in the order in which they are carried out. -/
def ordered (declared : List Computation) : List Computation :=
  if isOrderable declared then (order declared).filterMap (last? declared) else declared

/-- The notice of a scope whose computations depend on each other in a circle. -/
def circleNotice (declared : List Computation) : Option Text :=
  if isOrderable declared then none
  else
    some ("Possible circular dependency in computed variables, using declaration order: ".toList ++
      join [',', ' '] (declared.map Computation.name))

end Questionnaire.Computation
