import Questionnaire.Condition
import Questionnaire.Formula.Evaluate
import Questionnaire.Formula.Name
import Questionnaire.Value.Display
/-!
Whether a condition holds. A test may fail: its text may be no test, or a number in it may be out
of range. Evaluation is fail-open: a test that fails holds, so that a broken condition hides
nothing. `check?` keeps the failure of a condition that is a single test.
-/
namespace Questionnaire.Condition

open Text Decimal

/-- Why a test has no answer. -/
inductive Fault where
  | unrecognized (text : Text)
  | dangling (text : Text)
  | outOfRange
  | unreadable (text : Text)
deriving DecidableEq, Repr

/-- The message for a test without an answer. -/
def Fault.message : Fault → Text
  | .unrecognized text => "Unrecognized condition: '".toList ++ text ++ ['\'']
  | .dangling text => "Dangling logical operator in '".toList ++ text ++ ['\'']
  | .outOfRange => "int too large to convert to float".toList
  | .unreadable text => "could not convert string to float: ".toList ++ quoted text

/-- The number that a value counts as. -/
def count (value : Option Value) : Except Fault Float :=
  match value.elim (some 0) Value.toNumber? with
  | some x => .ok x
  | none => .error .outOfRange

/-- The number that a text writes. -/
def written (t : Text) : Except Fault Float :=
  match readFloat? t with
  | some x => .ok x
  | none => .error (.unreadable t)

/-- Whether a value is shown as present by its bare name: a number always is. -/
def isTruthy : Value → Bool
  | .bool b => b
  | .int _ => true
  | .float _ => true
  | value => !value.isEmpty

/-- Whether a value equals a text: a list by any of its items, a truth value by its word, two
plain numbers by what they count as, and everything else by its literal form. -/
def equals? (value : Value) (target : Text) : Except Fault Bool :=
  match value with
  | .list items => .ok (items.any fun item => item.printed == target)
  | .bool b => .ok (lower target == if b then "true".toList else "false".toList)
  | .int _ =>
    if isPlainNumber target then do
      let x ← count value
      let y ← written target
      pure (x == y)
    else .ok (value.printed == target)
  | .float x =>
    if isPlainNumber target then (written target).map fun y => x == y
    else .ok (value.printed == target)
  | .text t =>
    if isPlainNumber target && isPlainNumber t then do
      let x ← written t
      let y ← written target
      pure (x == y)
    else .ok (t == target)
  | other => .ok (other.printed == target)

/-- How a value compares with a number: texts that are no plain number and targets that are none
compare with nothing. -/
def measures? (relation : Relation) (value : Value) (target : Text) : Except Fault Bool :=
  let comparable :=
    match value with
    | .text t => isPlainNumber target && isPlainNumber t
    | _ => isPlainNumber target
  if comparable then do
    let x ← count (some value)
    let y ← written target
    pure (relation.holds x y)
  else .ok false

/-- The answer to a comparison with the empty text: whether the name is there and unanswered. A
name that is not there is not equal to it. -/
def comparesEmpty (relation : Relation) (value : Option Value) : Bool :=
  match value with
  | none => relation ≠ .equal
  | some value => if relation = .equal then value.isEmpty else !value.isEmpty

/-- The answer to a comparison of a value with a text that is not empty. Nothing compares with
an absent value. A number compares with the length of a list under every relation. -/
def comparesText? (relation : Relation) (value : Option Value) (target : Text) :
    Except Fault Bool :=
  match value with
  | none => .ok false
  | some .null => .ok false
  | some value =>
    let byLength :=
      match value with
      | .list _ => isPlainNumber target
      | _ => false
    if byLength then measures? relation value target
    else
      match relation with
      | .equal => equals? value target
      | .different => (equals? value target).map (!·)
      | _ => measures? relation value target

/-- The answer to a comparison. Two computations are compared as such; then a right side that
names a value is compared as a number; then the right side is a text. -/
def Comparison.answer? (comparison : Comparison) (scope : Scope) : Except Fault Bool :=
  if Formula.isComputation comparison.left || Formula.isComputation comparison.right then
    .ok (comparison.relation.holds (Formula.evaluate comparison.left scope)
      (Formula.evaluate comparison.right scope))
  else if isBareWord comparison.right && scope.has comparison.right &&
      !isPlainNumber comparison.right then do
    let x ← count (scope.get? comparison.left)
    let y ← count (scope.get? comparison.right)
    pure (comparison.relation.holds x y)
  else if (unquote comparison.right).isEmpty then
    .ok (comparesEmpty comparison.relation (scope.get? comparison.left))
  else
    comparesText? comparison.relation (scope.get? comparison.left) (unquote comparison.right)

/-- Whether one of the names has an answer of yes; a failure before the first yes decides. -/
def anyAnswer? (answer? : Text → Except Fault Bool) : List Text → Except Fault Bool
  | [] => .ok false
  | n :: rest => do if ← answer? n then pure true else anyAnswer? answer? rest

/-- The names of a scope that begin with `start`. -/
def namesStarting (start : Text) (scope : Scope) : List Text :=
  (scope.map (·.1)).filter (hasStart start)

/-- The answer to a test. -/
def Test.answer? (scope : Scope) : Test → Except Fault Bool
  | .literal truth => .ok truth
  | .name n => .ok ((scope.get? n).elim false isTruthy)
  | .anyStarting start relation right =>
    anyAnswer? (fun n => Comparison.answer? ⟨n, relation, right⟩ scope)
      (namesStarting start scope)
  | .compare comparison => comparison.answer? scope
  | .unrecognized text => .error (.unrecognized text)
  | .dangling text => .error (.dangling text)

/-- The answer to a test, yes if it fails. -/
def Test.holds (test : Test) (scope : Scope) : Bool :=
  match test.answer? scope with
  | .ok answer => answer
  | .error _ => true

/-- Whether a condition holds. -/
def holds (scope : Scope) : Condition → Bool
  | .always => true
  | .test _ single => single.holds scope
  | .denial operand => !holds scope operand
  | .either first rest => holds scope first || holds scope rest
  | .both first rest => holds scope first && holds scope rest

/-- Whether a condition holds, or why it cannot be told if it is a single test. -/
def check? (scope : Scope) : Condition → Except Fault Bool
  | .test _ single => single.answer? scope
  | other => .ok (other.holds scope)

/-- Whether the condition that a text writes holds. -/
def evaluate (t : Text) (scope : Scope) : Bool := (ofText t).holds scope

/-- Whether what carries an optional condition is shown. -/
def shows (condition : Option Text) (scope : Scope) : Bool :=
  match condition with
  | none => true
  | some t => evaluate t scope

end Questionnaire.Condition
