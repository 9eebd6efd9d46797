import Questionnaire.Formula
import Questionnaire.Value
/-!
The value of a formula over named values. A name counts as its value does, an absent name as
zero. `evaluate` never fails: what cannot be read or computed is zero, and `evaluate?` says why.
-/
namespace Questionnaire.Formula

open Decimal

/-- Why a formula has no value. -/
inductive Fault where
  | malformed (cause : Malformed)
  | divisionByZero
  | outOfRange
deriving DecidableEq, Repr

/-- The message for a formula without a value. -/
def Fault.message : Fault → Text
  | .malformed cause => cause.message
  | .divisionByZero => "float division by zero".toList
  | .outOfRange => "int too large to convert to float".toList

/-- What a value counts as, the absent one as zero. -/
def count (value : Option Value) : Except Fault Float :=
  match value.elim (some 0) Value.toNumber? with
  | some x => .ok x
  | none => .error .outOfRange

/-- The result of an operation; nothing is divided by zero. -/
def combine (operation : Operation) (x y : Float) : Except Fault Float :=
  match operation with
  | .add => .ok (x + y)
  | .subtract => .ok (x - y)
  | .multiply => .ok (x * y)
  | .divide => if y == 0 then .error .divisionByZero else .ok (x / y)

/-- The value of a numeral. -/
def numeralValue (numeral : Text) : Float := (readFloat? numeral).getD 0

/-- The value of a formula, or why it has none. The left operand is looked at first. -/
def value? (scope : Scope) : Formula → Except Fault Float
  | .number numeral => .ok (numeralValue numeral)
  | .name n => count (scope.get? n)
  | .negated operand => (value? scope operand).map (-·)
  | .plus operand => value? scope operand
  | .binary operation left right => do
    let x ← value? scope left
    let y ← value? scope right
    combine operation x y

/-- The value of the formula that a text writes, or why there is none. -/
def evaluate? (t : Text) (scope : Scope) : Except Fault Float :=
  match ofText t with
  | .error cause => .error (.malformed cause)
  | .ok formula => value? scope formula

/-- The value of the formula that a text writes, zero if there is none. -/
def evaluate (t : Text) (scope : Scope) : Float :=
  match evaluate? t scope with
  | .ok x => x
  | .error _ => 0

end Questionnaire.Formula
