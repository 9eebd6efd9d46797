import Questionnaire.Survey
import Questionnaire.Formula.Evaluate
import Questionnaire.Decimal.Places
/-!
The arithmetic of breakdowns. Every ordinary row counts with its sign; headings, separators and
subtotals are no amounts, and an excluded row counts nowhere. A subtotal adds up the rows behind
the heading or subtotal before it, unless it has a formula of its own.
-/
namespace Questionnaire.Breakdown

open Text Decimal

/-- The amount in a cell, zero for what is no number. Only a whole number beyond the
floating-point range has none. -/
def amount? : Option Value → Option Float
  | some (.int n) => ofInt? n
  | some (.float x) => some x
  | some (.text t) => some (if isPlainNumber t then (readFloat? (trim t)).getD 0 else 0)
  | _ => some 0

/-- The amount of a row with its sign. -/
def signed? (cells : Scope) (choice : Choice) : Option Float :=
  (amount? (cells.get? choice.value)).map fun x => if isSet choice.subtract then -x else x

/-- The total of some rows added to `running`. -/
def addRows? (cells : Scope) (running : Float) : List Choice → Option Float
  | [] => some running
  | choice :: rest =>
    if choice.isStructural || isSet choice.exclude then addRows? cells running rest
    else do
      let x ← signed? cells choice
      addRows? cells (running + x) rest

/-- The total of a breakdown. -/
def total? (options : List Choice) (cells : Scope) : Option Float := addRows? cells 0 options

/-- The values that the formulas of subtotals see: those given, and under the variables of the
rows their cells. -/
def rowScope (options : List Choice) (cells known : Scope) : Scope :=
  (options.filterMap fun choice =>
    (given? choice.varName).bind fun n => (cells.get? choice.value).map (n, ·)).foldl
    (fun scope binding => scope.set binding.1 binding.2) known

/-- The subtotals of some rows, with the sum so far of the rows behind the last heading or
subtotal. -/
def subtotalsFrom? (cells scope : Scope) (running : Float) :
    List Choice → Option (List (Choice × Float))
  | [] => some []
  | choice :: rest =>
    if (given? choice.subtotalLabel).isSome then do
      let figure := ((given? choice.custom).map (Formula.evaluate · scope)).getD running
      let others ← subtotalsFrom? cells scope 0 rest
      pure ((choice, figure) :: others)
    else if isSet choice.header then subtotalsFrom? cells scope 0 rest
    else if isSet choice.separator || isSet choice.exclude then
      subtotalsFrom? cells scope running rest
    else do
      let x ← signed? cells choice
      subtotalsFrom? cells scope (running + x) rest

/-- The subtotals of a breakdown. -/
def subtotals? (options : List Choice) (cells known : Scope) :
    Option (List (Choice × Float)) :=
  subtotalsFrom? cells (rowScope options cells known) 0 options

/-- The amounts that are filled in at first, as they are displayed. -/
def prefills (options : List Choice) (scope : Scope) : List (Text × Text) :=
  options.filterMap fun choice =>
    (given? choice.prefill).map fun formula =>
      (choice.value, displayFloat (Formula.evaluate formula scope))

end Questionnaire.Breakdown
