import Questionnaire.Computation.Order
import Questionnaire.Condition.Holds
/-!
Computed values. Each computation of a scope is carried out over the answers and the values
computed so far: one that compares, combines or quantifies, or that is no computation at all, as a
condition, any other as a formula. Blocks come before their pages, and every scope sees the values
of the scopes before it.
-/
namespace Questionnaire.Computation

open Text

/-- Words that make an expression a condition. -/
def conditionWords : List Text :=
  ["IS".toList, "IS_NOT".toList, "GREATER_THAN".toList, "LESS_THAN".toList, "AND".toList,
   "OR".toList, "NOT".toList, "STARTS_WITH".toList]

/-- A sign of a comparison. -/
def isComparisonSign (c : Char) : Bool := c = '<' || c = '>' || c = '=' || c = '!'

/-- Whether the expression compares, combines or quantifies. -/
def isCondition (expression : Text) : Bool :=
  expression.any isComparisonSign || 0 < occurrences "&&".toList expression ||
    0 < occurrences "||".toList expression ||
    (words expression).any fun word => conditionWords.contains word.2

/-- Whether the expression is carried out as a formula. -/
def isFormula (expression : Text) : Bool :=
  !isCondition expression && Formula.isComputation expression

/-- The value of an expression. -/
def compute (expression : Text) (scope : Scope) : Value :=
  if isFormula expression then .float (Formula.evaluate expression scope)
  else .bool (Condition.evaluate expression scope)

/-- The computed values with that of one more computation. -/
def carry (known values : Scope) (computation : Computation) : Scope :=
  values.set computation.name (compute computation.expression (values.onto known))

/-- The values of a scope over those computed before. -/
def resolve (declared : List Computation) (known prior : Scope) : Scope :=
  (ordered declared).foldl (carry known) prior

/-- The values of the scopes in order. -/
def resolveScopes (scopes : List (List Computation)) (known prior : Scope) : Scope :=
  scopes.foldl (fun values declared => resolve declared known values) prior

/-- The scopes of a block and a page, of which either may be missing. -/
def scopesOf (block : Option Block) (page : Option Page) : List (List Computation) :=
  (block.map Block.computations).toList ++ (page.map Page.computations).toList

/-- The values of a block and a page over those computed before. -/
def resolvePlace (block : Option Block) (page : Option Page) (known prior : Scope) : Scope :=
  resolveScopes (scopesOf block page) known prior

/-- All computed values of a survey. -/
def resolveSurvey (survey : Survey) (known : Scope) : Scope :=
  resolveScopes survey.scopes known []

/-- The notices of the scopes with a circle. -/
def circleNotices (scopes : List (List Computation)) : List Text := scopes.filterMap circleNotice

end Questionnaire.Computation
