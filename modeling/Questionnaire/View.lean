import Questionnaire.Survey
import Questionnaire.Condition.Holds
/-!
What a respondent sees of a survey: the parts whose conditions hold over the answers and the
computed values. Texts are always seen.
-/
namespace Questionnaire.View

open Condition

/-- The blocks that are seen. -/
def blocks (survey : Survey) (scope : Scope) : List Block :=
  survey.blocks.filter fun block => shows block.showIf scope

/-- The pages that are seen, each with its block, which is seen too. -/
def pages (survey : Survey) (scope : Scope) : List (Block × Page) :=
  (blocks survey scope).flatMap fun block =>
    (block.pages.filter fun page => shows page.showIf scope).map fun page => (block, page)

/-- The sections of a page that are seen. -/
def sections (page : Page) (scope : Scope) : List Section :=
  page.sections.filter fun part => shows part.showIf scope

/-- Whether an item is seen. -/
def showsItem (scope : Scope) : Item → Bool
  | .text _ => true
  | .question asked => shows asked.showIf scope

/-- The items of a section that are seen. -/
def items (part : Section) (scope : Scope) : List Item := part.items.filter (showsItem scope)

/-- The options of a question that are seen. -/
def options (question : Question) (scope : Scope) : List Choice :=
  question.options.filter fun choice => shows choice.showIf scope

/-- The rows of a question that are seen. -/
def rows (question : Question) (scope : Scope) : List Row :=
  question.rows.filter fun row => shows row.showIf scope

end Questionnaire.View
