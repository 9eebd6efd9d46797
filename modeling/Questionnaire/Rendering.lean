import Questionnaire.View
import Questionnaire.Template
import Questionnaire.Answers
import Questionnaire.Computation.Resolve
/-!
A survey as plain text for given answers. Every page that is seen gives a title, its sections and
items with what belongs to them, and an empty line; all texts have their placeholders filled.
-/
namespace Questionnaire.Rendering

open Text Template

/-- A text with what stands before it and behind it. -/
def frame (before after : String) (t : Option Text) : Option Text :=
  t.map fun t => before.toList ++ t ++ after.toList

/-- The line of an option. -/
def optionLine (scope : Scope) (choice : Choice) : Option Text :=
  if isSet choice.separator then some "    ----".toList
  else frame "    - " "" (fill? scope choice.label)

/-- The lines of a question: its text, a hint, its rows and its options. -/
def questionLines (scope : Scope) (question : Question) : List (Option Text) :=
  ((fill? scope question.text).map fun t => '[' :: question.id ++ [']', ' '] ++ t) ::
    ((given? question.hint).toList.map fun hint => frame "    (" ")" (fill? scope hint)) ++
    ((View.rows question scope).map fun row => frame "    > " "" (fill? scope row.text)) ++
    (View.options question scope).map (optionLine scope)

/-- The lines of an item. -/
def itemLines (scope : Scope) : Item → List (Option Text)
  | .text value => [fill? scope value]
  | .question asked => questionLines scope asked

/-- The lines of a section: its title, if it has one, and its items. -/
def sectionLines (scope : Scope) (part : Section) : List (Option Text) :=
  ((given? part.title).toList.map fun title => frame "## " "" (fill? scope title)) ++
    (View.items part scope).flatMap (itemLines scope)

/-- The line of a page. -/
def pageTitle (scope : Scope) (page : Page) : Option Text :=
  (fill? scope page.title).map fun t =>
    "=== ".toList ++ (if t.isEmpty then "(untitled page)".toList else t) ++ " ===".toList

/-- The lines of a page. -/
def pageLines (scope : Scope) (page : Page) : List (Option Text) :=
  pageTitle scope page :: (View.sections page scope).flatMap (sectionLines scope) ++ [some []]

/-- The lines of all pages that are seen. -/
def surveyLines (survey : Survey) (scope : Scope) : List (Option Text) :=
  (View.pages survey scope).flatMap fun place => pageLines scope place.2

/-- All values that are known for given answers: the variables with the computed values over
them. -/
def valuesFor (survey : Survey) (answers : Scope) : Scope :=
  let known := Answers.scope survey answers
  (Computation.resolveSurvey survey known).onto known

/-- The survey as plain text. There is none only if an answer to be shown is a whole number out of
range. -/
def render? (survey : Survey) (answers : Scope) : Option Text :=
  ((surveyLines survey (valuesFor survey answers)).mapM id).map (join ['\n'])

end Questionnaire.Rendering
