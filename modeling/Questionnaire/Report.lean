import Questionnaire.Survey
import Questionnaire.Report.Usage
import Questionnaire.Report.Circle
import Questionnaire.Text.Order
import Questionnaire.Decimal.Notation
/-!
An inventory of a survey: how much there is of everything, which names are declared and how often
each is used, and what looks like a mistake.
-/
namespace Questionnaire

open Text Decimal

/-- The inventory of a survey. -/
structure Report where
  /-- The name of the survey. -/
  name : Text
  /-- The number of blocks. -/
  blocks : Nat
  /-- The number of pages. -/
  pages : Nat
  /-- The number of sections. -/
  sections : Nat
  /-- The number of texts. -/
  texts : Nat
  /-- The number of questions. -/
  questions : Nat
  /-- The number of computations. -/
  computations : Nat
  /-- The number of questions of each kind that occurs. -/
  kinds : List (Text × Nat)
  /-- The declared names with what they stand for. -/
  declared : List (Text × Survey.Role)
  /-- The names that are used, with the number of uses. -/
  usage : List (Text × Nat)
  /-- The names that are used and not declared, in order. -/
  undefined : List Text
  /-- The names that are declared and not used, in order. -/
  unused : List Text
  /-- A circle among computations. -/
  circle : Option (List Text)
  /-- The number of questions with a condition. -/
  conditional : Nat
  /-- The pages without an item. -/
  emptyPages : List Text
deriving DecidableEq, Repr

namespace Report

/-- The name of a role. -/
def roleName : Survey.Role → Text
  | .question => "question".toList
  | .row => "subquestion".toList
  | .option => "option".toList
  | .computed => "computed".toList

/-- The texts of a question that a respondent may see. -/
def questionTexts (question : Question) : List Text :=
  question.text :: question.hint.toList ++ question.tooltip.toList ++
    question.options.map Choice.label ++ question.rows.map Row.text

/-- The texts of an item that a respondent may see. -/
def itemTexts : Item → List Text
  | .text value => [value]
  | .question asked => questionTexts asked

/-- The conditions of a question. -/
def questionConditions (question : Question) : List (Option Text) :=
  question.showIf :: question.options.map Choice.showIf ++ question.rows.map Row.showIf

/-- The conditions of a survey. -/
def surveyConditions (survey : Survey) : List (Option Text) :=
  survey.blocks.flatMap fun block =>
    block.showIf :: block.pages.flatMap fun page =>
      page.showIf :: page.sections.flatMap fun part =>
        part.showIf :: part.questions.flatMap questionConditions

/-- The items of a survey. -/
def surveyItems (survey : Survey) : List Item :=
  survey.pages.flatMap fun place => place.2.sections.flatMap Section.items

/-- Every use of a name in a survey, in its conditions, computations and texts. -/
def uses (survey : Survey) : List Text :=
  (surveyConditions survey).flatMap Validation.referencesOf ++
    survey.scopes.flatten.flatMap (fun c => Validation.references c.expression) ++
    (surveyItems survey).flatMap fun item => (itemTexts item).flatMap textReferences

/-- How often each name occurs. -/
def tally (names : List Text) : List (Text × Nat) :=
  (Formula.distinct names).map fun n => (n, names.count n)

/-- How a page without an item is named. -/
def emptyName (block : Block) (page : Page) : Text :=
  if page.title.isEmpty then "(untitled page in block '".toList ++ block.name ++ "')".toList
  else page.title

/-- The inventory of a survey. -/
def ofSurvey (survey : Survey) : Report :=
  let questions := survey.questions
  let declared := survey.declared
  let used := uses survey
  { name := survey.name
    blocks := survey.blocks.length
    pages := survey.pages.length
    sections := (survey.pages.flatMap fun place => place.2.sections).length
    texts := (surveyItems survey).length - questions.length
    questions := questions.length
    computations := survey.scopes.flatten.length
    kinds := tally (questions.map fun question => question.kind.name)
    declared
    usage := tally used
    undefined := sorted ((Formula.distinct used).filter fun n => !declared.any (·.1 = n))
    unused := sorted ((declared.map (·.1)).filter fun n => !used.contains n)
    circle := survey.scopes.findSome? circle?
    conditional := questions.countP fun question => (given? question.showIf).isSome
    emptyPages :=
      (survey.pages.filter fun place => place.2.sections.all fun part => part.items.isEmpty).map
        fun place => emptyName place.1 place.2 }

/-- A warning that lists names, if there are any. -/
def listing (subject : String) (separator : Text) (names : List Text) : List Text :=
  if names.isEmpty then [] else [subject.toList ++ join separator names]

/-- What looks like a mistake. -/
def warnings (report : Report) : List Text :=
  listing "Undefined variable references: " [',', ' '] report.undefined ++
    listing "Unused variables: " [',', ' '] report.unused ++
    listing "Computed variable cycle: " " -> ".toList (report.circle.getD []) ++
    listing "Pages without content: " [',', ' '] report.emptyPages

/-- A number with what it counts. -/
def countLine (subject : String) (n : Nat) : Text := subject.toList ++ writeNat n

/-- The line of a declared name. -/
def declaredLine (report : Report) (n : Text) : Text :=
  let role := (report.declared.lookup n).elim [] roleName
  "    ".toList ++ n ++ " (".toList ++ role ++ "): ".toList ++
    writeNat ((report.usage.lookup n).getD 0) ++ " reference(s)".toList

/-- The report as plain text. -/
def format (report : Report) : Text :=
  join ['\n']
    (["Survey: ".toList ++ report.name, countLine "  Blocks: " report.blocks,
        countLine "  Pages: " report.pages, countLine "  Sections: " report.sections,
        countLine "  Text items: " report.texts, countLine "  Questions: " report.questions] ++
      ((sorted (report.kinds.map (·.1))).map fun kind =>
        "    ".toList ++ kind ++ [':', ' '] ++ writeNat ((report.kinds.lookup kind).getD 0)) ++
      [countLine "  Conditional questions: " report.conditional,
        countLine "  Computed variables: " report.computations,
        countLine "  Declared variables: " report.declared.length] ++
      (sorted (report.declared.map (·.1))).map (declaredLine report) ++
      (if report.warnings.isEmpty then []
        else "Warnings:".toList :: report.warnings.map fun w => "  - ".toList ++ w))

end Report
end Questionnaire
