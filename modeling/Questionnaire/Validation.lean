import Questionnaire.Survey
import Questionnaire.Validation.Reference
/-!
Checks on a finished survey. Every answer variable has a name of its own in the whole survey, and
a computation shares its name with no answer variable and with no other computation of its scope;
every name that a condition or a computation depends on is declared somewhere. All problems are
reported together.
-/
namespace Questionnaire.Validation

open Text

/-- What a condition belongs to. -/
inductive Owner where
  | block (name : Text)
  | page (title : Text)
  | heading (title : Text)
  | question (id : Text)
  | option (id label : Text)
  | row (id row : Text)
deriving DecidableEq, Repr

/-- A problem of a survey. -/
inductive Problem where
  /-- Names that are declared more than once. -/
  | duplicates (names : List Text)
  /-- Names that a condition depends on and that are not declared. -/
  | condition (owner : Owner) (names : List Text)
  /-- Names that a computation depends on and that are not declared. -/
  | computation (name : Text) (names : List Text)
deriving DecidableEq, Repr

/-- How an owner is named. -/
def Owner.label : Owner → Text
  | .block name => "Block \"".toList ++ name ++ ['"']
  | .page title => "Page \"".toList ++ title ++ ['"']
  | .heading title => "Section \"".toList ++ title ++ ['"']
  | .question id => "Question \"".toList ++ id ++ ['"']
  | .option id label => "Question \"".toList ++ id ++ "\" option \"".toList ++ label ++ ['"']
  | .row id inner => "Question \"".toList ++ id ++ "\" row \"".toList ++ inner ++ ['"']

/-- The wording of a problem. -/
def Problem.message : Problem → Text
  | .duplicates names =>
    "Duplicate variable names found: ".toList ++ join [',', ' '] names ++
      ". Each variable name must be unique across the entire questionnaire.".toList
  | .condition owner names =>
    owner.label ++ " SHOW_IF references undefined variables: ".toList ++ join [',', ' '] names
  | .computation name names =>
    "Computed variable \"".toList ++ name ++ "\" references undefined variables: ".toList ++
      join [',', ' '] names

/-- The names that occur more than once, each once, in order of first appearance. -/
def repeated (names : List Text) : List Text :=
  Formula.distinct (names.filter fun n => 1 < names.count n)

/-- The names of the answer variables of a survey, repeats included. -/
def answerNames (survey : Survey) : List Text :=
  (survey.questions.flatMap Survey.declaredBy).map (·.1)

/-- The names of a scope that another computation of the scope or an answer variable has too. -/
def clashes (answers : List Text) (scope : List Computation) : List Text :=
  let names := scope.map Computation.name
  repeated names ++ names.filter answers.contains

/-- Every name that is declared more than once, each once. -/
def duplicateNames (survey : Survey) : List Text :=
  Formula.distinct
    (repeated (answerNames survey) ++ survey.scopes.flatMap (clashes (answerNames survey)))

/-- The problem of names that are declared more than once, if there are any. -/
def nameProblems (survey : Survey) : List Problem :=
  if (duplicateNames survey).isEmpty then [] else [.duplicates (duplicateNames survey)]

/-- The conditions of a question with their owners. -/
def questionConditions (question : Question) : List (Owner × Option Text) :=
  (.question question.id, question.showIf) ::
    (question.options.map fun c => (.option question.id c.label, c.showIf)) ++
    question.rows.map fun r => (.row question.id r.id, r.showIf)

/-- The conditions of a section with their owners; a section without a title has none itself. -/
def sectionConditions (part : Section) : List (Owner × Option Text) :=
  (part.title.toList.map fun title => (.heading title, part.showIf)) ++
    part.questions.flatMap questionConditions

/-- The conditions of a survey with their owners, in order. -/
def conditions (survey : Survey) : List (Owner × Option Text) :=
  survey.blocks.flatMap fun block =>
    (.block block.name, block.showIf) ::
      block.pages.flatMap fun page =>
        (.page page.title, page.showIf) :: page.sections.flatMap sectionConditions

/-- The problem of names that are not declared, if there are any. -/
def undefinedProblem? (declared : List Text) (condition : Option Text)
    (problem : List Text → Problem) : Option Problem :=
  match undefinedNames condition declared with
  | [] => none
  | names => some (problem names)

/-- The problems of conditions and computations that depend on names that are not declared. -/
def referenceProblems (survey : Survey) : List Problem :=
  let declared := survey.declared.map (·.1)
  ((conditions survey).filterMap fun entry =>
      undefinedProblem? declared entry.2 (.condition entry.1)) ++
    survey.scopes.flatten.filterMap fun computation =>
      undefinedProblem? declared (some computation.expression) (.computation computation.name)

/-- All problems of a survey. -/
def problems (survey : Survey) : List Problem := nameProblems survey ++ referenceProblems survey

end Questionnaire.Validation
