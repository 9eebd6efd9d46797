import Questionnaire.Survey
import Questionnaire.Value
/-!
From answers to variables. Answers are kept by the identifiers of questions; a question with
several cells has a map from its rows or options to the cells. A variable exists once its question
is answered, and that of a row or an option once the answer has its cell.
-/
namespace Questionnaire.Answers

/-- The variables that an answer to a question gives, in the order question, rows, options. -/
def bindings (question : Question) (answer : Value) : List (Text × Value) :=
  ((given? question.varName).toList.map (·, answer)) ++
    (question.rows.filterMap fun row =>
      (given? row.varName).bind fun n => (answer.cell? row.id).map (n, ·)) ++
    question.options.filterMap fun choice =>
      (given? choice.varName).bind fun n => (answer.cell? choice.value).map (n, ·)

/-- All variables that the answers give; of several values for a name the last counts. -/
def scope (survey : Survey) (answers : Scope) : Scope :=
  (survey.questions.flatMap fun question =>
    ((answers.get? question.id).map (bindings question)).getD []).foldl
    (fun scope binding => scope.set binding.1 binding.2) []

end Questionnaire.Answers
