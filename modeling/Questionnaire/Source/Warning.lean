import Questionnaire.Source.Line
import Questionnaire.Survey.Question
/-!
Warnings about lines that are well formed but have no effect where they stand.
-/
namespace Questionnaire.Source

/-- Why a line has no effect. -/
inductive Cause where
  /-- The subject does not fit the kind of the question. -/
  | unfit (subject id : Text) (kind : QuestionKind)
  /-- The question already has another kind. -/
  | settled (word : InputWord) (id : Text) (kind : QuestionKind)
  /-- Only a breakdown has such a row. -/
  | notBreakdown (subject id : Text)
  /-- The modifier changes nothing of a row of a matrix. -/
  | notForRow (modifier : Modifier) (id : Text)
  /-- The modifier changes only a row of a breakdown. -/
  | onlyBreakdown (modifier : Modifier) (id : Text)
  /-- There is no row that the modifier could change. -/
  | noRow (modifier : Modifier)
  /-- The quotes are never closed. -/
  | unclosed
deriving DecidableEq, Repr

/-- A warning about a line. -/
structure Warning where
  /-- The number of the line, from one on. -/
  line : Nat
  /-- The reason. -/
  cause : Cause
deriving DecidableEq, Repr

/-- The wording of a cause. -/
def Cause.message : Cause → Text
  | .unfit subject id kind =>
    subject ++ " ignored: question ".toList ++ id ++ " is ".toList ++ kind.name
  | .settled word id kind =>
    word.spelling ++ " ignored: question ".toList ++ id ++ " is already ".toList ++ kind.name
  | .notBreakdown subject id =>
    subject ++ " ignored: question ".toList ++ id ++ " is not a breakdown".toList
  | .notForRow modifier id =>
    modifier.spelling ++ " does not apply to matrix row ".toList ++ id
  | .onlyBreakdown modifier id =>
    modifier.spelling ++ " only applies to breakdown rows (question ".toList ++ id ++ [')']
  | .noRow modifier => modifier.spelling ++ " has no row to modify".toList
  | .unclosed =>
    "unterminated \"\"\" block, value runs to the end of the document".toList

/-- The wording of a warning. -/
def Warning.message (warning : Warning) : Text :=
  "Line ".toList ++ Decimal.writeNat warning.line ++ [':', ' '] ++ warning.cause.message

end Questionnaire.Source
