import Questionnaire.Source.Reading
import Questionnaire.Validation
/-!
From a source to a survey. A source compiles unless a line has a malformed value or, if it is
checked, the finished survey has problems; what is noticed on the way is kept either way.
-/
namespace Questionnaire.Source

open Text

/-- Why a source does not compile. -/
inductive Rejection where
  /-- A line cannot be read. -/
  | line (failure : State.Failure)
  /-- The survey has problems. -/
  | problems (all : List Validation.Problem)
deriving DecidableEq, Repr

/-- The wording of a line that cannot be read. -/
def State.Failure.message (failure : State.Failure) : Text :=
  "Line ".toList ++ Decimal.writeNat failure.line ++ [':', ' '] ++ failure.fault.message

/-- The wording of a rejection. -/
def Rejection.message : Rejection → Text
  | .line failure => failure.message
  | .problems all => join ['\n'] (all.map Validation.Problem.message)

/-- What comes of a source. -/
structure Compilation where
  /-- What was noticed. -/
  warnings : List Warning
  /-- The survey. -/
  result : Except Rejection Survey

/-- The lines of a source. -/
def sourceLines (source : Text) : List Text := lines (normalizeLineEnds source)

/-- The survey in a finished state. -/
def State.survey (name : Text) (st : State) : Survey :=
  { name, blocks := st.blocks, entries := st.entries }

/-- The survey of a source, its problems not looked at. -/
def compileLines (name : Text) (all : List Text) : Compilation :=
  match State.readAll 0 {} all with
  | (st, some failure) => ⟨st.warnings, .error (.line failure)⟩
  | (st, none) => ⟨st.finish.warnings, .ok (st.finish.survey name)⟩

/-- The survey of a source. -/
def compile (source : Text) (name : Text) (isChecked : Bool) : Compilation :=
  let compiled := compileLines name (sourceLines source)
  match compiled.result with
  | .error _ => compiled
  | .ok survey =>
    if isChecked && !(Validation.problems survey).isEmpty then
      { compiled with result := .error (.problems (Validation.problems survey)) }
    else compiled

end Questionnaire.Source
