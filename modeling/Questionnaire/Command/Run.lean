import Questionnaire.Command.Invocation
import Questionnaire.Source.Compile
import Questionnaire.Survey.Record
import Questionnaire.Json.Reader
import Questionnaire.Json.Writer
import Questionnaire.Report
import Questionnaire.Diagnosis
/-!
The commands carried out. Files are given as a function from names to texts, so that the whole
outcome is a value: an exit status with what is printed, or a failure. A survey that is missing or
does not compile ends a command with the status one and a message.
-/
namespace Questionnaire.Command

open Text

/-- What is printed: a text, or a record in whichever form the program writes records. -/
inductive Output where
  | text (t : Text)
  | record (value : Value)

/-- The end of a command. -/
structure Outcome where
  /-- The exit status. -/
  status : Nat
  /-- What is printed. -/
  output : Output
  /-- What is printed as messages. -/
  messages : Text := []

/-- Why a command has no outcome. -/
inductive Failure where
  /-- The file of the answers is missing. -/
  | noAnswers (file : Text)
  /-- The file of the answers holds no map. -/
  | noMap (file : Text)
  /-- A number in the survey is made of digits, but is no numeral. -/
  | numeral
  /-- An answer to be shown is a whole number out of range. -/
  | outOfRange
deriving DecidableEq, Repr

/-- The wording of a failure. -/
def Failure.message : Failure → Text
  | .noAnswers file => "[Errno 2] No such file or directory: ".toList ++ quoted file
  | .noMap file =>
    "Answers file must contain a mapping of question ids: ".toList ++ file
  | .numeral => "invalid literal".toList
  | .outOfRange => "int too large to convert to float".toList

/-- A command carried out. -/
structure Completion where
  /-- What was noticed. -/
  warnings : List Text := []
  /-- The outcome. -/
  result : Except Failure Outcome

/-- The name of a file without its directory. -/
def baseName (path : Text) : Text := (path.reverse.takeWhile (· ≠ '/')).reverse

/-- The name of a file without its directory and its extension. A point at the front begins no
extension. -/
def stem (path : Text) : Text :=
  let name := baseName path
  let points := name.takeWhile (· = '.')
  let rest := name.dropWhile (· = '.')
  if rest.contains '.' then
    points ++ ((rest.reverse.dropWhile (· ≠ '.')).drop 1).reverse
  else name

/-- Lines of messages. -/
def messageLines (messages : List Text) : Text := messages.flatMap (· ++ ['\n'])

/-- A text on lines of its own. -/
def printed (t : Text) : Output := .text (t ++ ['\n'])

/-- Whether the value counts as no answers at all. -/
def isNothing : Value → Bool
  | .null => true
  | .bool b => !b
  | .int n => n = 0
  | .float x => x == 0
  | .text t => t.isEmpty
  | .list items => items.isEmpty
  | .map entries => entries.isEmpty

/-- The answers in a file. -/
def loadAnswers (read : Text → Option Text) (file : Option Text) : Except Failure Scope :=
  match file with
  | none => .ok []
  | some file =>
    match read file with
    | none => .error (.noAnswers file)
    | some t =>
      match Json.readAnswers? t with
      | some (.map answers) => .ok answers
      | some value => if isNothing value then .ok [] else .error (.noMap file)
      | none => .error (.noMap file)

/-- A survey rendered for the answers in a file, with notes if they are asked for. -/
def renderFile (read : Text → Option Text) (invocation : Invocation) (survey : Survey) :
    Completion :=
  match loadAnswers read invocation.answers with
  | .error failure => { result := .error failure }
  | .ok answers =>
    { warnings := Computation.circleNotices survey.scopes
      result :=
        match Rendering.render? survey answers with
        | none => .error .outOfRange
        | some t =>
          let notes := if invocation.isVerbose then Diagnosis.ofRendering survey answers else []
          .ok ⟨0, printed t, messageLines (notes.map Diagnosis.Note.message)⟩ }

/-- A command on a survey. -/
def perform (read : Text → Option Text) (invocation : Invocation) (survey : Survey) :
    Completion :=
  match invocation.verb with
  | .compile =>
    match invocation.format with
    | .yaml => { result := .ok ⟨0, .record survey.toRecord, []⟩ }
    | .json => { result := .ok ⟨0, printed (Json.writeLong 0 survey.toRecord), []⟩ }
  | .check => { result := .ok ⟨0, printed (Report.ofSurvey survey).format, []⟩ }
  | .render => renderFile read invocation survey

/-- The end of a command that gets no survey. -/
def refusal (message : Text) : Outcome := ⟨1, .text [], messageLines [message]⟩

/-- The end of a command whose survey does not compile. -/
def rejected (rejection : Source.Rejection) : Except Failure Outcome :=
  match rejection with
  | .line ⟨_, _, .numeral _⟩ => .error .numeral
  | other => .ok (refusal other.message)

/-- A command carried out on the files that `read` finds. -/
def run (read : Text → Option Text) (invocation : Invocation) : Completion :=
  match read invocation.file with
  | none => { result := .ok (refusal ("Survey file not found: ".toList ++ invocation.file)) }
  | some source =>
    let compilation := Source.compile source (stem invocation.file) invocation.isChecked
    let noticed := compilation.warnings.map Source.Warning.message
    match compilation.result with
    | .error rejection => { warnings := noticed, result := rejected rejection }
    | .ok survey =>
      let completion := perform read invocation survey
      { completion with warnings := noticed ++ completion.warnings }

end Questionnaire.Command
