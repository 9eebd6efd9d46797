import Questionnaire.Command.Run
/-!
The command line. Files are read first, then the command is carried out on their texts; a record
is printed as JSON.
-/
namespace Questionnaire.Main

open Command

/-- The text of a file, if it can be read. -/
def readFile? (path : Text) : IO (Option Text) := do
  try
    let content ← IO.FS.readFile (String.ofList path)
    pure (some content.toList)
  catch _ => pure none

/-- The texts of the files that an invocation names. -/
def load (invocation : Invocation) : IO (List (Text × Text)) := do
  let mut found := []
  for path in invocation.file :: invocation.answers.toList do
    if let some content ← readFile? path then found := (path, content) :: found
  pure found

/-- What is printed. -/
def write : Output → Text
  | .text t => t
  | .record value => Json.writeLong 0 value ++ ['\n']

/-- Prints messages. -/
def complain (t : Text) : IO Unit := do (← IO.getStderr).putStr (String.ofList t)

/-- Carries out an invocation. -/
def execute (invocation : Invocation) : IO UInt32 := do
  let files ← load invocation
  let completion := run (fun path => files.lookup path) invocation
  complain (messageLines completion.warnings)
  match completion.result with
  | .ok outcome =>
    complain outcome.messages
    IO.print (String.ofList (write outcome.output))
    pure (UInt32.ofNat outcome.status)
  | .error failure =>
    complain (messageLines [failure.message])
    pure 1

end Questionnaire.Main

/-- The program. -/
def main (arguments : List String) : IO UInt32 := do
  match Questionnaire.Command.Invocation.ofArguments (arguments.map String.toList) with
  | .ok invocation => Questionnaire.Main.execute invocation
  | .error stop =>
    IO.println "usage: surveytext [--verbose] compile|check|render FILE"
    pure (UInt32.ofNat stop.status)
