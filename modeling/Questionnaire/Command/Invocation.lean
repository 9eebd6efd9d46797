import Questionnaire.Command.Argument
/-!
What the command line asks for: one of three commands on a file. Arguments are taken from left to
right. Help is given as soon as it is asked for, a switch that does not fit stops at once, and
arguments that have no place are refused at the end.
-/
namespace Questionnaire.Command

open Text

/-- The commands. -/
inductive Verb where
  | compile
  | check
  | render
deriving DecidableEq, Repr

/-- The name of a command. -/
def Verb.name : Verb → Text
  | .compile => "compile".toList
  | .check => "check".toList
  | .render => "render".toList

/-- The command of a name. -/
def Verb.ofName? (t : Text) : Option Verb :=
  [Verb.compile, .check, .render].find? fun verb => verb.name = t

/-- The switches of a command. -/
def Verb.switches : Verb → List Switch
  | .compile => [.help, .format, .unchecked]
  | .check => [.help]
  | .render => [.help, .answers]

/-- The forms in which a survey is printed. -/
inductive Format where
  | yaml
  | json
deriving DecidableEq, Repr

/-- The form of a name. -/
def Format.ofName? (t : Text) : Option Format :=
  if t = "yaml".toList then some .yaml else if t = "json".toList then some .json else none

/-- A command with its file and its switches. -/
structure Invocation where
  /-- The command. -/
  verb : Verb
  /-- The file of the survey. -/
  file : Text
  /-- Whether what goes wrong quietly is noted. -/
  isVerbose : Bool := false
  /-- The form in which a compiled survey is printed. -/
  format : Format := .yaml
  /-- Whether the problems of a compiled survey are looked at. -/
  isChecked : Bool := true
  /-- The file of the answers. -/
  answers : Option Text := none
deriving DecidableEq, Repr

/-- The arguments of a command as far as they have been taken. -/
structure Taken where
  /-- The file of the survey. -/
  file : Option Text := none
  /-- The form in which a compiled survey is printed. -/
  format : Format := .yaml
  /-- Whether the problems of a compiled survey are looked at. -/
  isChecked : Bool := true
  /-- The file of the answers. -/
  answers : Option Text := none
  /-- Whether an argument had no place. -/
  hasExtra : Bool := false
deriving DecidableEq, Repr

namespace Taken

/-- A switch with its value. -/
def assign (switch : Switch) (value : Text) (taken : Taken) : Except Stop Taken :=
  match switch with
  | .format =>
    match Format.ofName? value with
    | some format => .ok { taken with format }
    | none => .error .usage
  | .answers => .ok { taken with answers := some value }
  | _ => .error .usage

/-- A switch without a value. -/
def set (switch : Switch) (taken : Taken) : Except Stop Taken :=
  match switch with
  | .help => .error .help
  | .unchecked => .ok { taken with isChecked := false }
  | _ => .error .usage

/-- Whether the switch takes the next argument as its value. -/
def takesNext : Switch → Bool
  | .format => true
  | .answers => true
  | _ => false

/-- The arguments of a command taken in order. The two dashes belong to the file before or behind
them and have no place elsewhere. -/
def takeAll (taken : Taken) : List Argument → Except Stop Taken
  | [] => .ok taken
  | ⟨text, .word⟩ :: rest =>
    match taken.file, rest with
    | none, ⟨_, .dashes⟩ :: rest => takeAll { taken with file := some text } rest
    | none, rest => takeAll { taken with file := some text } rest
    | some _, rest => takeAll { taken with hasExtra := true } rest
  | ⟨_, .dashes⟩ :: rest =>
    takeAll (if taken.file.isNone then taken else { taken with hasExtra := true }) rest
  | ⟨_, .unknown⟩ :: rest => takeAll { taken with hasExtra := true } rest
  | ⟨_, .switch switch (some value)⟩ :: rest => do takeAll (← taken.assign switch value) rest
  | ⟨_, .switch switch none⟩ :: rest =>
    if takesNext switch then
      match rest with
      | ⟨value, .word⟩ :: rest => do takeAll (← taken.assign switch value) rest
      | _ => .error .usage
    else do takeAll (← taken.set switch) rest

end Taken

/-- The invocation of a command by the arguments behind its name. -/
def Verb.invoke (verb : Verb) (isVerbose hasExtra : Bool) (arguments : List Text) :
    Except Stop Invocation := do
  let taken ← Taken.takeAll {} (← Argument.ofTexts verb.switches arguments)
  match taken.file with
  | some file =>
    if hasExtra || taken.hasExtra then .error .usage
    else
      pure {
        verb, file, isVerbose, format := taken.format, isChecked := taken.isChecked,
        answers := taken.answers }
  | none => .error .usage

/-- The invocation by arguments, of which the first word is the name of a command. -/
def invokeFrom (isVerbose hasExtra : Bool) : List Argument → Except Stop Invocation
  | [] => .error .usage
  | ⟨_, .dashes⟩ :: _ => .error .usage
  | ⟨_, .unknown⟩ :: rest => invokeFrom isVerbose true rest
  | ⟨_, .switch .verbose none⟩ :: rest => invokeFrom true hasExtra rest
  | ⟨_, .switch .help none⟩ :: _ => .error .help
  | ⟨_, .switch ..⟩ :: _ => .error .usage
  | ⟨text, .word⟩ :: rest =>
    match Verb.ofName? text with
    | some verb => verb.invoke isVerbose hasExtra (rest.map Argument.text)
    | none => .error .usage

/-- The invocation that a command line asks for. -/
def Invocation.ofArguments (arguments : List Text) : Except Stop Invocation := do
  invokeFrom false false (← Argument.ofTexts [.help, .verbose] arguments)

end Questionnaire.Command
