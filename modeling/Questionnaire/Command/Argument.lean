import Questionnaire.Text.Digit
import Questionnaire.Text.Cut
/-!
Arguments of the command line. An argument that begins with a dash is a switch, unless it is a
single dash, a negative number or holds a space; a switch may be cut short as long as it fits only
one that is known, and may carry a value behind an equals sign. Behind two dashes every argument
is a word.
-/
namespace Questionnaire.Command

open Text

/-- The switches. -/
inductive Switch where
  | help
  | verbose
  | format
  | unchecked
  | answers
deriving DecidableEq, Repr

/-- The spelling of a switch. -/
def Switch.name : Switch → Text
  | .help => "--help".toList
  | .verbose => "--verbose".toList
  | .format => "--format".toList
  | .unchecked => "--no-validate".toList
  | .answers => "--answers".toList

/-- The short spelling of the switch for help. -/
def shortHelp : Text := ['-', 'h']

/-- What an argument is. -/
inductive Role where
  /-- A command, or the name of a file, or the value of a switch. -/
  | word
  /-- The two dashes behind which there are words only. -/
  | dashes
  /-- A known switch, with the value behind its equals sign. -/
  | switch (switch : Switch) (value : Option Text)
  /-- A switch that is not known. -/
  | unknown
deriving DecidableEq, Repr

/-- An argument with what it is. -/
structure Argument where
  /-- The argument as it was given. -/
  text : Text
  /-- What it is. -/
  role : Role
deriving DecidableEq, Repr

/-- Why no command is carried out. -/
inductive Stop where
  /-- Help was asked for. -/
  | help
  /-- The arguments do not fit. -/
  | usage
deriving DecidableEq, Repr

/-- The exit status. -/
def Stop.status : Stop → Nat
  | .help => 0
  | .usage => 2

/-- A decimal number with a minus. -/
def isNegativeNumber (t : Text) : Bool :=
  match t with
  | '-' :: rest =>
    let line := if rest.getLast? = some '\n' then rest.dropLast else rest
    match line.dropWhile isDecimal with
    | [] => !line.isEmpty
    | '.' :: fraction => !fraction.isEmpty && fraction.all isDecimal
    | _ => false
  | _ => false

/-- What an argument is that begins with the short switch for help. More letters of help change
nothing, any other letter is passed over, but a value is too much. -/
def shortRole (rest : Text) : Role :=
  match rest.dropWhile (· = 'h') with
  | '-' :: value => .switch .help (some value)
  | '=' :: value => .switch .help (some value)
  | _ => .switch .help none

/-- What an argument is that begins with two dashes and fits no known switch in full. -/
def longRole (known : List Switch) (t : Text) : Except Stop Role :=
  let stem := t.takeWhile (· ≠ '=')
  let value := if t.contains '=' then some (t.drop (stem.length + 1)) else none
  match known.find? fun switch => switch.name = stem with
  | some switch => .ok (.switch switch value)
  | none =>
    match known.filter fun switch => hasStart stem switch.name with
    | [switch] => .ok (.switch switch value)
    | [] => .ok (if t.contains ' ' then .word else .unknown)
    | _ => .error .usage

/-- What an argument is, given the switches that are known. -/
def roleOf (known : List Switch) (t : Text) : Except Stop Role :=
  if !hasStart ['-'] t || t = ['-'] then .ok .word
  else if hasStart ['-', '-'] t then longRole known t
  else
    match after? shortHelp t with
    | some rest => .ok (shortRole rest)
    | none => .ok (if isNegativeNumber t || t.contains ' ' then .word else .unknown)

/-- Every argument with what it is. -/
def Argument.ofTexts (known : List Switch) : List Text → Except Stop (List Argument)
  | [] => .ok []
  | t :: rest =>
    if t = ['-', '-'] then .ok (⟨t, .dashes⟩ :: rest.map fun word => ⟨word, .word⟩)
    else do
      let first ← roleOf known t
      let others ← Argument.ofTexts known rest
      pure (⟨t, first⟩ :: others)

end Questionnaire.Command
