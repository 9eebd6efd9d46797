import Questionnaire.Source.Line
import Questionnaire.Survey.Question
/-!
The kind of a question is settled when the question begins, by the lines that follow up to the
next marker or computation. Quoted values and fenced text are passed over. Of the signals found
the strongest decides: a breakdown, then rows of a matrix, then a text, an essay and a number, then
a checkbox that has something to check.
-/
namespace Questionnaire.Source

open Text

/-- What opens and closes a value of several lines. -/
def quotes : Text := ['"', '"', '"']

/-- What opens and closes fenced text. -/
def fence : Text := ['\u0060', '\u0060', '\u0060']

/-- Whether the text is a keyword, behind a dash or not, with a value that opens quotes and does
not close them. -/
def opensQuotes (t : Text) : Bool :=
  let rest := ((after? ['-'] t).map trimLeft).getD t
  match rest.dropWhile isKeywordChar with
  | ':' :: value =>
    !(rest.takeWhile isKeywordChar).isEmpty && hasStart quotes (trimLeft value) &&
      occurrences quotes t = 1
  | _ => false

/-- Whether the text is a dash with a row of a matrix behind it. -/
def isMatrixRow (t : Text) : Bool :=
  match after? ['-'] t with
  | none => false
  | some rest =>
    match trimLeft rest with
    | 'Q' :: rest => (rest.dropWhile isDecimal).head? = some ':'
    | _ => false

/-- Whether the text ends the lines of a question. -/
def endsQuestion (t : Text) : Bool :=
  isQuestionMarker t || hasStart ['#'] t || hasStart "COMPUTE:".toList t ||
    hasStart "BLOCK:".toList t

/-- What the lines of a question say about its kind. -/
structure Signals where
  /-- The input words. -/
  words : List InputWord := []
  /-- Whether there is a row of a matrix. -/
  rows : Bool := false
  /-- Whether there is an option or a range. -/
  options : Bool := false
deriving DecidableEq, Repr

/-- The signals with those of one more line. -/
def Signals.add (signals : Signals) (t : Text) : Signals :=
  match InputWord.ofText? t with
  | some word => { signals with words := word :: signals.words }
  | none =>
    if isMatrixRow t then { signals with rows := true }
    else if hasStart ['-'] t || hasStart "RANGE:".toList t then { signals with options := true }
    else signals

/-- What the lines that are passed over belong to. -/
inductive Skipping where
  | nothing
  | quoted
  | fenced
deriving DecidableEq, Repr

/-- The signals of the lines of a question. -/
def lookAhead (skipping : Skipping) (signals : Signals) : List Text → Signals
  | [] => signals
  | raw :: rest =>
    match skipping with
    | .quoted => lookAhead (if hasEnd quotes (trim raw) then .nothing else .quoted) signals rest
    | .fenced => lookAhead (if hasStart fence (trim raw) then .nothing else .fenced) signals rest
    | .nothing =>
      if hasStart fence (trim raw) then lookAhead .fenced signals rest
      else if endsQuestion (trim raw) then signals
      else if opensQuotes (trim raw) then lookAhead .quoted signals rest
      else lookAhead .nothing (signals.add (trim raw)) rest

/-- The kind that the signals call for. -/
def Signals.kind (signals : Signals) : QuestionKind :=
  if signals.words.contains .breakdown then .breakdown
  else if signals.rows then .matrix
  else if signals.words.contains .text then .text
  else if signals.words.contains .essay then .essay
  else if signals.words.contains .number then .number
  else if signals.words.contains .checkbox && signals.options then .checkbox
  else .multipleChoice

/-- The kind of a question from the lines behind its marker. -/
def kindAhead (lines : List Text) : QuestionKind := (lookAhead .nothing {} lines).kind

end Questionnaire.Source
