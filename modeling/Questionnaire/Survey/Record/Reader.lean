import Questionnaire.Survey.Record
import Questionnaire.Value.Display
/-!
Surveys read back from records. Keys that a part does not know are passed over, except in options
and rows, which take no others; of several faults the first in the order of the record's parts
decides. A position in the navigation may count from the end of the pages when it is negative.
-/
namespace Questionnaire

namespace Record

/-- Why a value is not the record of a survey. -/
inductive Fault where
  /-- A part has no entry under a key that it needs. -/
  | missing (key : Text)
  /-- Something is of the wrong form, or an option or a row has other keys than it should. -/
  | unfit
  /-- A part is no map. -/
  | notMap
  /-- An item is neither a text nor a question. -/
  | unknownItem (kind : Text)
  /-- A question is of no known kind. -/
  | unknownKind (kind : Text)
  /-- The navigation refers to a page that does not exist. -/
  | noPage
deriving DecidableEq, Repr

/-- The wording of a fault; a fault of form has none. -/
def Fault.message? : Fault → Option Text
  | .missing key => some key
  | .unknownItem kind => some ("Unsupported item dict kind: ".toList ++ kind)
  | .unknownKind kind => some (kind ++ " is not a valid QuestionType".toList)
  | .unfit => none
  | .notMap => none
  | .noPage => none

/-! ## Entries of a map -/

/-- The entries of a map. -/
abbrev Fields := List (Text × Value)

/-- The entries of a value that must be a map. -/
def fields (fault : Fault) : Value → Except Fault Fields
  | .map entries => .ok entries
  | _ => .error fault

/-- The text that a value must be. -/
def text : Value → Except Fault Text
  | .text t => .ok t
  | _ => .error .unfit

/-- The truth value that a value must be. -/
def truth : Value → Except Fault Bool
  | .bool b => .ok b
  | _ => .error .unfit

/-- The whole number that a value must be. -/
def whole : Value → Except Fault Int
  | .int n => .ok n
  | _ => .error .unfit

/-- The value of an entry that must be there. -/
def required (key : String) (entries : Fields) : Except Fault Value :=
  match entries.lookup key.toList with
  | some value => .ok value
  | none => .error (.missing key.toList)

/-- An attribute that may be missing or `null`. -/
def attribute? {α : Type} (read : Value → Except Fault α) (key : String) (entries : Fields) :
    Except Fault (Option α) :=
  match entries.lookup key.toList with
  | none => .ok none
  | some .null => .ok none
  | some value => (read value).map some

/-- The value of an entry, or another one if it is missing. -/
def withDefault {α : Type} (read : Value → Except Fault α) (key : String) (absent : α)
    (entries : Fields) : Except Fault α :=
  (entries.lookup key.toList).elim (.ok absent) read

/-- The elements of a value: the items of a list, the keys of a map, the characters of a text. -/
def elements : Value → Except Fault (List Value)
  | .list items => .ok items
  | .map entries => .ok (entries.map fun entry => .text entry.1)
  | .text t => .ok (t.map fun c => .text [c])
  | _ => .error .unfit

/-- Every element read, in order. -/
def readAll {α : Type} (read : Value → Except Fault α) : List Value → Except Fault (List α)
  | [] => .ok []
  | value :: rest => do
    let first ← read value
    let others ← readAll read rest
    pure (first :: others)

/-- The parts under a key; without the key there are none. -/
def readParts {α : Type} (read : Value → Except Fault α) (key : String) (entries : Fields) :
    Except Fault (List α) :=
  (entries.lookup key.toList).elim (.ok []) fun value => (elements value).bind (readAll read)

/-! ## Questions -/

/-- The keys of an option. -/
def choiceKeys : List String :=
  ["value", "label", "show_if", "allows_other_text", "subtract", "exclude", "header", "separator",
   "subtotal_label", "custom", "column", "prefix", "suffix", "prefill_value", "variable", "hint",
   "tooltip"]

/-- The keys of a row. -/
def rowKeys : List String :=
  ["id", "text", "variable", "show_if", "subtract", "value", "subtotal_label", "hint", "tooltip"]

/-- The entries of a map that has the keys `needed` and no others than `known`. -/
def exactFields (known needed : List String) (value : Value) : Except Fault Fields := do
  let entries ← fields .unfit value
  if entries.all (fun entry => known.any fun key => key.toList = entry.1) &&
      needed.all (fun key => (entries.lookup key.toList).isSome) then pure entries
  else .error .unfit

/-- The option of a record. -/
def choice (value : Value) : Except Fault Choice := do
  let entries ← exactFields choiceKeys ["value", "label"] value
  pure {
    value := ← (required "value" entries).bind text
    label := ← (required "label" entries).bind text
    showIf := ← attribute? text "show_if" entries
    allowsOther := ← attribute? truth "allows_other_text" entries
    subtract := ← attribute? truth "subtract" entries
    exclude := ← attribute? truth "exclude" entries
    header := ← attribute? truth "header" entries
    separator := ← attribute? truth "separator" entries
    subtotalLabel := ← attribute? text "subtotal_label" entries
    custom := ← attribute? text "custom" entries
    column := ← attribute? whole "column" entries
    unitBefore := ← attribute? text "prefix" entries
    unitAfter := ← attribute? text "suffix" entries
    prefill := ← attribute? text "prefill_value" entries
    varName := ← attribute? text "variable" entries
    hint := ← attribute? text "hint" entries
    tooltip := ← attribute? text "tooltip" entries }

/-- The row of a record. -/
def row (value : Value) : Except Fault Row := do
  let entries ← exactFields rowKeys ["id", "text"] value
  pure {
    id := ← (required "id" entries).bind text
    text := ← (required "text" entries).bind text
    varName := ← attribute? text "variable" entries
    showIf := ← attribute? text "show_if" entries
    subtract := ← attribute? truth "subtract" entries
    value := ← attribute? text "value" entries
    subtotalLabel := ← attribute? text "subtotal_label" entries
    hint := ← attribute? text "hint" entries
    tooltip := ← attribute? text "tooltip" entries }

/-- The kind of question that a value names. -/
def questionKind (value : Value) : Except Fault QuestionKind :=
  match value with
  | .text name =>
    match QuestionKind.ofName? name with
    | some kind => .ok kind
    | none => .error (.unknownKind value.inner)
  | _ => .error (.unknownKind value.inner)

/-- The body of a kind in the record of a question. -/
def body (kind : QuestionKind) (entries : Fields) : Except Fault Body :=
  match kind with
  | .multipleChoice => (readParts choice "options" entries).map (.choice false)
  | .checkbox => (readParts choice "options" entries).map (.choice true)
  | .text => .ok (.text false)
  | .essay => .ok (.text true)
  | .number => do
    let before ← attribute? text "prefix" entries
    let after ← attribute? text "suffix" entries
    pure (.number before after)
  | .matrix => do
    let input ← attribute? text "input_type" entries
    let options ← readParts choice "options" entries
    let rows ← readParts row "subquestions" entries
    pure (.matrix rows options input)
  | .breakdown => do
    let before ← attribute? text "prefix" entries
    let after ← attribute? text "suffix" entries
    let label ← attribute? text "total_label" entries
    let column ← attribute? whole "total_column" entries
    let options ← readParts choice "options" entries
    pure (.breakdown options before after label column)

/-- The question of a record. -/
def question (entries : Fields) : Except Fault Question := do
  let id ← (required "id" entries).bind Record.text
  let text ← withDefault Record.text "text" [] entries
  let kind ← (required "type" entries).bind questionKind
  let varName ← attribute? Record.text "variable" entries
  let showIf ← attribute? Record.text "show_if" entries
  let hint ← attribute? Record.text "hint" entries
  let tooltip ← attribute? Record.text "tooltip" entries
  let body ← body kind entries
  pure { id, text, varName, showIf, hint, tooltip, body }

/-! ## Containers and the survey -/

/-- The item of a record. -/
def item (value : Value) : Except Fault Item := do
  let entries ← fields .notMap value
  match (entries.lookup "kind".toList).getD .null with
  | .text kind =>
    if kind = "text".toList then ((required "value" entries).bind text).map .text
    else if kind = "question".toList then (question entries).map .question
    else .error (.unknownItem kind)
  | other => .error (.unknownItem other.printed)

/-- The section of a record. -/
def heading (value : Value) : Except Fault Section := do
  let entries ← fields .notMap value
  pure {
    title := ← attribute? text "title" entries
    tooltip := ← attribute? text "tooltip" entries
    showIf := ← attribute? text "show_if" entries
    items := ← readParts item "items" entries }

/-- The computation of a record. -/
def computation (value : Value) : Except Fault Computation := do
  let entries ← fields .unfit value
  pure {
    name := ← (required "name" entries).bind text
    expression := ← (required "expression" entries).bind text }

/-- The page of a record. -/
def page (value : Value) : Except Fault Page := do
  let entries ← fields .notMap value
  pure {
    title := ← withDefault text "title" [] entries
    showIf := ← attribute? text "show_if" entries
    tooltip := ← attribute? text "tooltip" entries
    computations := ← readParts computation "computed_variables" entries
    sections := ← readParts heading "sections" entries }

/-- The block of a record. -/
def block (value : Value) : Except Fault Block := do
  let entries ← fields .notMap value
  pure {
    name := ← withDefault text "name" [] entries
    showIf := ← attribute? text "show_if" entries
    computations := ← readParts computation "computed_variables" entries
    pages := ← readParts page "pages" entries }

/-- The position of one of `count` pages. -/
def position (count : Nat) (value : Value) : Except Fault Nat := do
  let n ← whole value
  let n := if n < 0 then n + count else n
  if 0 ≤ n && n < count then pure n.toNat else .error .noPage

/-- The navigation entry of a record, in a survey with `count` pages. -/
def entry (count : Nat) (value : Value) : Except Fault Entry := do
  let entries ← fields .unfit value
  pure {
    name := ← (required "name" entries).bind text
    level := ← withDefault whole "level" 1 entries
    pages := ← readParts (position count) "pages" entries }

/-- The survey of a record. -/
def survey (value : Value) : Except Fault Survey := do
  let entries ← fields .notMap value
  let name ← withDefault text "name" "Survey".toList entries
  let blocks ← readParts block "blocks" entries
  let entries ← readParts (entry (Survey.pages { name, blocks }).length) "navigation" entries
  pure { name, blocks, entries }

end Record

/-- The survey that a record describes. -/
def Survey.ofRecord (record : Value) : Except Record.Fault Survey := Record.survey record

end Questionnaire
