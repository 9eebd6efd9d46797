import Questionnaire.Source.State
import Questionnaire.Source.Lookahead
/-!
Reading a source line by line. `read` takes one line into the state, and `readAll` all lines in
order up to the first whose value is malformed. A line inside open quotes or behind an open fence
is not classified at all.
-/
namespace Questionnaire.Source

open Text Decimal

/-- The numbers from `first` to `last` in order. -/
def numbers (first last : Int) : List Int :=
  (List.range (last + 1 - first).toNat).map fun (i : Nat) => first + i

/-- The kind that an input word stands for. -/
def InputWord.kind : InputWord → QuestionKind
  | .text => .text
  | .essay => .essay
  | .number => .number
  | .checkbox => .checkbox
  | .breakdown => .breakdown

/-- The input that a word gives to the cells of a matrix. -/
def InputWord.matrixInput? : InputWord → Option Text
  | .text => some "text".toList
  | .essay => some "essay".toList
  | .checkbox => some "checkbox".toList
  | _ => none

namespace State

/-! ## Values over several lines -/

/-- The value of an attribute from the text behind its keyword. Quotes that close on the same line
hold the value; quotes that stay open begin a value of several lines. -/
def assign (holder : Holder) (aspect : Aspect) (line : Nat) (value : Text) (st : State) : State :=
  match after? quotes value with
  | none => st.write holder aspect value
  | some rest =>
    if hasEnd quotes rest then
      st.write holder aspect (trim (rest.take (rest.length - quotes.length)))
    else
      { st with
        capture? := some ⟨holder, aspect, line, if isBlankText rest then [] else [trim rest]⟩ }

/-- The state with the open quotes closed and their value set. -/
def endCapture (capture : Capture) (st : State) : State :=
  { st.write capture.holder capture.aspect capture.value with capture? := none }

/-- A line inside open quotes; one that ends with quotes closes them. -/
def readQuoted (capture : Capture) (raw : Text) (st : State) : State :=
  if hasEnd quotes (trim raw) then
    let before := (trimRight raw).take ((trimRight raw).length - quotes.length)
    st.endCapture
      (if isBlankText before then capture else { capture with lines := capture.lines ++ [before] })
  else { st with capture? := some { capture with lines := capture.lines ++ [raw] } }

/-! ## Lines with a meaning anywhere -/

/-- A line of text. Directly behind a question marker it belongs to the question, unless it is
fenced; elsewhere it closes the question. -/
def readText (raw : Text) (st : State) : State :=
  if st.question?.isSome && st.textOpen && !st.isFenced then
    st.mapQuestion fun question => { question with text := question.text ++ '\n' :: trim raw }
  else
    let st := st.closeQuestion
    { st with pending := st.pending ++ [trimRight raw] }

/-- A blank line, which counts only between lines of text. -/
def readBlank (st : State) : State :=
  if st.question?.isNone && !st.pending.isEmpty then { st with pending := st.pending ++ [[]] }
  else st

/-- A question marker with the lines behind it. -/
def readQuestion (text : Text) (after : List Text) (st : State) : State :=
  let st := st.closeQuestion.closeText.ensurePage
  { st with
    part? := some (st.part?.getD {})
    count := st.count + 1
    question? := some
      { id := 'Q' :: writeNat (st.count + 1), text, body := .ofKind (kindAhead after) }
    textOpen := true }

/-- A level of navigation: that of the page's entry, or of a new one. -/
def readLevel (level : Nat) (st : State) : State :=
  if st.isListed then
    { st with entries := changeLast (fun entry => { entry with level := level }) st.entries }
  else
    let st := st.ensurePage
    { st with
      entries := st.entries ++ [{ name := (st.page?.getD {}).title, level := level }]
      isListed := true }

/-- A computation, which belongs to the open page or else to the block. -/
def readComputation (computed : Text × Text) (st : State) : State :=
  let st := st.closeQuestion.closeText
  let computation : Computation := ⟨computed.1, computed.2⟩
  match st.page? with
  | some page =>
    { st with page? := some { page with computations := page.computations ++ [computation] } }
  | none =>
    { st with
      block := { st.block with computations := st.block.computations ++ [computation] } }

/-- What a condition outside rows belongs to: the question, the section if it has a title, the
page, the block. -/
def showIfHolder (st : State) : Holder :=
  if st.question?.isSome then .question
  else if (st.part?.bind Section.title).isSome then .heading
  else if st.page?.isSome then .page
  else .block

/-- A condition outside rows. -/
def readShowIf (line : Nat) (value : Text) (st : State) : State :=
  st.assign st.showIfHolder .showIf line value

/-- Whether the open section has a title or something in it. -/
def sectionHasContent (st : State) : Bool :=
  match st.part? with
  | none => false
  | some part => part.title.isSome || !part.items.isEmpty || !st.pending.isEmpty

/-- A tooltip outside rows: of the question, of the section if there is anything in it, else of
the page. -/
def readTooltip (line : Nat) (value : Text) (st : State) : State :=
  if st.question?.isSome then st.assign .question .tooltip line value
  else if st.sectionHasContent then st.closeText.assign .heading .tooltip line value
  else st.ensurePage.assign .page .tooltip line value

/-! ## Attributes of a question -/

/-- A unit before or behind a number, which only numbers and breakdowns have. -/
def readUnit (isBefore : Bool) (line : Nat) (value : Text) (question : Question) (st : State) :
    State :=
  match question.body with
  | .number before after =>
    st.mapBody fun _ => if isBefore then .number (some value) after else .number before (some value)
  | .breakdown options before after label column =>
    st.mapBody fun _ =>
      if isBefore then .breakdown options (some value) after label column
      else .breakdown options before (some value) label column
  | body =>
    st.warn line (.unfit (if isBefore then "PREFIX".toList else "SUFFIX".toList) question.id body.kind)

/-- The label of a total, which only breakdowns have. -/
def readTotal (line : Nat) (value : Text) (question : Question) (st : State) : State :=
  match question.body with
  | .breakdown options before after _ column =>
    st.mapBody fun _ => .breakdown options before after (some value) column
  | body => st.warn line (.unfit "TOTAL".toList question.id body.kind)

/-- A subtotal: a row of a breakdown, or a label for the last row of a matrix. -/
def readSubtotal (line : Nat) (value : Text) (question : Question) (st : State) : State :=
  match question.body with
  -- A matrix without rows has none to label, so there the line is passed over.
  | .matrix (_ :: _) .. => st.mapRow fun row => { row with subtotalLabel := some value }
  | .breakdown .. => st.addOptions [{ value, label := value, subtotalLabel := some value }]
  | body => st.warn line (.unfit "SUBTOTAL".toList question.id body.kind)

/-! ## Rows of a question -/

/-- A range of numbers as options. -/
def readRange (first last : Int) (line : Nat) (question : Question) (st : State) : State :=
  if question.body.takesOptions then
    st.addOptions ((numbers first last).map fun n => { value := writeInt n, label := writeInt n })
  else st.warn line (.unfit "RANGE".toList question.id question.kind)

/-- An input word, which either agrees with the kind of the question or is the input of a
matrix. -/
def readInput (word : InputWord) (line : Nat) (question : Question) (st : State) : State :=
  if question.kind = word.kind then st
  else
    match question.body, word.matrixInput? with
    | .matrix rows options _, some input => st.mapBody fun _ => .matrix rows options (some input)
    | body, _ => st.warn line (.settled word question.id body.kind)

/-- An option. -/
def readOption (line : Nat) (value : Text) (question : Question) (st : State) : State :=
  if question.body.takesOptions then st.addOptions [{ value, label := value }]
  else
    st.warn line (.unfit ("Option '".toList ++ value ++ ['\'']) question.id question.kind)

/-- A row of a matrix. -/
def readMatrixRow (line : Nat) (value : Text) (question : Question) (st : State) : State :=
  match question.body with
  | .matrix rows .. =>
    let row : Row := { id := question.id ++ '_' :: writeNat (rows.length + 1), text := value }
    { st.mapBody (Body.mapRows (· ++ [row])) with selection? := some .row }
  | body => st.warn line (.unfit "Matrix row".toList question.id body.kind)

/-- A heading among the rows of a breakdown. -/
def readHeader (line : Nat) (value : Text) (question : Question) (st : State) : State :=
  match question.body with
  | .breakdown .. => st.addOptions [{ value, label := value, header := some true }]
  | _ => st.warn line (.notBreakdown "HEADER".toList question.id)

/-- A separator among the rows of a breakdown, told apart by its position. -/
def readSeparator (line : Nat) (question : Question) (st : State) : State :=
  match question.body with
  | .breakdown options .. =>
    st.addOptions [{ value := "separator-".toList ++ writeNat options.length, label := []
                     separator := some true }]
  | _ => st.warn line (.notBreakdown "SEPARATOR".toList question.id)

/-! ## Modifiers of a row -/

/-- The modifiers that a row of a matrix knows, with their values. -/
def modifyRow (change : Modifier) (line : Nat) (value : Text) (row : Row) (st : State) : State :=
  match change with
  | .showIf => st.assign .row .showIf line value
  | .hint => st.assign .row .hint line value
  | .tooltip => st.assign .row .tooltip line value
  | .varName => st.mapRow fun r => { r with varName := some value }
  | .subtract => st.mapRow fun r => { r with subtract := some true }
  | .value => st.mapRow fun r => { r with value := some value }
  | other => st.warn line (.notForRow other row.id)

/-- What a modifier changes of a row of a breakdown. -/
def modifyAmount (change : Modifier) (value : Text) (choice : Choice) : Choice :=
  match change with
  | .varName => { choice with varName := some value }
  | .subtract => { choice with subtract := some true }
  | .exclude => { choice with exclude := some true }
  | .value => { choice with prefill := some value }
  | .unitBefore => { choice with unitBefore := some value }
  | .unitAfter => { choice with unitAfter := some value }
  | .custom => { choice with custom := some value }
  | _ => choice

/-- The modifiers that an option knows, with their values; most of them only in a breakdown. -/
def modifyOption (change : Modifier) (line : Nat) (value : Text) (question : Question)
    (st : State) : State :=
  match change with
  | .showIf => st.assign .option .showIf line value
  | .hint => st.assign .option .hint line value
  | .tooltip => st.assign .option .tooltip line value
  | .text => st.mapOption fun c => { c with allowsOther := some true }
  | other =>
    if question.isBreakdown then st.mapOption (modifyAmount other value)
    else st.warn line (.onlyBreakdown other question.id)

/-- A modifier, which changes the last row of the kind that is selected. -/
def readModifier (change : Modifier) (line : Nat) (value : Text) (question : Question)
    (st : State) : State :=
  match if st.selection? = some .row then question.rows.getLast? else none with
  | some row => st.modifyRow change line value row
  | none =>
    if question.options.isEmpty then st.warn line (.noRow change)
    else st.modifyOption change line value question

/-- The column of a row, a modifier with a number. -/
def readColumn (column : Nat) (line : Nat) (question : Question) (st : State) : State :=
  match if st.selection? = some .row then question.rows.getLast? else none with
  | some row => st.warn line (.notForRow .column row.id)
  | none =>
    if question.options.isEmpty then st.warn line (.noRow .column)
    else if question.isBreakdown then st.mapOption fun c => { c with column := some column }
    else st.warn line (.onlyBreakdown .column question.id)

/-! ## Whole sources -/

/-- A line that means something only inside a question. -/
def readInside (number : Nat) (line : Line) (question : Question) (st : State) : State :=
  match line.kind with
  | .hint => st.assign .question .hint number line.value
  | .varName => st.mapQuestion fun q => { q with varName := some line.value }
  | .input word => st.readInput word number question
  | .unitBefore => st.readUnit true number line.value question
  | .unitAfter => st.readUnit false number line.value question
  | .total => st.readTotal number line.value question
  | .subtotal => st.readSubtotal number line.value question
  | .rowSubtotal => st.readSubtotal number line.value question
  | .range first last => st.readRange first last number question
  | .option => st.readOption number line.value question
  | .matrixRow => st.readMatrixRow number line.value question
  | .modifier change => st.readModifier change number line.value question
  | .column column => st.readColumn column number question
  | .rowHeader => st.readHeader number line.value question
  | .rowSeparator => st.readSeparator number question
  | _ => st

/-- A line that has been classified. Any line but text ends the text of the question. -/
def readLine (number : Nat) (line : Line) (raw : Text) (after : List Text) (st : State) : State :=
  let quiet := { st with textOpen := false }
  match line.kind with
  | .text => st.readText raw
  | .blank => quiet.readBlank
  | .page => { quiet.closePage with page? := some { title := line.value } }
  | .block => { quiet.closeBlock with block := { name := line.value }, isImplicit := false }
  | .heading =>
    { quiet.closeSection.ensurePage with part? := some { title := some line.value } }
  | .question => quiet.readQuestion line.value after
  | .navigation _ level => quiet.readLevel level
  | .computation computed => quiet.readComputation computed
  | .showIf => quiet.readShowIf number line.value
  | .tooltip => quiet.readTooltip number line.value
  | _ =>
    match quiet.question? with
    | none => quiet
    | some question => quiet.readInside number line question

/-- One line taken into the state, with its number and the lines behind it. -/
def read (number : Nat) (raw : Text) (after : List Text) (st : State) : Except Fault State :=
  match st.capture? with
  | some capture => .ok (st.readQuoted capture raw)
  | none =>
    -- The line of a fence is text too; the one that opens it closes the question.
    if hasStart fence (trim raw) then
      .ok ({ st with isFenced := !st.isFenced }.readText raw)
    else if st.isFenced then .ok (st.readText raw)
    else (classify st.context raw).map fun line => st.readLine number line raw after

/-- The first line that cannot be read. -/
structure Failure where
  /-- The number of the line, from one on. -/
  line : Nat
  /-- The line as it was written. -/
  raw : Text
  /-- What is wrong with it. -/
  fault : Fault
deriving DecidableEq, Repr

/-- All lines taken into the state in order, the first of which has the number after `done`: the
state after the last line that could be read, and the line that could not. -/
def readAll (done : Nat) (st : State) : List Text → State × Option Failure
  | [] => (st, none)
  | raw :: rest =>
    match st.read (done + 1) raw rest with
    | .error fault => (st, some ⟨done + 1, raw, fault⟩)
    | .ok next => readAll (done + 1) next rest

/-- The state at the end of the source: open quotes are closed with a warning, and all
containers are closed. -/
def finish (st : State) : State :=
  match st.capture? with
  | none => st.closeBlock
  | some capture => (st.warn capture.line .unclosed |>.endCapture capture).closeBlock

end State
end Questionnaire.Source
