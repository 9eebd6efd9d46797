import Questionnaire.Proofs.Source.Taking

/-!
# Reading with pointers to the current rows

The state does not say which option or row a modifier changes: it is the last one
of the open question, and where there is none a change does nothing. A cursor has
a pointer to the current option and one to the current row besides the state. They
are set where a row is added, forgotten where the question is closed, and followed
where a modifier changes what they point to. Nothing is taken for granted here: a
line that reads or changes what is not there halts the cursor (`Halt.absent`).
-/

namespace Questionnaire

open Text

/-- The option as it is named in the question: a separator by its position. -/
def Question.named (question : Question) (choice : Choice) : Choice :=
  if isSet choice.separator then
    { choice with value := "separator-".toList ++ Decimal.writeNat question.options.length }
  else choice

namespace Source

/-- Where an option or a row is: the question it was added to, and its position in it. -/
structure Pointer where
  /-- The identifier of the question. -/
  question : Text
  /-- The position, from zero on. -/
  position : Nat
deriving DecidableEq, Repr

/-- Why a line is not taken in. -/
inductive Halt where
  /-- The line is malformed. -/
  | fault (fault : Fault)
  /-- Something that the line reads or changes is not there. -/
  | absent
deriving DecidableEq, Repr

/-- What must be there. -/
def need {α : Type} : Option α → Except Halt α
  | none => .error .absent
  | some x => .ok x

/-- The state of reading with pointers to the current option and to the current row. -/
structure Cursor where
  /-- The state. -/
  state : State := {}
  /-- The current option. -/
  option? : Option Pointer := none
  /-- The current row of a matrix. -/
  row? : Option Pointer := none
deriving DecidableEq, Repr

/-- What a pointer points to: one of the items of the open question, if that is the question
of the pointer. -/
def Pointer.target? {α : Type} (items : Question → List α) (st : State) (pointer : Pointer) :
    Option α :=
  st.question?.bind fun question =>
    if question.id = pointer.question then (items question)[pointer.position]? else none

namespace Cursor

/-- The cursor in another state, with the pointers that it has. -/
def move (next : State) (c : Cursor) : Cursor := { c with state := next }

/-- The cursor with no question open, and then with no pointers. -/
def leave (c : Cursor) : Cursor :=
  match c.state.question? with
  | none => c
  | some _ => { state := c.state.closeQuestion }

/-! ## Values -/

/-- The current option changed. -/
def changeOption (change : Choice → Choice) (c : Cursor) : Except Halt Cursor := do
  let pointer ← need c.option?
  let choice ← need (pointer.target? Question.options c.state)
  return c.move (c.state.mapBody (Body.mapOptions (·.set pointer.position (change choice))))

/-- The current row changed. -/
def changeRow (change : Row → Row) (c : Cursor) : Except Halt Cursor := do
  let pointer ← need c.row?
  let row ← need (pointer.target? Question.rows c.state)
  return c.move (c.state.mapBody (Body.mapRows (·.set pointer.position (change row))))

/-- An attribute written. -/
def write (holder : Holder) (aspect : Aspect) (value : Text) (c : Cursor) : Except Halt Cursor :=
  let written := c.move (c.state.write holder aspect value)
  match holder with
  | .block => return written
  | .page => do let _ ← need c.state.page?; return written
  | .heading => do let _ ← need c.state.part?; return written
  | .question => do let _ ← need c.state.question?; return written
  | .option => c.changeOption (Choice.put aspect value)
  | .row => c.changeRow (Row.put aspect value)

/-- The value of an attribute from the text behind its keyword. -/
def assign (holder : Holder) (aspect : Aspect) (line : Nat) (value : Text) (c : Cursor) :
    Except Halt Cursor :=
  match after? quotes value with
  | none => c.write holder aspect value
  | some rest =>
    if hasEnd quotes rest then
      c.write holder aspect (trim (rest.take (rest.length - quotes.length)))
    else return c.move (c.state.assign holder aspect line value)

/-- The open quotes closed and their value written. Nothing but the quotes changes while they are
open, so the value is written to what was current where they were opened. -/
def endCapture (capture : Capture) (c : Cursor) : Except Halt Cursor := do
  let written ← c.write capture.holder capture.aspect capture.value
  return written.move { written.state with capture? := none }

/-- A line inside open quotes. -/
def readQuoted (capture : Capture) (raw : Text) (c : Cursor) : Except Halt Cursor :=
  if hasEnd quotes (trim raw) then
    let before := (trimRight raw).take ((trimRight raw).length - quotes.length)
    c.endCapture
      (if isBlankText before then capture else { capture with lines := capture.lines ++ [before] })
  else return c.move (c.state.readQuoted capture raw)

/-! ## Lines with a meaning anywhere -/

/-- A line of text, which closes the question unless it belongs to it. -/
def readText (raw : Text) (c : Cursor) : Cursor :=
  let c :=
    if c.state.question?.isSome && c.state.textOpen && !c.state.isFenced then c else c.leave
  c.move (c.state.readText raw)

/-- A tooltip outside rows. -/
def readTooltip (line : Nat) (value : Text) (c : Cursor) : Except Halt Cursor :=
  if c.state.question?.isSome then c.assign .question .tooltip line value
  else if c.state.sectionHasContent then
    (c.move c.state.closeText).assign .heading .tooltip line value
  else (c.move c.state.ensurePage).assign .page .tooltip line value

/-! ## Rows and their modifiers -/

/-- One more option, which is then the current one. -/
def addOption (c : Cursor) (choice : Choice) : Except Halt Cursor := do
  let question ← need c.state.question?
  return { c with
    state := c.state.addOptions [question.named choice]
    option? := some ⟨question.id, question.options.length⟩ }

/-- A line that stands for options of the question, which are added one by one, or for none. -/
def readOptions (number : Nat) (line : Line) (question : Question) (c : Cursor) :
    Except Halt Cursor :=
  match line.choices question.kind with
  | [] => return c.move (c.state.readInside number line question)
  | choices => choices.foldlM addOption c

/-- A row of a matrix, which is then the current one. -/
def readMatrixRow (number : Nat) (value : Text) (question : Question) (c : Cursor) : Cursor :=
  { c with
    state := c.state.readMatrixRow number value question
    row? := if question.kind = .matrix then some ⟨question.id, question.rows.length⟩ else c.row? }

/-- The kind of the row that a modifier changes: the current row where it is selected, else the
current option. -/
def current? (c : Cursor) : Option Selection :=
  if c.state.selection? = some .row ∧ c.row?.isSome then some .row
  else if c.option?.isSome then some .option
  else none

/-- The modifiers that a row of a matrix knows, with their values. -/
def modifyRow (change : Modifier) (line : Nat) (value : Text) (c : Cursor) : Except Halt Cursor :=
  match change with
  | .showIf => c.assign .row .showIf line value
  | .hint => c.assign .row .hint line value
  | .tooltip => c.assign .row .tooltip line value
  | .varName => c.changeRow fun r => { r with varName := some value }
  | .subtract => c.changeRow fun r => { r with subtract := some true }
  | .value => c.changeRow fun r => { r with value := some value }
  | other => do
    let pointer ← need c.row?
    let row ← need (pointer.target? Question.rows c.state)
    return c.move (c.state.warn line (.notForRow other row.id))

/-- The modifiers that an option knows, with their values; a column has a number. -/
def modifyOption (change : Modifier) (amount : Choice → Choice) (line : Nat) (value : Text)
    (question : Question) (c : Cursor) : Except Halt Cursor :=
  match change with
  | .showIf => c.assign .option .showIf line value
  | .hint => c.assign .option .hint line value
  | .tooltip => c.assign .option .tooltip line value
  | .text => c.changeOption fun choice => { choice with allowsOther := some true }
  | other =>
    if question.isBreakdown then c.changeOption amount
    else return c.move (c.state.warn line (.onlyBreakdown other question.id))

/-- A modifier of the current row or option. -/
def readModifier (change : Modifier) (amount : Choice → Choice) (line : Nat) (value : Text)
    (question : Question) (c : Cursor) : Except Halt Cursor :=
  match c.current? with
  | some .row => c.modifyRow change line value
  | some .option => c.modifyOption change amount line value question
  | none => return c.move (c.state.warn line (.noRow change))

/-! ## Whole sources -/

/-- A line that means something only inside a question. -/
def readInside (number : Nat) (line : Line) (question : Question) (c : Cursor) :
    Except Halt Cursor :=
  match line.kind with
  | .hint => c.assign .question .hint number line.value
  | .matrixRow => return c.readMatrixRow number line.value question
  | .modifier change =>
    c.readModifier change (State.modifyAmount change line.value) number line.value question
  | .column column =>
    c.readModifier .column (fun choice => { choice with column := some column }) number line.value
      question
  | _ => c.readOptions number line question

/-- A line that has been classified. -/
def readLine (number : Nat) (line : Line) (raw : Text) (after : List Text) (c : Cursor) :
    Except Halt Cursor :=
  let quiet := c.move c.state.quiet
  match line.kind with
  | .text => return c.readText raw
  | .showIf => quiet.assign quiet.state.showIfHolder .showIf number line.value
  | .tooltip => quiet.readTooltip number line.value
  | kind =>
    if kind.isInside then do
      let question ← need quiet.state.question?
      quiet.readInside number line question
    else
      let quiet := if kind.isDivider then quiet.leave else quiet
      return quiet.move (quiet.state.readLine number line raw after)

/-- One line taken in, with its number and the lines behind it. -/
def read (number : Nat) (raw : Text) (after : List Text) (c : Cursor) : Except Halt Cursor :=
  match c.state.capture? with
  | some capture => c.readQuoted capture raw
  | none =>
    if hasStart fence (trim raw) then
      return (c.move { c.state with isFenced := !c.state.isFenced }).readText raw
    else if c.state.isFenced then return c.readText raw
    else
      match classify c.state.context raw with
      | .error fault => throw (.fault fault)
      | .ok line => c.readLine number line raw after

/-- The state at the end of the source. -/
def finish (c : Cursor) : Except Halt State :=
  match c.state.capture? with
  | none => return c.state.closeBlock
  | some capture => do
    let closed ← (c.move (c.state.warn capture.line .unclosed)).endCapture capture
    return closed.state.closeBlock

/-- The cursor may be reached from the start by lines of any kind. -/
inductive Reached : Cursor → Prop where
  /-- Nothing is read yet. -/
  | start : Reached {}
  /-- One more line is read. -/
  | read {c next : Cursor} {number : Nat} {raw : Text} {after : List Text} (h : Reached c)
      (hread : c.read number raw after = .ok next) : Reached next

end Cursor
end Source
end Questionnaire
