import Questionnaire.Survey
import Questionnaire.Source.Quotation
import Questionnaire.Source.Warning
/-!
The state of reading a source. The containers that are open (a block always, a page, a section and
a question at times) stand beside the list of finished blocks. Closing a container adds it to the
one around it, which is opened if need be: a question and the text that is pending go to the
section, the section to the page, the page to the block and to the navigation entry that runs, the
block to the finished blocks.
-/
namespace Questionnaire.Source

open Text

/-- What a value that is read over several lines belongs to. -/
inductive Holder where
  | block
  | page
  | heading
  | question
  | option
  | row
deriving DecidableEq, Repr

/-- The attributes that may be written over several lines. -/
inductive Aspect where
  | showIf
  | hint
  | tooltip
deriving DecidableEq, Repr

/-- A value whose quotes are open. -/
structure Capture where
  /-- What the value belongs to. -/
  holder : Holder
  /-- The attribute. -/
  aspect : Aspect
  /-- The number of the line that opened the quotes. -/
  line : Nat
  /-- The lines of the value so far. -/
  lines : List Text := []
deriving DecidableEq, Repr

/-- The value of an attribute from its lines; a condition is put on one line. -/
def Capture.value (capture : Capture) : Text :=
  match capture.aspect with
  | .showIf => folded capture.lines
  | _ => unfolded capture.lines

/-- The row that modifiers change: an option, or a row of a matrix. -/
inductive Selection where
  | option
  | row
deriving DecidableEq, Repr

/-- The state of reading. -/
structure State where
  /-- The finished blocks. -/
  blocks : List Block := []
  /-- The navigation entries; the last one runs. -/
  entries : List Entry := []
  /-- The open block. -/
  block : Block := {}
  /-- Whether no marker opened the block. -/
  isImplicit : Bool := true
  /-- The open page. -/
  page? : Option Page := none
  /-- The open section. -/
  part? : Option Section := none
  /-- The open question. -/
  question? : Option Question := none
  /-- The kind of the row that modifiers change, the last of its kind. -/
  selection? : Option Selection := none
  /-- The lines of text that are not yet an item. -/
  pending : List Text := []
  /-- The number of questions so far. -/
  count : Nat := 0
  /-- Whether a line of text belongs to the question. -/
  textOpen : Bool := false
  /-- The value whose quotes are open. -/
  capture? : Option Capture := none
  /-- Whether a fence is open. -/
  isFenced : Bool := false
  /-- Whether the open page has its navigation entry. -/
  isListed : Bool := false
  /-- The warnings so far. -/
  warnings : List Warning := []
deriving DecidableEq, Repr

/-- The last element changed. -/
def changeLast {α : Type} (change : α → α) (items : List α) : List α :=
  match items.getLast? with
  | none => items
  | some last => items.dropLast ++ [change last]

/-- The lines without blank ones at the two ends. -/
def trimLines (lines : List Text) : List Text :=
  ((lines.dropWhile isBlankText).reverse.dropWhile isBlankText).reverse

namespace State

/-- Where the next line stands. -/
def context (st : State) : Context :=
  match st.question?, st.selection? with
  | none, _ => .content
  | some _, none => .question
  | some _, some .option => .option
  | some _, some .row => .row

/-! ## Opening and closing containers -/

/-- The state with a page open. -/
def ensurePage (st : State) : State := { st with page? := some (st.page?.getD {}) }

/-- The state with one more item in the open section. -/
def addItem (item : Item) (st : State) : State :=
  let part := st.part?.getD {}
  { st.ensurePage with part? := some { part with items := part.items ++ [item] } }

/-- The state with no question open. -/
def closeQuestion (st : State) : State :=
  match st.question? with
  | none => st
  | some question =>
    { st.addItem (.question { question with body := question.body.settled }) with
      question? := none, selection? := none, textOpen := false }

/-- The state with no text pending. -/
def closeText (st : State) : State :=
  match trimLines st.pending with
  | [] => { st with pending := [] }
  | lines => { st.addItem (.text (join ['\n'] lines)) with pending := [] }

/-- The state with no section open. -/
def closeSection (st : State) : State :=
  let st := st.closeQuestion.closeText
  match st.part? with
  | none => st
  | some part =>
    let page := st.page?.getD {}
    { st with page? := some { page with sections := page.sections ++ [part] }, part? := none }

/-- The number of finished pages. -/
def pageCount (st : State) : Nat :=
  (st.blocks.flatMap Block.pages).length + st.block.pages.length

/-- The state with no page open. -/
def closePage (st : State) : State :=
  let st := st.closeSection
  match st.page? with
  | none => st
  | some page =>
    -- The position of the page is counted before the page is added.
    { st with
      block := { st.block with pages := st.block.pages ++ [page] }
      entries := changeLast (fun entry => { entry with pages := entry.pages ++ [st.pageCount] })
        st.entries
      page? := none
      isListed := false }

/-- The state with a new block that no marker opened; the block before it is kept unless it is
such a block too and has nothing in it. -/
def closeBlock (st : State) : State :=
  let st := st.closePage
  { st with
    blocks := if st.isImplicit && st.block.isVacant then st.blocks else st.blocks ++ [st.block]
    block := {}
    isImplicit := true }

/-! ## Changing what is open -/

/-- The state with one more warning. -/
def warn (line : Nat) (cause : Cause) (st : State) : State :=
  { st with warnings := st.warnings ++ [⟨line, cause⟩] }

/-- The state with the open question changed. -/
def mapQuestion (change : Question → Question) (st : State) : State :=
  { st with question? := st.question?.map change }

/-- The state with the body of the open question changed. -/
def mapBody (change : Body → Body) (st : State) : State :=
  st.mapQuestion fun question => { question with body := change question.body }

/-- The state with the last option changed. -/
def mapOption (change : Choice → Choice) (st : State) : State :=
  st.mapBody (Body.mapOptions (changeLast change))

/-- The state with the last row changed. -/
def mapRow (change : Row → Row) (st : State) : State :=
  st.mapBody (Body.mapRows (changeLast change))

/-- The state with options added to the open question. -/
def addOptions (options : List Choice) (st : State) : State :=
  { st.mapBody (Body.mapOptions (· ++ options)) with selection? := some .option }

/-- The state with an attribute set. Blocks have no tooltip, and only questions, options and rows
have a hint. -/
def write (holder : Holder) (aspect : Aspect) (value : Text) (st : State) : State :=
  match holder, aspect with
  | .block, .showIf => { st with block := { st.block with showIf := some value } }
  | .block, _ => st
  | .page, .showIf => { st with page? := st.page?.map fun p => { p with showIf := some value } }
  | .page, .tooltip => { st with page? := st.page?.map fun p => { p with tooltip := some value } }
  | .page, .hint => st
  | .heading, .showIf =>
    { st with part? := st.part?.map fun s => { s with showIf := some value } }
  | .heading, .tooltip =>
    { st with part? := st.part?.map fun s => { s with tooltip := some value } }
  | .heading, .hint => st
  | .question, .showIf => st.mapQuestion fun q => { q with showIf := some value }
  | .question, .hint => st.mapQuestion fun q => { q with hint := some value }
  | .question, .tooltip => st.mapQuestion fun q => { q with tooltip := some value }
  | .option, .showIf => st.mapOption fun c => { c with showIf := some value }
  | .option, .hint => st.mapOption fun c => { c with hint := some value }
  | .option, .tooltip => st.mapOption fun c => { c with tooltip := some value }
  | .row, .showIf => st.mapRow fun r => { r with showIf := some value }
  | .row, .hint => st.mapRow fun r => { r with hint := some value }
  | .row, .tooltip => st.mapRow fun r => { r with tooltip := some value }

end State
end Questionnaire.Source
