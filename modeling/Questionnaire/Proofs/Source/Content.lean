import Questionnaire.Proofs.Source.ParallelLines
import Questionnaire.Proofs.Source.Run

/-!
# The content of a state

Its containers apart, a state holds the items that are closed, in the order of
the source, and what concerns the open question, the pending text and the open
quotes. This is its content. Whichever container is closed, the content is
settled: the open question goes to the items and the pending text behind it
(`content_closeSection`, `content_closePage`, `content_closeBlock`). At the end
the items are those of the survey (`items_finish`).
-/

namespace Questionnaire

open Text

/-- The question with an attribute of its own, of its last option or of its last
row written; a container around it leaves it as it is. -/
def Question.putAt (holder : Source.Holder) (aspect : Source.Aspect) (value : Text)
    (question : Question) : Question :=
  match holder with
  | .question => question.put aspect value
  | .option =>
    { question with
      body := question.body.mapOptions (Source.changeLast (Choice.put aspect value)) }
  | .row =>
    { question with body := question.body.mapRows (Source.changeLast (Row.put aspect value)) }
  | _ => question

/-! ## Items -/

/-- The items of a page. -/
def Page.items (page : Page) : List Item := page.sections.flatMap Section.items

/-- The items of a block. -/
def Block.items (block : Block) : List Item := block.pages.flatMap Page.items

/-- The items of a survey in the order of the document. -/
def Survey.items (survey : Survey) : List Item := survey.blocks.flatMap Block.items

theorem Page.questions_eq_items (page : Page) :
    page.questions = page.items.filterMap Item.question? := by
  rw [items, List.filterMap_flatMap]
  rfl

theorem Block.questions_eq_items (block : Block) :
    block.questions = block.items.filterMap Item.question? := by
  simp only [items, List.filterMap_flatMap, ← Page.questions_eq_items]
  rfl

theorem Survey.questions_eq_items (survey : Survey) :
    survey.questions = survey.items.filterMap Item.question? := by
  simp only [items, List.filterMap_flatMap, ← Block.questions_eq_items]
  exact questions_eq survey

namespace Source

/-! ## Contents -/

/-- What a state holds besides its containers. -/
structure Content where
  /-- The items that are closed, in order. -/
  items : List Item
  /-- The open question. -/
  question? : Option Question
  /-- The kind of the row that modifiers change. -/
  selection? : Option Selection
  /-- The lines of text that are not yet an item. -/
  pending : List Text
  /-- The number of questions so far. -/
  count : Nat
  /-- Whether a line of text belongs to the question. -/
  textOpen : Bool
  /-- The value whose quotes are open. -/
  capture? : Option Capture
  /-- Whether a fence is open. -/
  isFenced : Bool
  /-- The warnings so far. -/
  warnings : List Warning

namespace Content

/-- The content with no question open. -/
def closeQuestion (held : Content) : Content :=
  match held.question? with
  | none => held
  | some question =>
    { held with
      items := held.items ++ [.question question.settled]
      question? := none, selection? := none, textOpen := false }

/-- The item that pending lines make, if any of them is not blank. -/
def textItem? (pending : List Text) : Option Item :=
  match trimLines pending with
  | [] => none
  | lines => some (.text (join ['\n'] lines))

/-- The content with neither a question open nor text pending. -/
def settle (held : Content) : Content :=
  let held := held.closeQuestion
  { held with items := held.items ++ (textItem? held.pending).toList, pending := [] }

/-- The content with the open quotes closed, as at the end of the source. -/
def unquoted (held : Content) : Content :=
  match held.capture? with
  | none => held
  | some capture =>
    { held with
      question? :=
        held.question?.map (Question.putAt capture.holder capture.aspect capture.value)
      capture? := none }

theorem closeQuestion_of_none {held : Content} (h : held.question? = none) :
    held.closeQuestion = held := by
  rw [closeQuestion, h]

theorem closeQuestion_of_some {held : Content} {question : Question}
    (h : held.question? = some question) : held.closeQuestion
      = { held with
          items := held.items ++ [.question question.settled]
          question? := none, selection? := none, textOpen := false } := by
  rw [closeQuestion, h]

@[simp] theorem question?_closeQuestion (held : Content) :
    held.closeQuestion.question? = none := by
  cases h : held.question? <;> simp [closeQuestion, h]

@[simp] theorem pending_closeQuestion (held : Content) :
    held.closeQuestion.pending = held.pending := by
  rw [closeQuestion]
  split <;> rfl

@[simp] theorem count_closeQuestion (held : Content) :
    held.closeQuestion.count = held.count := by
  rw [closeQuestion]
  split <;> rfl

@[simp] theorem capture?_closeQuestion (held : Content) :
    held.closeQuestion.capture? = held.capture? := by
  rw [closeQuestion]
  split <;> rfl

@[simp] theorem isFenced_closeQuestion (held : Content) :
    held.closeQuestion.isFenced = held.isFenced := by
  rw [closeQuestion]
  split <;> rfl

@[simp] theorem warnings_closeQuestion (held : Content) :
    held.closeQuestion.warnings = held.warnings := by
  rw [closeQuestion]
  split <;> rfl

theorem items_closeQuestion (held : Content) : held.closeQuestion.items
    = held.items ++ (held.question?.map fun q => .question q.settled).toList := by
  cases h : held.question? <;> simp [closeQuestion, h]

end Content

namespace State

/-- The items that are closed, in order. -/
def closedItems (st : State) : List Item :=
  st.blocks.flatMap Block.items ++ st.block.items
    ++ st.page?.toList.flatMap Page.items ++ st.part?.toList.flatMap Section.items

/-- The content of a state. -/
def content (st : State) : Content where
  items := st.closedItems
  question? := st.question?
  selection? := st.selection?
  pending := st.pending
  count := st.count
  textOpen := st.textOpen
  capture? := st.capture?
  isFenced := st.isFenced
  warnings := st.warnings

/-! ## Containers -/

/-- A page without sections does not show in the items. -/
private theorem items_getD (page? : Option Page) :
    (page?.getD {}).items = page?.toList.flatMap Page.items := by
  cases page? with
  | none => rfl
  | some page => simp

@[simp] theorem content_ensurePage (st : State) : st.ensurePage.content = st.content := by
  simp [content, closedItems, ensurePage, items_getD]

theorem content_addItem (item : Item) (st : State) :
    (st.addItem item).content = { st.content with items := st.closedItems ++ [item] } := by
  cases hpart : st.part? with
  | none => simp [content, closedItems, addItem, ensurePage, items_getD, hpart]
  | some part => simp [content, closedItems, addItem, ensurePage, items_getD, hpart]

theorem content_closeQuestion (st : State) :
    st.closeQuestion.content = st.content.closeQuestion := by
  cases h : st.question? with
  | none => rw [closeQuestion, h, Content.closeQuestion_of_none h]
  | some question =>
      rw [State.closeQuestion_of_some h, Content.closeQuestion_of_some h]
      exact congrArg
        (fun held : Content => { held with question? := none, selection? := none, textOpen := false })
        (content_addItem (.question question.settled) st)

theorem content_closeText (st : State) : st.closeText.content
    = { st.content with
        items := st.closedItems ++ (Content.textItem? st.pending).toList, pending := [] } := by
  rw [closeText, Content.textItem?]
  cases h : trimLines st.pending with
  | nil => simp [content, closedItems]
  | cons first rest =>
      exact congrArg (fun held : Content => { held with pending := [] })
        (content_addItem (.text (join ['\n'] (first :: rest))) st)

theorem content_settle (st : State) :
    st.closeQuestion.closeText.content = st.content.settle := by
  rw [content_closeText, Content.settle, ← content_closeQuestion]
  rfl

@[simp] theorem content_closeSection (st : State) :
    st.closeSection.content = st.content.settle := by
  rw [← content_settle]
  cases h : st.closeQuestion.closeText.part? with
  | none => rw [closeSection_of_none h]
  | some part =>
      rw [closeSection_of_some h]
      generalize st.closeQuestion.closeText = st' at h
      cases hpage : st'.page? <;>
        simp [content, closedItems, addSection, ensurePage, h, hpage, Page.items]

@[simp] theorem content_closePage (st : State) : st.closePage.content = st.content.settle := by
  rw [← content_closeSection]
  cases h : st.closeSection.page? with
  | none => rw [closePage_of_none h]
  | some page =>
      rw [closePage_of_some h]
      generalize st.closeSection = st' at h
      simp [content, closedItems, addPage, h, Block.items]

@[simp] theorem content_closeBlock (st : State) : st.closeBlock.content = st.content.settle := by
  rw [← content_closePage, closeBlock]
  generalize st.closePage = st'
  by_cases h : (st'.isImplicit && st'.block.isVacant) = true
  · -- A vacant block has no pages and so no items.
    have hempty : st'.block.items = [] := by
      simp only [Block.isVacant, Bool.and_eq_true, List.isEmpty_iff] at h
      simp [Block.items, h.2.1.1]
    simp [content, closedItems, h, hempty]
    rfl
  · simp [content, closedItems, h]
    rfl

/-! ## Attributes and the end -/

theorem content_write (holder : Holder) (aspect : Aspect) (value : Text) (st : State) :
    (st.write holder aspect value).content
      = { st.content with question? := st.question?.map (Question.putAt holder aspect value) } := by
  -- What is written in a container is none of the items in it.
  cases holder with
  | block =>
      have hsame : st.question?.map (Question.putAt .block aspect value) = st.question? :=
        Option.map_id'
      rw [write_block, hsame]
      cases aspect <;> simp [content, closedItems, Block.put, Block.items]
  | page =>
      have hsame : st.question?.map (Question.putAt .page aspect value) = st.question? :=
        Option.map_id'
      rw [write_page, hsame]
      cases hpage : st.page? <;> cases aspect <;>
        simp [content, closedItems, Page.put, Page.items, hpage]
  | heading =>
      have hsame : st.question?.map (Question.putAt .heading aspect value) = st.question? :=
        Option.map_id'
      rw [write_heading, hsame]
      cases hpart : st.part? <;> cases aspect <;>
        simp [content, closedItems, Section.put, hpart]
  | question =>
      rw [write_question]
      rfl
  | option =>
      rw [write_option]
      rfl
  | row =>
      rw [write_row]
      rfl

theorem question?_write (holder : Holder) (aspect : Aspect) (value : Text) (st : State) :
    (st.write holder aspect value).question?
      = st.question?.map (Question.putAt holder aspect value) :=
  congrArg Content.question? (content_write holder aspect value st)

theorem capture?_write (holder : Holder) (aspect : Aspect) (value : Text) (st : State) :
    (st.write holder aspect value).capture? = st.capture? :=
  congrArg Content.capture? (content_write holder aspect value st)

theorem pending_write (holder : Holder) (aspect : Aspect) (value : Text) (st : State) :
    (st.write holder aspect value).pending = st.pending :=
  congrArg Content.pending (content_write holder aspect value st)

theorem isFenced_write (holder : Holder) (aspect : Aspect) (value : Text) (st : State) :
    (st.write holder aspect value).isFenced = st.isFenced :=
  congrArg Content.isFenced (content_write holder aspect value st)

theorem content_endCapture (st : State) (capture : Capture) :
    (st.endCapture capture).content
      = { st.content with capture? := some capture }.unquoted := by
  have h := content_write capture.holder capture.aspect capture.value st
  exact congrArg (fun held : Content => { held with capture? := none }) h

/-- **At the end the items are those of the survey**: open quotes are closed, and
then everything else. -/
theorem items_finish (name : Text) (st : State) :
    (st.finish.survey name).items = st.content.unquoted.settle.items := by
  have hclose : ∀ st : State, st.closeBlock.blocks.flatMap Block.items = st.content.settle.items := by
    intro st
    rw [← content_closeBlock]
    simp [content, closedItems, closeBlock, Block.items]
  rw [Survey.items, survey, finish]
  cases hcapture : st.capture? with
  | none =>
      have h : st.content.unquoted = st.content := by rw [Content.unquoted, content, hcapture]
      exact (hclose st).trans (by rw [h])
  | some capture =>
      refine (hclose _).trans ?_
      rw [content_endCapture]
      have h : { (st.warn capture.line .unclosed).content with capture? := some capture }
          = { st.content with warnings := st.warnings ++ [⟨capture.line, .unclosed⟩] } := by
        simp [content, warn, closedItems, hcapture]
      rw [h]
      simp [Content.unquoted, content, hcapture, Content.settle, Content.items_closeQuestion]

end State
end Source
end Questionnaire
