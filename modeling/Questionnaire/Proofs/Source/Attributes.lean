import Questionnaire.Proofs.Source.Failures
import Questionnaire.Proofs.Source.Leads

/-!
# Attributes and the lines that assign them

Conditions, hints and tooltips are attributes of what is open, and of the last row of the
open question. A line with an attribute is recognised where something is open that can
have it, and assigns its value to that, whatever the value is (`Lead.exists_assigns`).
-/

namespace Questionnaire

open Text Source

/-! ## Attributes -/

/-- The attribute of the option. -/
def Choice.attribute? (aspect : Aspect) (choice : Choice) : Option Text :=
  match aspect with
  | .showIf => choice.showIf
  | .hint => choice.hint
  | .tooltip => choice.tooltip

/-- The attribute of the row. -/
def Row.attribute? (aspect : Aspect) (row : Row) : Option Text :=
  match aspect with
  | .showIf => row.showIf
  | .hint => row.hint
  | .tooltip => row.tooltip

/-- The attribute of the question. -/
def Question.attribute? (aspect : Aspect) (question : Question) : Option Text :=
  match aspect with
  | .showIf => question.showIf
  | .hint => question.hint
  | .tooltip => question.tooltip

/-- The attribute of the section; it has no hint. -/
def Section.attribute? (aspect : Aspect) (part : Section) : Option Text :=
  match aspect with
  | .showIf => part.showIf
  | .hint => none
  | .tooltip => part.tooltip

/-- The attribute of the page; it has no hint. -/
def Page.attribute? (aspect : Aspect) (page : Page) : Option Text :=
  match aspect with
  | .showIf => page.showIf
  | .hint => none
  | .tooltip => page.tooltip

/-- The attribute of the block; it has a condition only. -/
def Block.attribute? (aspect : Aspect) (block : Block) : Option Text :=
  match aspect with
  | .showIf => block.showIf
  | _ => none

theorem Question.options_putAt (aspect : Aspect) (value : Text) (question : Question) :
    (question.putAt .option aspect value).options
      = changeLast (Choice.put aspect value) question.options := by
  show (question.body.mapOptions _).options = changeLast _ question.body.options
  cases question.body <;> rfl

theorem Question.rows_putAt (aspect : Aspect) (value : Text) (question : Question) :
    (question.putAt .row aspect value).rows
      = changeLast (Row.put aspect value) question.rows := by
  show (question.body.mapRows _).rows = changeLast _ question.body.rows
  cases question.body <;> rfl

namespace Source

/-- The attribute of what is open; of the options and the rows of a question it is that of the
last one. -/
def State.attribute? (holder : Holder) (aspect : Aspect) (st : State) : Option Text :=
  match holder with
  | .block => st.block.attribute? aspect
  | .page => st.page?.bind (Page.attribute? aspect)
  | .heading => st.part?.bind (Section.attribute? aspect)
  | .question => st.question?.bind (Question.attribute? aspect)
  | .option => st.question?.bind fun question =>
    question.options.getLast?.bind (Choice.attribute? aspect)
  | .row => st.question?.bind fun question => question.rows.getLast?.bind (Row.attribute? aspect)

namespace State

variable {st : State} {question : Question}

theorem attribute?_question (hquestion : st.question? = some question) (aspect : Aspect)
    (value : Text) :
    (st.write .question aspect value).attribute? .question aspect = some value := by
  rw [write_question, attribute?]
  cases aspect <;> simp [mapQuestion, hquestion, Question.put, Question.attribute?]

/-- What is written for a row of the question that is selected is its attribute. -/
theorem attribute?_selection (hquestion : st.question? = some question) {selection : Selection}
    (hhas : question.Has selection) (aspect : Aspect) (value : Text) :
    (st.write selection.holder aspect value).attribute? selection.holder aspect = some value := by
  cases selection with
  | option =>
      obtain ⟨last, hlast⟩ := Option.isSome_iff_exists.mp (List.getLast?_isSome.mpr hhas)
      simp only [Selection.holder, attribute?, question?_write, hquestion, Option.map_some,
        Option.bind_some, Question.options_putAt, getLast?_changeLast, hlast]
      cases aspect <;> rfl
  | row =>
      obtain ⟨last, hlast⟩ := Option.isSome_iff_exists.mp (List.getLast?_isSome.mpr hhas)
      simp only [Selection.holder, attribute?, question?_write, hquestion, Option.map_some,
        Option.bind_some, Question.rows_putAt, getLast?_changeLast, hlast]
      cases aspect <;> rfl

theorem attribute?_page (h : st.page?.isSome = true) {aspect : Aspect} (haspect : aspect ≠ .hint)
    (value : Text) : (st.write .page aspect value).attribute? .page aspect = some value := by
  obtain ⟨page, hpage⟩ := Option.isSome_iff_exists.mp h
  cases aspect with
  | hint => exact absurd rfl haspect
  | _ => simp [write_page, attribute?, hpage, Page.put, Page.attribute?]

theorem attribute?_heading (h : st.part?.isSome = true) {aspect : Aspect}
    (haspect : aspect ≠ .hint) (value : Text) :
    (st.write .heading aspect value).attribute? .heading aspect = some value := by
  obtain ⟨part, hpart⟩ := Option.isSome_iff_exists.mp h
  cases aspect with
  | hint => exact absurd rfl haspect
  | _ => simp [write_heading, attribute?, hpart, Section.put, Section.attribute?]

/-- A condition outside rows belongs to something that is open. -/
theorem attribute?_showIfHolder (st : State) (value : Text) :
    (st.write st.showIfHolder .showIf value).attribute? st.showIfHolder .showIf = some value := by
  rw [showIfHolder]
  split
  · rename_i hsome
    obtain ⟨question, hquestion⟩ := Option.isSome_iff_exists.mp hsome
    exact attribute?_question hquestion .showIf value
  · split
    · rename_i htitle
      obtain ⟨title, hsome⟩ := Option.isSome_iff_exists.mp htitle
      obtain ⟨part, hpart, -⟩ := Option.bind_eq_some_iff.mp hsome
      exact attribute?_heading (by rw [hpart]; rfl) (by decide) value
    · split
      · rename_i hpage
        exact attribute?_page hpage (by decide) value
      · rfl

/-- A tooltip outside rows belongs to something that is open, too. -/
theorem exists_readTooltip (st : State) : ∃ ready : State, ready.capture? = st.capture? ∧
    (∀ value, (ready.write st.tooltipHolder .tooltip value).attribute? st.tooltipHolder .tooltip
      = some value) ∧
    ∀ number value, st.readTooltip number value
      = ready.assign st.tooltipHolder .tooltip number value := by
  by_cases hquestion : st.question?.isSome = true
  · obtain ⟨question, hopen⟩ := Option.isSome_iff_exists.mp hquestion
    rw [tooltipHolder, if_pos hquestion]
    exact ⟨st, rfl, attribute?_question hopen .tooltip, fun number value => by
      rw [readTooltip, if_pos hquestion]⟩
  · by_cases hcontent : st.sectionHasContent = true
    · rw [tooltipHolder, if_neg hquestion, if_pos hcontent]
      exact ⟨st.closeText, capture?_closeText st,
        attribute?_heading (isSome_part?_closeText hcontent) (by decide), fun number value => by
          rw [readTooltip, if_neg hquestion, if_pos hcontent]⟩
    · rw [tooltipHolder, if_neg hquestion, if_neg hcontent]
      exact ⟨st.ensurePage, rfl, attribute?_page rfl (by decide), fun number value => by
        rw [readTooltip, if_neg hquestion, if_neg hcontent]⟩

theorem readLine_inside (hquestion : st.question? = some question) {line : Line}
    (hinside : line.kind.isInside = true) {number : Nat} {raw : Text} {after : List Text} :
    st.readLine number line raw after = st.quiet.readInside number line question := by
  have hopen : ∀ other, st.question? = some other → other = question := fun other hother =>
    Option.some.inj (hother.symm.trans hquestion)
  obtain ⟨kind, value⟩ := line
  cases kind
  all_goals
    first
    | exact absurd hinside Bool.false_ne_true
    | simp only [readLine]
      split
      · rename_i hnone
        cases hquestion.symm.trans hnone
      · rename_i other hother
        obtain rfl := hopen other hother
        rfl

/-- A modifier with an attribute assigns its value to the selected row. -/
theorem readModifier_eq (hquestion : st.question? = some question) {selection : Selection}
    (hselection : st.selection? = some selection) (hhas : question.Has selection)
    (aspect : Aspect) (number : Nat) (value raw : Text) (after : List Text) :
    st.readLine number ⟨.modifier aspect.modifier, value⟩ raw after
      = st.quiet.assign selection.holder aspect number value := by
  have hquiet : st.quiet.selection? = some selection := hselection
  rw [readLine_inside hquestion rfl, readInside]
  simp only [readModifier, hquiet]
  cases selection with
  | row =>
      obtain ⟨last, hlast⟩ := Option.isSome_iff_exists.mp (List.getLast?_isSome.mpr hhas)
      rw [if_pos rfl, hlast]
      cases aspect <;> rfl
  | option =>
      have hoptions : question.options.isEmpty = false := List.isEmpty_eq_false_iff.mpr hhas
      rw [if_neg (by simp)]
      simp only [hoptions]
      cases aspect <;> rfl

end State

/-! ## Assigning the value -/

namespace Lead

/-- What the value of a line with an attribute belongs to: behind a dash the selected row, else
what is open. -/
def holder (lead : Lead) (st : State) : Holder :=
  if lead.dash?.isSome then
    if st.selection? = some .row then .row else .option
  else
    match lead.aspect with
    | .showIf => st.showIfHolder
    | .hint => .question
    | .tooltip => st.tooltipHolder

/-- **Where a line with an attribute is recognised** its value is assigned to something that is
open and has the attribute, whatever the value is. -/
theorem exists_assigns (lead : Lead) {st : State} (hstanding : st.content.Standing) {raw : Text}
    {line : Line} (hline : st.lineOf? raw = some line) (hkind : line.kind = lead.kind) :
    ∃ ready : State, ready.capture? = none ∧
      (∀ value, (ready.write (lead.holder st) lead.aspect value).attribute? (lead.holder st)
        lead.aspect = some value) ∧
      ∀ number value raw after, st.readLine number ⟨lead.kind, value⟩ raw after
        = ready.assign (lead.holder st) lead.aspect number value := by
  have hcapture : st.capture? = none := (State.lineOf?_eq_some.mp hline).1
  rw [kind] at hkind
  simp only [kind, holder]
  cases hdash : lead.dash? with
  | some blanks =>
      rw [hdash] at hkind
      have hmodifier : line.kind.isModifier = true := by rw [hkind]; rfl
      obtain ⟨selection, hselection⟩ := State.selection?_of_isModifier hline hmodifier
      obtain ⟨question, hquestion, hhas⟩ := hstanding.selected selection hselection
      have hquiet : st.quiet.question? = some question := hquestion
      have hholder : (if st.selection? = some .row then Holder.row else .option)
          = selection.holder := by
        rw [show st.selection? = some selection from hselection]
        cases selection <;> rfl
      simp only [Option.isSome_some, if_true, hholder]
      exact ⟨st.quiet, hcapture, State.attribute?_selection hquiet hhas lead.aspect,
        State.readModifier_eq hquestion hselection hhas lead.aspect⟩
  | none =>
      rw [hdash] at hkind
      cases haspect : lead.aspect with
      | showIf => exact ⟨st.quiet, hcapture, st.quiet.attribute?_showIfHolder, fun _ _ _ _ => rfl⟩
      | hint =>
          rw [haspect] at hkind
          have hinside : line.kind.isInside = true := by rw [hkind]; rfl
          obtain ⟨question, hquestion⟩ := State.question?_of_isInside hline hinside
          exact ⟨st.quiet, hcapture, State.attribute?_question hquestion .hint,
            fun _ _ _ _ => State.readLine_inside hquestion rfl⟩
      | tooltip =>
          obtain ⟨ready, hready, hattribute, hassign⟩ := State.exists_readTooltip st.quiet
          exact ⟨ready, hready.trans hcapture, hattribute,
            fun number value _ _ => hassign number value⟩

end Lead

end Source
end Questionnaire
