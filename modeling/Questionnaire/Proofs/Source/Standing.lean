import Questionnaire.Proofs.Source.Taking

/-!
# What is open at the same time

While a question is open no text is pending, no fence is open behind it, the
selected row is there, and so is what open quotes belong to (`Standing`). Every
line preserves this (`Standing.takes`), so it holds throughout a run.
-/

namespace Questionnaire

open Text Source

/-- Whether the question has a row of the selected kind. -/
def Question.Has (question : Question) : Selection → Prop
  | .option => question.options ≠ []
  | .row => question.rows ≠ []

theorem Question.has_of_selected? {question : Question} {selection? : Option Selection}
    {selection : Selection} (h : question.selected? selection? = some selection) :
    question.Has selection := by
  rw [selected?] at h
  split at h
  · rename_i hrow
    cases h
    exact hrow.2
  · split at h
    · rename_i hoptions
      cases h
      exact hoptions
    · cases h

theorem Question.Alike.has {old new : Question} (h : old.Alike new) {selection : Selection}
    (hold : old.Has selection) : new.Has selection := by
  have hne : ∀ {α β : Type} {f : α → β} {before after : List α},
      after.map f = before.map f → before ≠ [] → after ≠ [] := by
    intro α β f before after hmap hbefore hafter
    rw [hafter, List.map_nil] at hmap
    exact hbefore (List.map_eq_nil_iff.mp hmap.symm)
  cases selection with
  | option => exact hne h.values hold
  | row => exact hne h.rows hold

namespace Source

/-- Only questions that can have options have lines for them. -/
theorem Line.takesOptions_of_choices {line : Line} {kind : QuestionKind}
    (h : line.choices kind ≠ []) : kind.takesOptions = true := by
  cases kind with
  | text | essay | number =>
      obtain ⟨lineKind, value⟩ := line
      cases lineKind <;> exact absurd rfl h
  | _ => rfl

theorem Line.takesOptions_of_added {line : Line} {kind : QuestionKind} {added : List Choice}
    (hadded : added.map Choice.bare = line.choices kind) (hsome : added ≠ []) :
    kind.takesOptions = true := by
  have hchoices : line.choices kind ≠ [] := fun hnil =>
    hsome (List.map_eq_nil_iff.mp (hadded.trans hnil))
  exact takesOptions_of_choices hchoices

namespace Content

/-- Whether what a value is written to is there; containers are not part of the
content. -/
def Holds (held : Content) : Holder → Prop
  | .question => ∃ question, held.question? = some question
  | .option => ∃ question, held.question? = some question ∧ question.Has .option
  | .row => ∃ question, held.question? = some question ∧ question.Has .row
  | _ => True

/-- **What is open at the same time.** -/
structure Standing (held : Content) : Prop where
  /-- While a question is open no text is pending. -/
  pending : ∀ question, held.question? = some question → held.pending = []
  /-- Behind an open fence no question is open. -/
  fence : held.isFenced = true → held.question? = none
  /-- Text belongs to a question only while one is open. -/
  textOpen : held.question? = none → held.textOpen = false
  /-- The selected row is one of the open question. -/
  selected : ∀ selection, held.selection? = some selection →
    ∃ question, held.question? = some question ∧ question.Has selection
  /-- What open quotes belong to is there. -/
  captured : ∀ capture, held.capture? = some capture → held.Holds capture.holder

theorem standing_empty : State.content {} |>.Standing where
  pending := fun _ _ => rfl
  fence := fun _ => rfl
  textOpen := fun _ => rfl
  selected := fun _ h => by cases h
  captured := fun _ h => by cases h

/-- Nothing but the open question is looked at. -/
theorem Holds.congr {held other : Content} {holder : Holder} (h : held.Holds holder)
    (hquestion : other.question? = held.question?) : other.Holds holder := by
  cases holder with
  | question | option | row =>
      rw [Holds, hquestion]
      exact h
  | _ => trivial

/-- What is there in the open question is there in one with its rows. -/
theorem Holds.question {held : Content} {question next : Question} {holder : Holder}
    (h : held.Holds holder) (hquestion : held.question? = some question)
    (hhas : ∀ selection, question.Has selection → next.Has selection) :
    { held with question? := some next }.Holds holder := by
  have hsame : ∀ {selection : Selection},
      (∃ old, held.question? = some old ∧ old.Has selection) →
        ∃ new, some next = some new ∧ new.Has selection := by
    rintro selection ⟨old, hold, hold'⟩
    obtain rfl := Option.some.inj (hquestion.symm.trans hold)
    exact ⟨next, rfl, hhas selection hold'⟩
  cases holder with
  | question => exact ⟨next, rfl⟩
  | option => exact hsame h
  | row => exact hsame h
  | _ => trivial

namespace Standing

variable {held : Content}

/-- Without a question no row is selected. -/
theorem selection (h : held.Standing) (hquestion : held.question? = none) :
    held.selection? = none := by
  cases hselection : held.selection? with
  | none => rfl
  | some selection =>
      obtain ⟨question, hsome, _⟩ := h.selected selection hselection
      rw [hquestion] at hsome
      cases hsome

/-- Another question with the rows of the open one. -/
theorem question (h : held.Standing) {question next : Question}
    (hquestion : held.question? = some question)
    (hhas : ∀ selection, question.Has selection → next.Has selection) :
    { held with question? := some next }.Standing where
  pending := fun _ _ => h.pending question hquestion
  fence := fun hfenced => by
    rw [h.fence hfenced] at hquestion
    cases hquestion
  textOpen := fun hnone => by cases hnone
  selected := by
    intro selection hselection
    obtain ⟨old, hold, hold'⟩ := h.selected selection hselection
    obtain rfl := Option.some.inj (hquestion.symm.trans hold)
    exact ⟨next, rfl, hhas selection hold'⟩
  captured := fun capture hcapture => (h.captured capture hcapture).question hquestion hhas

/-- Quotes that are open or closed. -/
theorem setCapture (h : held.Standing) {capture? : Option Capture}
    (hholds : ∀ capture, capture? = some capture → held.Holds capture.holder) :
    { held with capture? }.Standing :=
  ⟨h.pending, h.fence, h.textOpen, h.selected, fun capture hcapture =>
    (hholds capture hcapture).congr rfl⟩

theorem unquoted (h : held.Standing) : held.unquoted.Standing := by
  rw [Content.unquoted]
  cases hcapture : held.capture? with
  | none => exact h
  | some capture =>
      have hclosed : { held with capture? := none }.Standing :=
        h.setCapture fun _ hnone => by cases hnone
      cases hquestion : held.question? with
      | none => simpa [hquestion] using hclosed
      | some question =>
          have halike := Question.Alike.putAt capture.holder capture.aspect capture.value question
          simpa [hquestion] using hclosed.question hquestion fun _ => halike.has

/-- With no question open and no quotes there is little to say. -/
theorem of_none (hquestion : held.question? = none) (hselection : held.selection? = none)
    (htext : held.textOpen = false) (hcapture : ∀ capture, held.capture? = some capture →
      held.Holds capture.holder) : held.Standing where
  pending := fun _ h => by
    rw [hquestion] at h
    cases h
  fence := fun _ => hquestion
  textOpen := fun _ => htext
  selected := fun _ h => by
    rw [hselection] at h
    cases h
  captured := hcapture

theorem selection?_closeQuestion (h : held.Standing) :
    held.closeQuestion.selection? = none := by
  cases hquestion : held.question? with
  | none => rw [closeQuestion_of_none hquestion, h.selection hquestion]
  | some question => rw [closeQuestion_of_some hquestion]

theorem textOpen_closeQuestion (h : held.Standing) : held.closeQuestion.textOpen = false := by
  cases hquestion : held.question? with
  | none => rw [closeQuestion_of_none hquestion, h.textOpen hquestion]
  | some question => rw [closeQuestion_of_some hquestion]

/-- What is open is settled, outside quotes. -/
theorem settle (h : held.Standing) (hcapture : held.capture? = none) : held.settle.Standing := by
  refine of_none (question?_closeQuestion held) h.selection?_closeQuestion
    h.textOpen_closeQuestion fun capture hsome => ?_
  have hnone : held.settle.capture? = none := (capture?_closeQuestion held).trans hcapture
  rw [hnone] at hsome
  cases hsome

/-- The text of the question is at its end. -/
theorem quiet (h : held.Standing) : { held with textOpen := false }.Standing :=
  ⟨h.pending, h.fence, fun _ => rfl, h.selected, fun capture hcapture =>
    (h.captured capture hcapture).congr rfl⟩

/-- A line inside a question has its effect. -/
theorem effect (h : held.Standing) {line : Line} {question next : Question}
    {selection? : Option Selection} {capture? : Option Capture} {cause? : Option Cause}
    (hquestion : held.question? = some question)
    (heffect : Effect line question held.selection? next selection? capture? cause?) :
    { held with question? := some next, selection?, capture?, textOpen := false }.Standing := by
  -- The question stays open, so the selection and the quotes are what is left to see.
  have hof : (∀ selection, selection? = some selection → next.Has selection) →
      (∀ capture, capture? = some capture → capture.holder = .question ∨
        ∃ selection : Selection, capture.holder = selection.holder ∧ next.Has selection) →
      { held with question? := some next, selection?, capture?, textOpen := false }.Standing := by
    intro hselected hcaptured
    refine ⟨fun _ _ => h.pending question hquestion, fun hfenced => ?_, fun _ => rfl,
      fun selection hselection => ⟨next, rfl, hselected selection hselection⟩, ?_⟩
    · rw [h.fence hfenced] at hquestion
      cases hquestion
    · intro capture hsome
      rcases hcaptured capture hsome with hholder | ⟨selection, hholder, hhas⟩
      · rw [hholder]
        exact ⟨next, rfl⟩
      · rw [hholder]
        cases selection <;> exact ⟨next, rfl, hhas⟩
  -- A question like the old one has the rows that the old one has.
  have hkept : question.Alike next →
      ∀ selection, held.selection? = some selection → next.Has selection := by
    intro halike selection hselection
    obtain ⟨old, hold, hhas⟩ := h.selected selection hselection
    obtain rfl := Option.some.inj (hquestion.symm.trans hold)
    exact halike.has hhas
  cases heffect with
  | sets hnext _ _ => exact hof (hkept hnext.alike) fun _ hnone => by cases hnone
  | quotes hholder _ _ =>
      refine hof (hkept (.refl question)) fun capture hsome => .inl ?_
      obtain rfl := Option.some.inj hsome
      exact hholder
  | ignored _ _ _ _ _ => exact hof (hkept (.refl question)) fun _ hnone => by cases hnone
  | options hadded hsome _ =>
      refine hof (fun selection hselection => ?_) fun _ hnone => by cases hnone
      obtain rfl := Option.some.inj hselection
      have htakes := Line.takesOptions_of_added hadded hsome
      rw [Question.Has, Question.options_mapOptions _ _ htakes]
      exact List.append_ne_nil_of_right_ne_nil _ hsome
  | row hrow =>
      refine hof (fun selection hselection => ?_) fun _ hnone => by cases hnone
      obtain rfl := Option.some.inj hselection
      rw [Question.Has, Question.rows_mapRows _ _ hrow.2]
      exact List.append_ne_nil_of_right_ne_nil _ (List.cons_ne_nil _ _)
  | labels hlabel =>
      exact hof (hkept (.labels line.value question)) fun _ hnone => by cases hnone
  | amends _ _ _ _ => exact hof (hkept (.amend _ _ question)) fun _ hnone => by cases hnone
  | amendsQuoted _ hselected hholder _ _ =>
      refine hof (hkept (.refl question)) fun capture hsome => .inr ?_
      obtain rfl := Option.some.inj hsome
      exact ⟨_, hholder, Question.has_of_selected? hselected⟩

/-- **Every line preserves this.** -/
theorem takes {number : Nat} {raw : Text} {after : List Text} {st : State} {next : Content}
    (h : st.content.Standing) (htakes : st.Takes number raw after next) : next.Standing := by
  cases htakes with
  | quoted hcapture hholder =>
      refine h.setCapture fun capture hsome => ?_
      obtain rfl := Option.some.inj hsome
      rw [hholder]
      exact h.captured _ hcapture
  | unquoted hcapture hholder =>
      refine (h.setCapture fun capture hsome => ?_).unquoted
      obtain rfl := Option.some.inj hsome
      rw [hholder]
      exact h.captured _ hcapture
  | @continued question htext hquestion hfence =>
      -- The rows of the question are those it had, and the fence is closed.
      let next := { question with text := question.text ++ '\n' :: trim raw }
      have hnext : { st.content with question? := some next }.Standing :=
        h.question hquestion fun _ hhas => hhas
      refine ⟨hnext.pending, (nomatch ·), (nomatch ·),
        hnext.selected, fun capture hsome => ?_⟩
      cases htext.1.symm.trans hsome
  | said htext =>
      refine of_none (question?_closeQuestion _) h.selection?_closeQuestion
        h.textOpen_closeQuestion fun capture hsome => ?_
      have hnone := (capture?_closeQuestion st.content).trans htext.1
      cases hnone.symm.trans hsome
  | divided hline _ _ => exact h.quiet.settle (State.lineOf?_eq_some.mp hline).1
  | asked hline _ =>
      obtain ⟨hcapture, _, hfenced, _⟩ := State.lineOf?_eq_some.mp hline
      have hsettled := h.quiet.settle hcapture
      refine ⟨fun _ _ => rfl, fun hopen => ?_, (nomatch ·), ?_, ?_⟩
      · have hfence := (isFenced_closeQuestion { st.content with textOpen := false }).trans hfenced
        cases hfence.symm.trans hopen
      · intro selection hselection
        have hnone := hsettled.selection (question?_closeQuestion _)
        cases hnone.symm.trans hselection
      · intro capture hsome
        have hnone := (capture?_closeQuestion { st.content with textOpen := false }).trans hcapture
        cases hnone.symm.trans hsome
  | spaced hline _ hquestion =>
      refine of_none hquestion (h.selection hquestion) rfl fun capture hsome => ?_
      have hnone := (State.lineOf?_eq_some.mp hline).1
      cases hnone.symm.trans hsome
  | noted hline _ _ hquestion content hcontent capture? hholder =>
      have hstanding : content.Standing := by
        rcases hcontent with rfl | rfl
        · exact h.quiet
        · exact h.quiet.settle (State.lineOf?_eq_some.mp hline).1
      refine hstanding.setCapture fun capture hsome => ?_
      rcases hholder capture hsome with hcontainer | hcontainer | hcontainer <;>
        rw [hcontainer] <;> trivial
  | inside _ _ _ hquestion heffect =>
      have hnext := h.effect hquestion heffect
      exact ⟨hnext.pending, hnext.fence, hnext.textOpen, hnext.selected,
        fun capture hcapture => (hnext.captured capture hcapture).congr rfl⟩

/-- What is open at the same time throughout a run. -/
theorem read {number : Nat} {raw : Text} {after : List Text} {st st' : State}
    (h : st.content.Standing) (hread : st.read number raw after = .ok st') :
    st'.content.Standing :=
  h.takes (State.read_takes hread)

end Standing
end Content

namespace State

variable {st : State} {raw : Text} {line : Line}

/-- A line that means something only inside a question stands in one. -/
theorem question?_of_isInside (hline : st.lineOf? raw = some line)
    (hinside : line.kind.isInside = true) : ∃ question, st.question? = some question := by
  have hcontext := (stands_of_classify (lineOf?_eq_some.mp hline).2.2.2).inside hinside
  cases hquestion : st.question? with
  | some question => exact ⟨question, rfl⟩
  | none => simp [context, hquestion] at hcontext

/-- A modifier stands where a row is selected. -/
theorem selection?_of_isModifier (hline : st.lineOf? raw = some line)
    (hmodifier : line.kind.isModifier = true) : ∃ selection, st.selection? = some selection := by
  have hrow := (stands_of_classify (lineOf?_eq_some.mp hline).2.2.2).modifier hmodifier
  rw [context] at hrow
  cases hselection : st.selection? with
  | some selection => exact ⟨selection, rfl⟩
  | none =>
      rw [hselection] at hrow
      cases hquestion : st.question? <;> rw [hquestion] at hrow <;> cases hrow

/-- What a tooltip outside rows belongs to. -/
def tooltipHolder (st : State) : Holder :=
  if st.question?.isSome then .question
  else if st.sectionHasContent then .heading
  else .page

/-- Behind its text a section that has anything in it is open. -/
theorem isSome_part?_closeText {st : State} (h : st.sectionHasContent = true) :
    st.closeText.part?.isSome = true := by
  rw [closeText]
  split
  · cases hpart : st.part? with
    | none => simp [sectionHasContent, hpart] at h
    | some part => rfl
  · rfl

end State
end Source
end Questionnaire
