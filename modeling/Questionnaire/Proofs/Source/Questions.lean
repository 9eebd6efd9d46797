import Questionnaire.Source.Compile

/-!
# The questions of a source

A state has the questions that are closed, in the order of the source, and at
most one that is open. Closing a container moves the open question behind the
closed ones and changes no other question; which containers the questions
stand in plays no part.
-/

namespace Questionnaire

/-- The questions of a block. -/
def Block.questions (block : Block) : List Question := block.pages.flatMap Page.questions

/-- The question as it is once nothing is added to it. -/
def Question.settled (question : Question) : Question :=
  { question with body := question.body.settled }

theorem Survey.questions_eq (survey : Survey) :
    survey.questions = survey.blocks.flatMap Block.questions := by
  simp only [questions, pages, List.flatMap_assoc, List.flatMap_map]
  rfl

namespace Source.State

/-- The questions that are closed, in order. -/
def closedQuestions (st : State) : List Question :=
  st.blocks.flatMap Block.questions ++ st.block.questions
    ++ st.page?.toList.flatMap Page.questions ++ st.part?.toList.flatMap Section.questions

/-! ## Opening and closing containers -/

private theorem questions_getD (page? : Option Page) :
    (page?.getD {}).questions = page?.toList.flatMap Page.questions := by
  cases page? with
  | none => rfl
  | some page => simp

@[simp] theorem closedQuestions_ensurePage (st : State) :
    st.ensurePage.closedQuestions = st.closedQuestions := by
  simp [closedQuestions, ensurePage, questions_getD]

@[simp] theorem closedQuestions_addItem (item : Item) (st : State) :
    (st.addItem item).closedQuestions = st.closedQuestions ++ item.question?.toList := by
  have hitem : ([item].filterMap Item.question?) = item.question?.toList := by
    cases h : item.question? <;> simp [h]
  cases hpart : st.part? with
  | none =>
      simp [closedQuestions, addItem, ensurePage, questions_getD, hpart, Section.questions, hitem]
  | some part =>
      simp [closedQuestions, addItem, ensurePage, questions_getD, hpart, Section.questions, hitem]

theorem closedQuestions_closeQuestion (st : State) :
    st.closeQuestion.closedQuestions
      = st.closedQuestions ++ (st.question?.map Question.settled).toList := by
  cases h : st.question? with
  | none => simp [closeQuestion, h]
  | some question =>
      rw [closeQuestion, h]
      exact closedQuestions_addItem (.question question.settled) st

@[simp] theorem closedQuestions_closeText (st : State) :
    st.closeText.closedQuestions = st.closedQuestions := by
  rw [closeText]
  split
  · rfl
  · have hitem := closedQuestions_addItem (.text (Text.join ['\n'] (trimLines st.pending))) st
    rw [Item.question?, Option.toList_none, List.append_nil] at hitem
    exact hitem

@[simp] theorem question?_closeQuestion (st : State) : st.closeQuestion.question? = none := by
  cases h : st.question? <;> simp [closeQuestion, h]

@[simp] theorem question?_closeText (st : State) : st.closeText.question? = st.question? := by
  rw [closeText]
  split <;> rfl

@[simp] theorem isFenced_closeQuestion (st : State) :
    st.closeQuestion.isFenced = st.isFenced := by
  rw [closeQuestion]
  split <;> rfl

@[simp] theorem isFenced_closeText (st : State) : st.closeText.isFenced = st.isFenced := by
  rw [closeText]
  split <;> rfl

@[simp] theorem capture?_closeQuestion (st : State) :
    st.closeQuestion.capture? = st.capture? := by
  rw [closeQuestion]
  split <;> rfl

@[simp] theorem capture?_closeText (st : State) : st.closeText.capture? = st.capture? := by
  rw [closeText]
  split <;> rfl

theorem closedQuestions_closeSection (st : State) :
    st.closeSection.closedQuestions
      = st.closedQuestions ++ (st.question?.map Question.settled).toList := by
  rw [← closedQuestions_closeQuestion, ← closedQuestions_closeText st.closeQuestion, closeSection]
  cases h : st.closeQuestion.closeText.part? with
  | none => rfl
  | some part =>
      simp only [closedQuestions, h, ← questions_getD]
      simp [Page.questions]

@[simp] theorem question?_closeSection (st : State) : st.closeSection.question? = none := by
  rw [closeSection]
  cases h : st.closeQuestion.closeText.part? <;> simp

@[simp] theorem part?_closeSection (st : State) : st.closeSection.part? = none := by
  rw [closeSection]
  cases h : st.closeQuestion.closeText.part? with
  | none => exact h
  | some _ => rfl

theorem closedQuestions_closePage (st : State) :
    st.closePage.closedQuestions
      = st.closedQuestions ++ (st.question?.map Question.settled).toList := by
  rw [← closedQuestions_closeSection, closePage]
  cases h : st.closeSection.page? with
  | none => rfl
  | some page => simp [closedQuestions, h, Block.questions]

@[simp] theorem question?_closePage (st : State) : st.closePage.question? = none := by
  rw [closePage]
  cases h : st.closeSection.page? <;> simp

@[simp] theorem part?_closePage (st : State) : st.closePage.part? = none := by
  rw [closePage]
  cases h : st.closeSection.page? <;> simp

@[simp] theorem page?_closePage (st : State) : st.closePage.page? = none := by
  rw [closePage]
  cases h : st.closeSection.page? with
  | none => exact h
  | some _ => rfl

theorem closedQuestions_closeBlock (st : State) :
    st.closeBlock.closedQuestions
      = st.closedQuestions ++ (st.question?.map Question.settled).toList := by
  rw [← closedQuestions_closePage, closeBlock]
  by_cases h : (st.closePage.isImplicit && st.closePage.block.isVacant) = true
  · -- A vacant block has no pages and so no questions.
    have hempty : st.closePage.block.questions = [] := by
      simp only [Block.isVacant, Bool.and_eq_true, List.isEmpty_iff] at h
      simp [Block.questions, h.2.1.1]
    simp only [closedQuestions, h, if_true, hempty]
    simp [Block.questions]
  · simp only [closedQuestions, h]
    simp [Block.questions]

@[simp] theorem question?_closeBlock (st : State) : st.closeBlock.question? = none := by
  simp [closeBlock]

end Source.State

/-! ## Lines inside a question -/

/-- What a line may change of the question that it leaves open: the identifier
and the kind stay, and an option that was not there before has a value without
blanks around it. -/
structure Question.Becomes (old new : Question) : Prop where
  /-- The identifier stays. -/
  id : new.id = old.id
  /-- The kind stays. -/
  kind : new.kind = old.kind
  /-- Values are old or trimmed. -/
  values : ∀ c ∈ new.options, c.value ∈ old.options.map Choice.value ∨ Text.trim c.value = c.value

namespace Question.Becomes

/-- Nothing about the options or the kind is looked at but the body. -/
theorem of_body {old new : Question} (hid : new.id = old.id) (hbody : new.body = old.body) :
    old.Becomes new where
  id := hid
  kind := by
    show new.body.kind = old.body.kind
    rw [hbody]
  values := by
    intro c hc
    rw [options, hbody] at hc
    exact .inl (List.mem_map_of_mem hc)

theorem refl (question : Question) : question.Becomes question := of_body rfl rfl

theorem trans {first second third : Question} (h : first.Becomes second)
    (h' : second.Becomes third) : first.Becomes third where
  id := h'.id.trans h.id
  kind := h'.kind.trans h.kind
  values := by
    intro c hc
    rcases h'.values c hc with hold | hnew
    · obtain ⟨d, hd, hvalue⟩ := List.mem_map.mp hold
      exact hvalue ▸ h.values d hd
    · exact .inr hnew

/-- Changing the options and nothing else. -/
theorem mapOptions {question : Question} {change : List Choice → List Choice}
    (h : ∀ c ∈ change question.options,
      c.value ∈ question.options.map Choice.value ∨ Text.trim c.value = c.value) :
    question.Becomes { question with body := question.body.mapOptions change } where
  id := rfl
  kind := by
    show (question.body.mapOptions change).kind = question.body.kind
    cases question.body <;> rfl
  values := by
    intro c hc
    show c.value ∈ question.body.options.map Choice.value ∨ _
    simp only [options] at h hc
    cases hbody : question.body <;> simp only [hbody, Body.mapOptions, Body.options] at h hc ⊢
    case choice many options => exact h c hc
    case matrix rows options input => exact h c hc
    case breakdown options before after label column => exact h c hc
    all_goals exact .inl (List.mem_map_of_mem hc)

/-- Changing the rows and nothing else. -/
theorem mapRows {question : Question} {change : List Row → List Row} :
    question.Becomes { question with body := question.body.mapRows change } where
  id := rfl
  kind := by
    show (question.body.mapRows change).kind = question.body.kind
    cases question.body <;> rfl
  values := by
    intro c hc
    have hsame : (question.body.mapRows change).options = question.body.options := by
      cases question.body <;> rfl
    rw [options, hsame] at hc
    exact .inl (List.mem_map_of_mem hc)

/-- A new body of the same kind with the same options. -/
theorem withBody {question : Question} {body : Body} (hkind : body.kind = question.body.kind)
    (hoptions : body.options = question.body.options) :
    question.Becomes { question with body := body } where
  id := rfl
  kind := hkind
  values := by
    intro c hc
    rw [options, hoptions] at hc
    exact .inl (List.mem_map_of_mem hc)

end Question.Becomes

namespace Source.State

/-- The same question is open before and after, if any, and none is closed; no
fence is opened. -/
structure Keeps (st st' : State) : Prop where
  /-- No question is closed. -/
  closed : st'.closedQuestions = st.closedQuestions
  /-- The open question stays. -/
  stays : ∀ question, st.question? = some question →
    ∃ next, st'.question? = some next ∧ question.Becomes next
  /-- No question is opened. -/
  none : st.question? = none → st'.question? = none
  /-- No fence is opened. -/
  fence : st.isFenced = false → st'.isFenced = false

namespace Keeps

theorem of_eq {st st' : State} (hclosed : st'.closedQuestions = st.closedQuestions)
    (hopen : st'.question? = st.question?)
    (hfence : st.isFenced = false → st'.isFenced = false) : Keeps st st' where
  closed := hclosed
  stays := fun question h => ⟨question, hopen.trans h, .refl question⟩
  none := hopen.trans
  fence := hfence

theorem refl (st : State) : Keeps st st := of_eq rfl rfl id

theorem trans {first second third : State} (h : Keeps first second) (h' : Keeps second third) :
    Keeps first third where
  closed := h'.closed.trans h.closed
  stays := by
    intro question hq
    obtain ⟨next, hnext, hbecomes⟩ := h.stays question hq
    obtain ⟨last, hlast, hbecomes'⟩ := h'.stays next hnext
    exact ⟨last, hlast, hbecomes.trans hbecomes'⟩
  none := fun hq => h'.none (h.none hq)
  fence := fun hst => h'.fence (h.fence hst)

/-- The open question is changed and nothing else. -/
theorem mapQuestion {st : State} {change : Question → Question}
    (h : ∀ question, st.question? = some question → question.Becomes (change question)) :
    Keeps st (st.mapQuestion change) where
  closed := rfl
  stays := fun question hq => ⟨change question, by simp [State.mapQuestion, hq], h question hq⟩
  none := fun hq => by simp [State.mapQuestion, hq]
  fence := id

/-- The last option is changed, but for its value. -/
theorem mapOption {st : State} {change : Choice → Choice}
    (h : ∀ choice, (change choice).value = choice.value) : Keeps st (st.mapOption change) := by
  refine Keeps.mapQuestion fun question _ => Question.Becomes.mapOptions fun c hc => .inl ?_
  rw [changeLast] at hc
  split at hc
  · exact List.mem_map_of_mem hc
  · rename_i last hlast
    rcases List.mem_append.mp hc with hc | hc
    · exact List.mem_map_of_mem ((List.dropLast_sublist _).subset hc)
    · rw [List.mem_singleton.mp hc, h]
      exact List.mem_map_of_mem (List.mem_of_getLast? hlast)

theorem mapRow {st : State} (change : Row → Row) : Keeps st (st.mapRow change) :=
  Keeps.mapQuestion fun _ _ => Question.Becomes.mapRows

theorem addOptions {st : State} {options : List Choice}
    (h : ∀ c ∈ options, Text.trim c.value = c.value) : Keeps st (st.addOptions options) := by
  refine Keeps.trans (Keeps.mapQuestion fun question _ => Question.Becomes.mapOptions ?_)
    (Keeps.of_eq rfl rfl id)
  intro c hc
  rcases List.mem_append.mp hc with hc | hc
  · exact .inl (List.mem_map_of_mem hc)
  · exact .inr (h c hc)

theorem warn (line : Nat) (cause : Cause) (st : State) : Keeps st (st.warn line cause) :=
  Keeps.of_eq rfl rfl id

theorem ensurePage (st : State) : Keeps st st.ensurePage :=
  Keeps.of_eq (closedQuestions_ensurePage st) rfl id

theorem closeText (st : State) : Keeps st st.closeText :=
  Keeps.of_eq (closedQuestions_closeText st) (question?_closeText st)
    (isFenced_closeText st).trans

/-- **An attribute that is set leaves all questions what they are.** -/
theorem write (holder : Holder) (aspect : Aspect) (value : Text) (st : State) :
    Keeps st (st.write holder aspect value) := by
  -- An attribute of a container is none of what stands in it.
  have hpage : ∀ change : Page → Page, (∀ page, (change page).sections = page.sections) →
      Keeps st { st with page? := st.page?.map change } := by
    intro change h
    refine Keeps.of_eq ?_ rfl id
    cases hp : st.page? <;> simp [closedQuestions, hp, Page.questions, h]
  have hpart : ∀ change : Section → Section, (∀ part, (change part).items = part.items) →
      Keeps st { st with part? := st.part?.map change } := by
    intro change h
    refine Keeps.of_eq ?_ rfl id
    cases hp : st.part? <;> simp [closedQuestions, hp, Section.questions, h]
  have hquestion : ∀ change : Question → Question, (∀ q, (change q).id = q.id) →
      (∀ q, (change q).body = q.body) → Keeps st (st.mapQuestion change) :=
    fun change hid hbody =>
      Keeps.mapQuestion fun q _ => Question.Becomes.of_body (hid q) (hbody q)
  cases holder with
  | block => cases aspect <;> exact Keeps.of_eq rfl rfl id
  | page =>
      cases aspect
      · exact hpage _ fun _ => rfl
      · exact Keeps.refl st
      · exact hpage _ fun _ => rfl
  | heading =>
      cases aspect
      · exact hpart _ fun _ => rfl
      · exact Keeps.refl st
      · exact hpart _ fun _ => rfl
  | question => cases aspect <;> exact hquestion _ (fun _ => rfl) fun _ => rfl
  | option => cases aspect <;> exact Keeps.mapOption fun _ => rfl
  | row => cases aspect <;> exact Keeps.mapRow _

theorem assign (holder : Holder) (aspect : Aspect) (line : Nat) (value : Text) (st : State) :
    Keeps st (st.assign holder aspect line value) := by
  rw [State.assign]
  split
  · exact Keeps.write holder aspect value st
  · split
    · exact Keeps.write holder aspect _ st
    · exact Keeps.of_eq rfl rfl id

theorem endCapture (capture : Capture) (st : State) : Keeps st (st.endCapture capture) :=
  (Keeps.write capture.holder capture.aspect capture.value st).trans (Keeps.of_eq rfl rfl id)

theorem readQuoted (capture : Capture) (raw : Text) (st : State) :
    Keeps st (st.readQuoted capture raw) := by
  rw [State.readQuoted]
  split
  · exact Keeps.endCapture _ st
  · exact Keeps.of_eq rfl rfl id

end Keeps

end Source.State
end Questionnaire
