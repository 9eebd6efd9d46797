import Mathlib.Data.List.TakeWhile
import Questionnaire.Proofs.Source.Navigation
import Questionnaire.Proofs.Source.Opaque
import Questionnaire.Proofs.Source.Outline
import Questionnaire.Proofs.Source.Standing

/-!
# Where conditions and tooltips belong

Outside questions a condition belongs to the section with a title, the page or the
block, and a tooltip to a section or the page. Which of them is open is a matter of
the lines read since the last marker, text that is still pending included
(`Situated.read`), and what is written goes there wherever pending text leaves the
choice open no longer (`attaches_of_steps`).
-/

namespace Questionnaire.Source

open Text

/-! ## Lines since the last marker -/

/-- Whether the line is a marker in a block or an attribute of pages, so that a page is open
behind it. -/
def LineKind.standsInPage : LineKind → Bool
  | .page => true
  | .heading => true
  | .tooltip => true
  | .navigation .. => true
  | _ => false

namespace Step

/-- What the line of the step is, unless it is fenced or quoted. -/
def kind? (step : Step) : Option LineKind := (step.before.lineOf? step.raw).map Line.kind

/-- Whether the line is text outside quotes, fenced or not, and not blank. -/
def isText (step : Step) : Bool :=
  step.before.capture?.isNone && step.kind?.all (· = .text) && !isBlankText step.raw

/-- Whether the line is text or begins a question. -/
def fills (step : Step) : Bool := step.isText || step.kind? = some .question

/-- Whether the line is one that stands in a page. -/
def opensPage (step : Step) : Bool := step.fills || step.kind?.any LineKind.standsInPage

/-- Whether the line begins a block. -/
def marksBlock (step : Step) : Bool := step.kind? = some .block

/-- Whether the line begins a page, be it with a block. -/
def marksPage (step : Step) : Bool := step.kind? = some .page || step.marksBlock

/-- Whether the line begins a section. -/
def marksSection (step : Step) : Bool := step.kind? = some .heading

end Step

/-- The steps since the last block began. -/
def sinceBlock (past : List Step) : List Step := behindLast Step.marksBlock past

/-- The steps since the last page or block began. -/
def sincePage (past : List Step) : List Step := behindLast Step.marksPage past

/-- What a condition belongs to outside questions, by the lines before it. -/
def placeOfShowIf (past : List Step) : Holder :=
  if (sincePage past).any Step.marksSection then .heading
  else if (sinceBlock past).any Step.opensPage then .page
  else .block

/-- What a tooltip belongs to outside questions, by the lines before it. -/
def placeOfTooltip (past : List Step) : Holder :=
  if (sincePage past).any Step.marksSection || (sincePage past).any Step.fills then .heading
  else .page

namespace State

/-! ## Containers that are open or come with pending text -/

/-- Whether a page is open, or comes with pending text. -/
def inPage (st : State) : Bool := st.page?.isSome || !st.pending.isEmpty

/-- Whether a section is open, or comes with pending text. -/
def inPart (st : State) : Bool := st.part?.isSome || !st.pending.isEmpty

/-- Whether the open section has a title. -/
def hasTitle (st : State) : Bool := (st.part?.bind Section.title).isSome

/-- The same containers are open. -/
structure SamePlaces (st st' : State) : Prop where
  page : st'.page?.isSome = st.page?.isSome
  part : st'.part?.map Section.title = st.part?.map Section.title
  pending : st'.pending.isEmpty = st.pending.isEmpty

namespace SamePlaces

variable {st st' : State}

theorem refl (st : State) : SamePlaces st st := ⟨rfl, rfl, rfl⟩

theorem of_containers (h : SameContainers st st') (hpending : st'.pending = st.pending) :
    SamePlaces st st' where
  page := by simpa using congrArg Option.isSome h.page
  part := by
    have hbare := congrArg (Option.map Section.title) h.part
    rw [Option.map_map, Option.map_map] at hbare
    exact hbare
  pending := by rw [hpending]

theorem isSome_part? (h : SamePlaces st st') : st'.part?.isSome = st.part?.isSome := by
  simpa using congrArg Option.isSome h.part

theorem inPage (h : SamePlaces st st') : st'.inPage = st.inPage := by
  rw [State.inPage, h.page, h.pending, State.inPage]

theorem inPart (h : SamePlaces st st') : st'.inPart = st.inPart := by
  rw [State.inPart, h.isSome_part?, h.pending, State.inPart]

theorem hasTitle (h : SamePlaces st st') : st'.hasTitle = st.hasTitle := by
  have hpart := h.part
  rw [State.hasTitle, State.hasTitle]
  cases hold : st.part? <;> cases hnew : st'.part? <;> simp_all

end SamePlaces

/-! ## Closing questions and text -/

theorem samePlaces_closeQuestion {st : State}
    (hpart : st.question?.isSome = true → st.part?.isSome = true)
    (hpage : st.page? = none → st.part? = none) : SamePlaces st st.closeQuestion := by
  cases hquestion : st.question? with
  | none =>
      rw [closeQuestion, hquestion]
      exact .refl st
  | some question =>
      rw [hquestion] at hpart
      obtain ⟨part, hopen⟩ := Option.isSome_iff_exists.mp (hpart rfl)
      have hsome : st.page?.isSome = true := by
        cases hnone : st.page? with
        | none =>
            rw [hpage hnone] at hopen
            cases hopen
        | some page => rfl
      rw [closeQuestion_of_some hquestion]
      exact ⟨hsome.symm, by simp [addItem, hopen], rfl⟩

/-- Where a line is not blank something is left once the lines are trimmed. -/
theorem trimLines_ne_nil {first : Text} (rest : List Text) (h : isBlankText first = false) :
    trimLines (first :: rest) ≠ [] := by
  intro hnil
  rw [trimLines, List.reverse_eq_nil_iff, List.dropWhile_eq_nil_iff] at hnil
  have hfirst : first ∈ ((first :: rest).dropWhile isBlankText).reverse := by
    rw [List.dropWhile_cons_of_neg (by simp [h])]
    simp
  exact Bool.false_ne_true (h.symm.trans (hnil first hfirst))

/-- What pending text would open is open once it is closed. -/
structure Closes (st st' : State) : Prop where
  page : st'.page?.isSome = st.inPage
  part : st'.part?.isSome = st.inPart
  hasTitle : st'.hasTitle = st.hasTitle
  pending : st'.pending = []

theorem closes_closeText {st : State}
    (hpending : ∀ first, st.pending.head? = some first → isBlankText first = false) :
    Closes st st.closeText := by
  cases hlines : st.pending with
  | nil =>
      have hsame : st.closeText = { st with pending := [] } := by simp [closeText, hlines, trimLines]
      rw [hsame]
      exact ⟨by simp [inPage, hlines], by simp [inPart, hlines], rfl, rfl⟩
  | cons first rest =>
      have hsome := trimLines_ne_nil rest (hpending first (by rw [hlines]; rfl))
      have hsame : st.closeText
          = { st.addItem (.text (join ['\n'] (trimLines (first :: rest)))) with pending := [] } := by
        rw [closeText, hlines]
        split
        · contradiction
        · rfl
      rw [hsame]
      refine ⟨by simp [inPage, hlines, addItem, ensurePage], by simp [inPart, hlines, addItem], ?_,
        rfl⟩
      cases hpart : st.part? <;> simp [State.hasTitle, addItem, hpart]

/-! ## Every line -/

/-- **What is open is what the lines since the last markers opened**; the three truth values
say whether a line that stands in a page, a section marker, and text or a question were among
them. -/
structure Situated (st : State) (page titled filled : Bool) : Prop where
  inPage : st.inPage = page
  hasTitle : st.hasTitle = titled
  inPart : titled = false → st.inPart = filled
  /-- A question stands in a section. -/
  asked : st.question?.isSome = true → st.part?.isSome = true
  /-- Pending text begins with a line that is not blank. -/
  text : ∀ first, st.pending.head? = some first → isBlankText first = false
  /-- A fence that is open is pending text. -/
  fenced : st.isFenced = true → st.pending ≠ []

namespace Situated

variable {st st' : State} {page titled filled : Bool}

theorem empty : Situated {} false false false :=
  ⟨rfl, rfl, fun _ => rfl, fun h => (by cases h), fun _ h => (by cases h), fun h => (by cases h)⟩

theorem same (h : Situated st page titled filled) (hsame : SamePlaces st st')
    (hpending : st'.pending = st.pending) (hquestion : st'.question?.isSome = st.question?.isSome)
    (hfenced : st'.isFenced = st.isFenced) : Situated st' page titled filled where
  inPage := hsame.inPage.trans h.inPage
  hasTitle := hsame.hasTitle.trans h.hasTitle
  inPart := fun hnone => hsame.inPart.trans (h.inPart hnone)
  asked := by rw [hquestion, hsame.isSome_part?]; exact h.asked
  text := by rw [hpending]; exact h.text
  fenced := by rw [hpending, hfenced]; exact h.fenced

theorem settle (h : Situated st page titled filled) (hinside : st.page? = none → st.part? = none) :
    Closes st st.closeQuestion.closeText := by
  have hclose := samePlaces_closeQuestion h.asked hinside
  have hpending : st.closeQuestion.pending = st.pending :=
    (congrArg Content.pending (content_closeQuestion st)).trans (Content.pending_closeQuestion _)
  have htext : Closes st.closeQuestion st.closeQuestion.closeText :=
    closes_closeText (by rw [hpending]; exact h.text)
  exact ⟨htext.page.trans hclose.inPage, htext.part.trans hclose.inPart,
    htext.hasTitle.trans hclose.hasTitle, htext.pending⟩

/-- Something that only matters where a page and a section come anyway. -/
theorem or (h : Situated st page titled filled) (more : Bool)
    (hmore : more = true → st.inPage = true ∧ st.inPart = true) :
    Situated st (page || more) titled (filled || more) := by
  cases more with
  | false => simpa using h
  | true =>
      obtain ⟨hpage, hpart⟩ := hmore rfl
      exact ⟨by simpa using hpage, h.hasTitle, fun _ => by simpa using hpart, h.asked, h.text,
        h.fenced⟩

/-- Where a question is open a section and a page are. -/
theorem of_question (h : Situated st page titled filled) (hinside : st.page? = none → st.part? = none)
    (hquestion : st.question?.isSome = true) : st.inPage = true ∧ st.inPart = true := by
  have hpart := h.asked hquestion
  have hpage : st.page?.isSome = true := by
    cases hnone : st.page? with
    | none => simp [hinside hnone] at hpart
    | some page => rfl
  exact ⟨by simp [State.inPage, hpage], by simp [State.inPart, hpart]⟩

/-- Where text is pending a section and a page come. -/
theorem of_pending (hpending : st.pending ≠ []) : st.inPage = true ∧ st.inPart = true := by
  simp [State.inPage, State.inPart, hpending]

/-! ### Text -/

theorem readText (h : Situated st page titled filled) (hinside : st.page? = none → st.part? = none)
    (raw : Text) (hraw : isBlankText raw = true → st.pending ≠ []) (isFenced : Bool) :
    Situated ({ st with isFenced }.readText raw) (page || !isBlankText raw) titled
      (filled || !isBlankText raw) := by
  rw [State.readText]
  split
  · rename_i hopen
    simp only [Bool.and_eq_true, Bool.not_eq_true'] at hopen
    have hmore := h.or (!isBlankText raw) fun _ => h.of_question hinside hopen.1.1
    refine ⟨hmore.inPage, hmore.hasTitle, hmore.inPart, fun _ => h.asked hopen.1.1, hmore.text,
      fun hfenced => ?_⟩
    exact absurd (hopen.2.symm.trans hfenced) Bool.false_ne_true
  · have hclose : SamePlaces { st with isFenced } ({ st with isFenced } : State).closeQuestion :=
      samePlaces_closeQuestion h.asked hinside
    have hpending : ({ st with isFenced } : State).closeQuestion.pending = st.pending :=
      (congrArg Content.pending (content_closeQuestion _)).trans (Content.pending_closeQuestion _)
    -- A line that is blank stands behind one that is not.
    have hmore : ∀ {known : Bool}, (st.pending ≠ [] → known = true) →
        (known || !isBlankText raw) = true := by
      intro known hknown
      cases hblank : isBlankText raw with
      | false => simp
      | true => simp [hknown (hraw hblank)]
    refine ⟨?_, hclose.hasTitle.trans h.hasTitle, fun hnone => ?_, fun hsome => ?_,
      fun first hfirst => ?_, fun _ => by simp⟩
    · rw [hmore fun hsome => h.inPage.symm.trans (of_pending hsome).1]
      simp [State.inPage]
    · rw [hmore fun hsome => (h.inPart hnone).symm.trans (of_pending hsome).2]
      simp [State.inPart]
    · simp at hsome
    · simp only [hpending, List.head?_append] at hfirst
      cases hlines : st.pending with
      | nil =>
          rw [hlines] at hfirst
          obtain rfl : trimRight raw = first := by simpa using hfirst
          have hblank : isBlankText raw = false := by
            rw [← Bool.not_eq_true]
            exact fun hblank => hraw hblank hlines
          rw [isBlankText_trimRight, hblank]
      | cons other rest =>
          rw [hlines] at hfirst
          exact h.text first (by rw [hlines]; simpa using hfirst)

theorem readBlank (h : Situated st page titled filled) :
    Situated st.readBlank page titled filled := by
  rw [State.readBlank]
  split
  · rename_i hsome
    simp only [Bool.and_eq_true, Bool.not_eq_true', List.isEmpty_eq_false_iff] at hsome
    obtain ⟨first, rest, hlines⟩ := List.exists_cons_of_ne_nil hsome.2
    have hpage := (of_pending hsome.2).1
    have hpart := (of_pending hsome.2).2
    refine ⟨?_, h.hasTitle, fun hnone => ?_, h.asked, fun other hother => h.text other ?_,
      fun _ => by simp⟩
    · rw [← h.inPage, hpage]
      simp [State.inPage]
    · rw [← h.inPart hnone, hpart]
      simp [State.inPart]
    · rw [hlines] at hother ⊢
      exact hother
  · exact h

/-! ### Attributes -/

theorem write (h : Situated st page titled filled) (holder : Holder) (aspect : Aspect)
    (value : Text) : Situated (st.write holder aspect value) page titled filled := by
  have hpending := pending_write holder aspect value st
  exact h.same (.of_containers (.write holder aspect value st) hpending) hpending
    (by simp [question?_write]) (isFenced_write holder aspect value st)

theorem setCapture (h : Situated st page titled filled) (capture? : Option Capture) :
    Situated { st with capture? } page titled filled :=
  h.same ⟨rfl, rfl, rfl⟩ rfl rfl rfl

theorem assign (h : Situated st page titled filled) (holder : Holder) (aspect : Aspect)
    (line : Nat) (value : Text) :
    Situated (st.assign holder aspect line value) page titled filled := by
  rcases assign_cases holder aspect line value st with ⟨text, heq⟩ | ⟨capture, -, heq⟩
  · exact heq ▸ h.write holder aspect text
  · exact heq ▸ h.setCapture _

theorem readQuoted (h : Situated st page titled filled) (capture : Capture) (raw : Text) :
    Situated (st.readQuoted capture raw) page titled filled := by
  rw [State.readQuoted]
  split
  · exact (h.write _ _ _).setCapture none
  · exact h.setCapture _

/-! ### Lines that settle what is open -/

section

variable (h : Situated st page titled filled) (hinside : st.page? = none → st.part? = none)
  (hfenced : st.isFenced = false)
include h hinside hfenced

/-- What is open behind a question and text that are closed. -/
theorem settled : Situated st.closeQuestion.closeText page titled filled := by
  have hclose := h.settle hinside
  refine ⟨?_, hclose.hasTitle.trans h.hasTitle, fun hnone => ?_, fun hsome => by simp at hsome,
    fun first hfirst => ?_, fun hopen => ?_⟩
  · rw [State.inPage, hclose.page, hclose.pending, h.inPage]
    exact Bool.or_false page
  · rw [State.inPart, hclose.part, hclose.pending, h.inPart hnone]
    exact Bool.or_false filled
  · rw [hclose.pending] at hfirst
    cases hfirst
  · rw [isFenced_closeText, isFenced_closeQuestion, hfenced] at hopen
    cases hopen

theorem readQuestion (text : Text) (after : List Text) :
    Situated (st.readQuestion text after) true titled true := by
  have hsettled := h.settled hinside hfenced
  refine ⟨rfl, ?_, fun _ => rfl, fun _ => rfl, hsettled.text, hsettled.fenced⟩
  rw [← hsettled.hasTitle]
  show (Option.bind (some (st.closeQuestion.closeText.part?.getD {})) Section.title).isSome
    = (st.closeQuestion.closeText.part?.bind Section.title).isSome
  cases st.closeQuestion.closeText.part? <;> rfl

theorem readComputation (computed : Text × Text) :
    Situated (st.readComputation computed) page titled filled := by
  have hsettled := h.settled hinside hfenced
  rw [State.readComputation]
  generalize st.closeQuestion.closeText = settled at hsettled
  split
  · rename_i open' hopen
    exact hsettled.same ⟨by simp [hopen], rfl, rfl⟩ rfl rfl rfl
  · exact hsettled.same ⟨rfl, rfl, rfl⟩ rfl rfl rfl

theorem readHeading (title : Text) :
    Situated { st.closeSection.ensurePage with part? := some { title := some title } } true true
      filled := by
  have hsettled := h.settled hinside hfenced
  rw [ensurePage_closeSection]
  exact ⟨rfl, rfl, fun hnone => (by cases hnone), fun _ => rfl, hsettled.text,
    hsettled.fenced⟩

end

/-! ### Pages and blocks -/

theorem readPage (st : State) (hfenced : st.isFenced = false) (title : Text) :
    Situated { st.closePage with page? := some { title } } true false false := by
  have hcontent := content_closePage st
  have hpending : st.closePage.pending = [] := congrArg Content.pending hcontent
  have hturned : st.closePage.isFenced = st.isFenced :=
    (congrArg Content.isFenced hcontent).trans (Content.isFenced_closeQuestion _)
  refine ⟨rfl, by simp [State.hasTitle], fun _ => by simp [State.inPart, hpending], fun hsome => ?_,
    fun first hfirst => ?_, fun hopen => ?_⟩
  · simp at hsome
  · simp [hpending] at hfirst
  · cases hfenced.symm.trans (hturned.symm.trans hopen)

theorem readBlock (st : State) (hfenced : st.isFenced = false) (name : Text) :
    Situated { st.closeBlock with block := { name }, isImplicit := false } false false false := by
  have hcontent := content_closeBlock st
  have hpending : st.closeBlock.pending = [] := congrArg Content.pending hcontent
  have hturned : st.closeBlock.isFenced = st.isFenced :=
    (congrArg Content.isFenced hcontent).trans (Content.isFenced_closeQuestion _)
  have hpage : st.closeBlock.page? = none := page?_closePage st
  have hpart : st.closeBlock.part? = none := part?_closePage st
  refine ⟨by simp [State.inPage, hpage, hpending], by simp [State.hasTitle, hpart],
    fun _ => by simp [State.inPart, hpart, hpending], fun hsome => ?_, fun first hfirst => ?_,
    fun hopen => ?_⟩
  · simp [State.closeBlock] at hsome
  · simp [hpending] at hfirst
  · cases hfenced.symm.trans (hturned.symm.trans hopen)

/-! ### Lines that open a page -/

theorem ensurePage (h : Situated st page titled filled) :
    Situated st.ensurePage true titled filled :=
  ⟨rfl, h.hasTitle, h.inPart, h.asked, h.text, h.fenced⟩

theorem readLevel (h : Situated st page titled filled)
    (hlisted : st.isListed = true → st.page?.isSome = true) (level : Nat) :
    Situated (st.readLevel level) true titled filled := by
  rw [State.readLevel]
  split
  · rename_i hopen
    refine ⟨?_, h.hasTitle, h.inPart, h.asked, h.text, h.fenced⟩
    simp [State.inPage, hlisted hopen]
  · exact ⟨rfl, h.hasTitle, h.inPart, h.asked, h.text, h.fenced⟩

theorem readTooltip (h : Situated st page titled filled)
    (hinside : st.page? = none → st.part? = none) (hfenced : st.isFenced = false) (line : Nat)
    (value : Text) : Situated (st.readTooltip line value) true titled filled := by
  -- Where a section is open, or a question in it, a page is.
  have hpage : ∀ part, st.part? = some part → page = true := by
    intro part hpart
    rw [← h.inPage, State.inPage]
    cases hnone : st.page? with
    | none => simp [hinside hnone] at hpart
    | some page => rfl
  rw [State.readTooltip]
  split
  · rename_i hquestion
    obtain ⟨part, hpart⟩ := Option.isSome_iff_exists.mp (h.asked hquestion)
    exact hpage part hpart ▸ h.assign _ _ _ _
  · rename_i hquestion
    split
    · rename_i hcontent
      cases hpart : st.part? with
      | none => simp [sectionHasContent, hpart] at hcontent
      | some part =>
          have hnone : st.question? = none := by simpa using hquestion
          have hsame : st.closeQuestion = st := by simp [State.closeQuestion, hnone]
          have hsettled := h.settled hinside hfenced
          rw [hsame, hpage part hpart] at hsettled
          exact hsettled.assign _ _ _ _
    · exact h.ensurePage.assign _ _ _ _

end Situated

end State

/-! ## A run -/

namespace State

/-- Text that is classified is not blank. -/
theorem isBlankText_of_text {context : Context} {raw : Text} {line : Line}
    (h : classify context raw = .ok line) (hkind : line.kind = .text) : isBlankText raw = false := by
  rw [← Bool.not_eq_true]
  intro hblank
  simp only [classify, trim_of_isBlankText hblank, List.isEmpty_nil, if_true] at h
  cases h
  cases hkind

/-- What is open behind a step, by what its line is. -/
def SituatedBehind (step : Step) (page titled filled : Bool) (st : State) : Prop :=
  Situated st (!step.marksBlock && (page || step.opensPage))
    (!step.marksPage && (titled || step.marksSection)) (!step.marksPage && (filled || step.fills))

private theorem situatedBehind_readLine {step : Step} {page titled filled : Bool} {line : Line}
    (h : Situated step.before page titled filled) (hfurnished : Furnished step.before)
    (hnavigated : Navigated step.before) (hline : step.before.lineOf? step.raw = some line) :
    SituatedBehind step page titled filled
      (step.before.readLine step.number line step.raw step.behind) := by
  obtain ⟨hcapture, -, hfenced, hclassify⟩ := lineOf?_eq_some.mp hline
  have hline? : step.kind? = some line.kind := by rw [Step.kind?, hline, Option.map_some]
  have hquiet : Situated step.before.quiet page titled filled := h.same ⟨rfl, rfl, rfl⟩ rfl rfl rfl
  have hinside : step.before.quiet.page? = none → step.before.quiet.part? = none := hfurnished.inside
  -- Unless the line is text its kind says what it opens.
  have hof : ∀ {st : State} {kind : LineKind} {page' titled' filled' : Bool}, line.kind = kind →
      kind ≠ .text → Situated st page' titled' filled' →
      page' = (!decide (kind = .block) && (page || (decide (kind = .question) ||
        kind.standsInPage))) →
      titled' = (!(decide (kind = .page) || decide (kind = .block)) &&
        (titled || decide (kind = .heading))) →
      filled' = (!(decide (kind = .page) || decide (kind = .block)) &&
        (filled || decide (kind = .question))) →
      SituatedBehind step page titled filled st := by
    rintro st kind _ _ _ rfl htext hst rfl rfl rfl
    have hother : step.isText = false := by simp [Step.isText, hline?, htext]
    simpa [SituatedBehind, Step.marksBlock, Step.marksPage, Step.marksSection, Step.opensPage,
      Step.fills, hline?, hother] using hst
  cases hkind : line.kind with
  | text =>
      have hblank := isBlankText_of_text hclassify hkind
      have htext : step.isText = true := by simp [Step.isText, hcapture, hline?, hkind, hblank]
      have hread := h.readText hfurnished.inside step.raw (by simp [hblank]) step.before.isFenced
      simp only [readLine, hkind]
      simpa [SituatedBehind, Step.marksBlock, Step.marksPage, Step.marksSection, Step.opensPage,
        Step.fills, hline?, hkind, htext, hblank] using hread
  | blank =>
      simp only [readLine, hkind]
      exact hof hkind (by simp) hquiet.readBlank (by simp [LineKind.standsInPage]) (by simp) (by simp)
  | page =>
      simp only [readLine, hkind]
      exact hof hkind (by simp) (.readPage step.before.quiet hfenced line.value)
        (by simp [LineKind.standsInPage]) (by simp) (by simp)
  | block =>
      simp only [readLine, hkind]
      exact hof hkind (by simp) (.readBlock step.before.quiet hfenced line.value)
        (by simp) (by simp) (by simp)
  | heading =>
      simp only [readLine, hkind]
      exact hof hkind (by simp) (hquiet.readHeading hinside hfenced line.value)
        (by simp [LineKind.standsInPage]) (by simp) (by simp)
  | question =>
      simp only [readLine, hkind]
      exact hof hkind (by simp) (hquiet.readQuestion hinside hfenced line.value step.behind)
        (by simp) (by simp) (by simp)
  | navigation keyword level =>
      simp only [readLine, hkind]
      exact hof hkind (by simp)
        (hquiet.readLevel (fun hlisted => (hnavigated.listed hlisted).1) level)
        (by simp [LineKind.standsInPage]) (by simp) (by simp)
  | computation computed =>
      simp only [readLine, hkind]
      exact hof hkind (by simp) (hquiet.readComputation hinside hfenced computed)
        (by simp [LineKind.standsInPage]) (by simp) (by simp)
  | showIf =>
      simp only [readLine, hkind]
      exact hof hkind (by simp) (hquiet.assign _ _ _ _) (by simp [LineKind.standsInPage]) (by simp)
        (by simp)
  | tooltip =>
      simp only [readLine, hkind]
      exact hof hkind (by simp) (hquiet.readTooltip hinside hfenced step.number line.value)
        (by simp [LineKind.standsInPage]) (by simp) (by simp)
  | _ =>
      simp only [readLine, hkind]
      refine hof hkind (by simp) (?_ : Situated _ page titled filled)
        (by simp [LineKind.standsInPage]) (by simp) (by simp)
      split
      · exact hquiet
      · rename_i question hfound
        have hquestion : step.before.quiet.question? = some question := hfound
        have haffects : Affects step.number line question step.before.quiet
            (step.before.quiet.readInside step.number line question) :=
          Affects.readInside hquestion hcapture (isProper_of_classify hclassify)
        obtain ⟨next, selection?, capture?, cause?, -, heffect⟩ := haffects
        show Situated (step.before.quiet.readInside step.number line question) page titled filled
        rw [heffect]
        exact hquiet.same ⟨rfl, rfl, rfl⟩ rfl (by rw [hquestion]; rfl) rfl

/-- **Every line that is read opens what it is said to open.** -/
theorem Situated.read {step : Step} {page titled filled : Bool}
    (h : Situated step.before page titled filled) (hfurnished : Furnished step.before)
    (hnavigated : Navigated step.before)
    (hread : step.before.read step.number step.raw step.behind = .ok step.after) :
    SituatedBehind step page titled filled step.after := by
  cases hcapture : step.before.capture? with
  | some capture =>
      rw [read_of_capture _ hcapture] at hread
      have hkind : step.kind? = none := by simp [Step.kind?, lineOf?, hcapture]
      have hquoted := h.readQuoted capture step.raw
      rw [Except.ok.inj hread] at hquoted
      simpa [SituatedBehind, Step.marksBlock, Step.marksPage, Step.marksSection, Step.opensPage,
        Step.fills, Step.isText, hkind, hcapture] using hquoted
  | none =>
      -- A fenced line is text.
      have hof : ∀ {isFenced : Bool}, step.kind? = none →
          (isBlankText step.raw = true → step.before.pending ≠ []) →
          ({ step.before with isFenced }.readText step.raw) = step.after →
          SituatedBehind step page titled filled step.after := by
        intro isFenced hkind hraw hafter
        have htext := h.readText hfurnished.inside step.raw hraw isFenced
        rw [hafter] at htext
        simpa [SituatedBehind, Step.marksBlock, Step.marksPage, Step.marksSection, Step.opensPage,
          Step.fills, Step.isText, hkind, hcapture] using htext
      by_cases hfence : hasStart fence (trim step.raw) = true
      · rw [read_of_fence hcapture hfence] at hread
        refine hof (by simp [Step.kind?, lineOf?, hfence]) (fun hblank => ?_) (Except.ok.inj hread)
        rw [trim_of_isBlankText hblank] at hfence
        cases hfence
      · rw [Bool.not_eq_true] at hfence
        cases hfenced : step.before.isFenced with
        | true =>
            rw [read_of_isFenced hcapture hfence hfenced] at hread
            exact hof (by simp [Step.kind?, lineOf?, hfenced]) (fun _ => h.fenced hfenced)
              (Except.ok.inj hread)
        | false =>
            rw [read_of_classify hcapture hfence hfenced] at hread
            obtain ⟨line, hclassify, hafter⟩ := Except.map_eq_ok hread
            rw [hafter]
            exact situatedBehind_readLine h hfurnished hnavigated
              (lineOf?_eq_some.mpr ⟨hcapture, hfence, hfenced, hclassify⟩)

/-- What is known of a state behind the steps of a run. -/
structure Reached (past : List Step) (st : State) : Prop where
  furnished : Furnished st
  navigated : Navigated st
  situated : Situated st ((sinceBlock past).any Step.opensPage)
    ((sincePage past).any Step.marksSection) ((sincePage past).any Step.fills)

theorem Reached.of_steps {lines : List Text} {past later : List Step} {step : Step}
    (hsteps : steps 0 {} lines = past ++ step :: later) : Reached past step.before := by
  have hrun := steps_invariant (P := fun past st _ => Reached past st) ?_ [] ?_ hsteps
  · exact hrun.1
  · intro past step h hread
    refine ⟨h.furnished.read hread, h.navigated.read hread, ?_⟩
    rw [sinceBlock, sincePage, any_behindLast_concat, any_behindLast_concat, any_behindLast_concat]
    exact h.situated.read h.furnished h.navigated hread
  · exact ⟨.empty, .empty, .empty⟩

/-! ## Conditions and tooltips -/

/-- Whether what an attribute is written to is open; a block always is. -/
def IsOpen (holder : Holder) (st : State) : Prop :=
  match holder with
  | .block => True
  | .page => st.page?.isSome = true
  | .heading => st.part?.isSome = true
  | .question => st.question?.isSome = true
  | .option => st.selection? = some .option
  | .row => st.selection? = some .row

end State

namespace Step

/-- The state in which the step writes: the one before it, but for the text of a question that is at
its end, text that a section takes before its tooltip, and a page that is opened for a tooltip. -/
def ready (step : Step) (holder : Holder) (aspect : Aspect) : State :=
  match holder, aspect with
  | .heading, .tooltip => step.before.quiet.closeText
  | .page, .tooltip => step.before.quiet.ensurePage
  | _, _ => step.before.quiet

/-- **The step gives an attribute to an open container and does nothing else**: the value is
written at once, or with the line that closes its quotes. -/
structure Attaches (step : Step) (holder : Holder) (aspect : Aspect) (value : Text) : Prop where
  /-- The container is open. -/
  isOpen : (step.ready holder aspect).IsOpen holder
  /-- Its attribute is written, or quotes are opened for it. -/
  after : step.after = (step.ready holder aspect).assign holder aspect step.number value
  /-- The line that closes such quotes writes what they hold, and the lines in them do nothing. -/
  closed : ∀ {capture : Capture} {inside : List Text} {closing : Text} {rest : List Text},
    step.after.capture? = some capture → step.behind = inside ++ closing :: rest →
    (∀ line ∈ inside, hasEnd quotes (trim line) = false) → hasEnd quotes (trim closing) = true →
    State.readAll step.number step.after step.behind
      = State.readAll (step.number + inside.length + 1)
          ((step.ready holder aspect).write holder aspect (capture.closedBy inside closing).value)
          rest

theorem capture?_ready (step : Step) (holder : Holder) (aspect : Aspect) :
    (step.ready holder aspect).capture? = step.before.capture? := by
  cases holder <;> cases aspect <;> first | rfl | exact State.capture?_closeText _

theorem ready_showIf (step : Step) (holder : Holder) :
    step.ready holder .showIf = step.before.quiet := by
  cases holder <;> rfl

/-- What becomes of quotes that are opened follows from their opening. -/
theorem Attaches.of_assign {step : Step} {holder : Holder} {aspect : Aspect} {value : Text}
    (hnone : step.before.capture? = none) (hopen : (step.ready holder aspect).IsOpen holder)
    (hafter : step.after = (step.ready holder aspect).assign holder aspect step.number value) :
    step.Attaches holder aspect value := by
  refine ⟨hopen, hafter, fun hcapture hbehind hinside hclosing => ?_⟩
  have hready := (step.capture?_ready holder aspect).trans hnone
  rw [hafter] at hcapture
  obtain ⟨hholder, haspect, heq⟩ := State.of_capture?_assign hready hcapture
  rw [hbehind, hafter, heq, readAll_quoted hinside hclosing rfl, State.endCapture_of_capture,
    State.endCapture_of_none hready, ← hholder, ← haspect]
  rfl

end Step

namespace State

/-- Outside questions a section without anything in it is not open. -/
theorem sectionHasContent_eq {st : State} (h : Furnished st) (hquestion : st.question? = none) :
    st.sectionHasContent = st.part?.isSome := by
  rw [sectionHasContent]
  cases hpart : st.part? with
  | none => rfl
  | some part =>
      rcases h.part part hpart with hfurnished | hopen
      · cases htitle : part.title with
        | some title => simp [htitle]
        | none => simp [hfurnished htitle]
      · simp [hquestion] at hopen

/-- A condition belongs to something that is open. -/
theorem isOpen_showIfHolder {st : State} (hquestion : st.question? = none) :
    st.IsOpen st.showIfHolder := by
  rw [showIfHolder, if_neg (by simp [hquestion])]
  split
  · rename_i htitle
    cases hpart : st.part? with
    | none => simp [hpart] at htitle
    | some part => exact congrArg Option.isSome hpart
  · split
    · rename_i hpage
      exact hpage
    · trivial

namespace Reached

variable {past : List Step} {st : State}

/-- The page that is open, unless pending text would open it. -/
theorem isSome_page? (h : Reached past st) (hpending : st.pending = [] ∨ st.page?.isSome = true) :
    st.page?.isSome = (sinceBlock past).any Step.opensPage := by
  rw [← h.situated.inPage, inPage]
  rcases hpending with hnil | hopen
  · simp [hnil]
  · simp [hopen]

/-- The section that is open, unless pending text would open it. -/
theorem isSome_part? (h : Reached past st) (hpending : st.pending = [] ∨ st.part?.isSome = true) :
    st.part?.isSome
      = ((sincePage past).any Step.marksSection || (sincePage past).any Step.fills) := by
  have hpart : st.inPart = st.part?.isSome := by
    rw [inPart]
    rcases hpending with hnil | hopen
    · simp [hnil]
    · simp [hopen]
  cases htitled : (sincePage past).any Step.marksSection with
  | false => rw [Bool.false_or, ← h.situated.inPart htitled, hpart]
  | true =>
      have htitle := h.situated.hasTitle.trans htitled
      rw [hasTitle] at htitle
      cases hopen : st.part? with
      | none => simp [hopen] at htitle
      | some part => simp

/-- A condition goes where the lines say. -/
theorem showIfHolder_eq (h : Reached past st) (hquestion : st.question? = none)
    (hpending : st.pending = [] ∨ st.page?.isSome = true) :
    st.showIfHolder = placeOfShowIf past := by
  rw [showIfHolder, if_neg (by simp [hquestion]), placeOfShowIf, ← h.isSome_page? hpending,
    ← h.situated.hasTitle]
  rfl

/-- And so does a tooltip. -/
theorem tooltipHolder_eq (h : Reached past st) (hquestion : st.question? = none)
    (hpending : st.pending = [] ∨ st.part?.isSome = true) :
    st.tooltipHolder = placeOfTooltip past := by
  rw [tooltipHolder, if_neg (by simp [hquestion]), sectionHasContent_eq h.furnished hquestion,
    placeOfTooltip, h.isSome_part? hpending]

end Reached
end State

/-! ### One line -/

namespace Step

variable {step : Step} {line : Line}

/-- What a condition belongs to gets it. -/
theorem attaches_showIf
    (hread : step.before.read step.number step.raw step.behind = .ok step.after)
    (hquestion : step.before.question? = none) (hline : step.before.lineOf? step.raw = some line)
    (hkind : line.kind = .showIf) :
    step.Attaches step.before.showIfHolder .showIf line.value := by
  have hafter := Except.ok.inj
    (hread.symm.trans (State.read_of_lineOf? hline step.number step.behind))
  simp only [State.readLine, hkind] at hafter
  have hready := step.ready_showIf step.before.showIfHolder
  refine .of_assign (State.lineOf?_eq_some.mp hline).1 ?_ ?_
  · rw [hready]
    exact State.isOpen_showIfHolder hquestion
  · rw [hready]
    exact hafter

/-- What a tooltip belongs to gets it. -/
theorem attaches_tooltip
    (hread : step.before.read step.number step.raw step.behind = .ok step.after)
    (hquestion : step.before.question? = none) (hline : step.before.lineOf? step.raw = some line)
    (hkind : line.kind = .tooltip) :
    step.Attaches step.before.tooltipHolder .tooltip line.value := by
  have hnone := (State.lineOf?_eq_some.mp hline).1
  have hafter := Except.ok.inj
    (hread.symm.trans (State.read_of_lineOf? hline step.number step.behind))
  simp only [State.readLine, hkind] at hafter
  change step.after = step.before.quiet.readTooltip step.number line.value at hafter
  rw [State.readTooltip, if_neg (by simp [hquestion])] at hafter
  rw [State.tooltipHolder, if_neg (by simp [hquestion])]
  by_cases hcontent : step.before.sectionHasContent = true
  · have hquiet : step.before.quiet.sectionHasContent = true := hcontent
    rw [if_pos hquiet] at hafter
    rw [if_pos hcontent]
    exact .of_assign hnone (State.isSome_part?_closeText hquiet) hafter
  · have hquiet : ¬step.before.quiet.sectionHasContent = true := hcontent
    rw [if_neg hquiet] at hafter
    rw [if_neg hcontent]
    exact .of_assign hnone rfl hafter

end Step

/-- **A condition or a tooltip belongs to what the lines before it opened**, outside questions:
to the section if it has a title; else a condition belongs to the page if any line since the
block began stands in one, and to the block if none does, and a tooltip belongs to the section
if there was text or a question since the page began, and to the page otherwise. This needs
that the text, if some is pending, is not what would open the page or the section. -/
theorem attaches_of_steps {lines : List Text} {past later : List Step} {step : Step} {line : Line}
    (hsteps : steps 0 {} lines = past ++ step :: later) (hquestion : step.before.question? = none)
    (hline : step.before.lineOf? step.raw = some line) :
    (line.kind = .showIf → (step.before.pending = [] ∨ step.before.page?.isSome = true) →
      step.Attaches (placeOfShowIf past) .showIf line.value) ∧
    (line.kind = .tooltip → (step.before.pending = [] ∨ step.before.part?.isSome = true) →
      step.Attaches (placeOfTooltip past) .tooltip line.value) := by
  have hreached := State.Reached.of_steps hsteps
  have hread := read_of_steps hsteps
  constructor
  · intro hkind hpending
    rw [← hreached.showIfHolder_eq hquestion hpending]
    exact Step.attaches_showIf hread hquestion hline hkind
  · intro hkind hpending
    rw [← hreached.tooltipHolder_eq hquestion hpending]
    exact Step.attaches_tooltip hread hquestion hline hkind

/-- **What is still pending is overlooked**: where pending text would open the page a condition
goes to the block, and where it would open the section a tooltip goes to the page. -/
theorem strays_of_steps {lines : List Text} {past later : List Step} {step : Step} {line : Line}
    (hsteps : steps 0 {} lines = past ++ step :: later) (hquestion : step.before.question? = none)
    (hline : step.before.lineOf? step.raw = some line) (hpending : step.before.pending ≠ []) :
    (line.kind = .showIf → step.before.page? = none →
      placeOfShowIf past = .page ∧ step.Attaches .block .showIf line.value) ∧
    (line.kind = .tooltip → step.before.part? = none →
      placeOfTooltip past = .heading ∧ step.Attaches .page .tooltip line.value) := by
  have hreached := State.Reached.of_steps hsteps
  have hread := read_of_steps hsteps
  -- Without a section none with a title was opened.
  have htitled : step.before.part? = none → (sincePage past).any Step.marksSection = false := by
    intro hnone
    rw [← hreached.situated.hasTitle, State.hasTitle, hnone]
    rfl
  constructor
  · intro hkind hpage
    have hpart := hreached.furnished.inside hpage
    have hopen : (sinceBlock past).any Step.opensPage = true :=
      hreached.situated.inPage.symm.trans (State.Situated.of_pending hpending).1
    have hholder : step.before.showIfHolder = .block := by
      simp [State.showIfHolder, hquestion, hpart, hpage]
    refine ⟨by rw [placeOfShowIf, htitled hpart, hopen]; rfl, ?_⟩
    rw [← hholder]
    exact Step.attaches_showIf hread hquestion hline hkind
  · intro hkind hpart
    have hfilled : (sincePage past).any Step.fills = true :=
      (hreached.situated.inPart (htitled hpart)).symm.trans (State.Situated.of_pending hpending).2
    have hholder : step.before.tooltipHolder = .page := by
      simp [State.tooltipHolder, State.sectionHasContent, hquestion, hpart]
    refine ⟨by rw [placeOfTooltip, hfilled, Bool.or_true]; rfl, ?_⟩
    rw [← hholder]
    exact Step.attaches_tooltip hread hquestion hline hkind

/-- A page with a condition behind its text, and a section with a tooltip. -/
def placesSource : Text := "# Home\nHello\nSHOW_IF: a\n## Garden\nTOOLTIP: b".toList

/-- The steps over `placesSource`. -/
def placesSteps : List Step := steps 0 {} (sourceLines placesSource)

/-- The step that reads the condition. -/
def conditionStep : Step := placesSteps.get ⟨2, by decide +kernel⟩

/-- The step that reads the tooltip. -/
def tooltipStep : Step := placesSteps.get ⟨4, by decide +kernel⟩

theorem attaches_of_steps_places : conditionStep.Attaches .page .showIf ['a'] ∧
    tooltipStep.Attaches .heading .tooltip ['b'] := by
  have hcondition : conditionStep.Attaches (placeOfShowIf (placesSteps.take 2)) .showIf ['a'] :=
    (attaches_of_steps (split_steps placesSteps ⟨2, by decide +kernel⟩)
      (show conditionStep.before.question? = none by decide +kernel)
      (show conditionStep.before.lineOf? conditionStep.raw = some ⟨.showIf, ['a']⟩ by
        decide +kernel)).1 rfl (.inr (by decide +kernel))
  have htooltip : tooltipStep.Attaches (placeOfTooltip (placesSteps.take 4)) .tooltip ['b'] :=
    (attaches_of_steps (split_steps placesSteps ⟨4, by decide +kernel⟩)
      (show tooltipStep.before.question? = none by decide +kernel)
      (show tooltipStep.before.lineOf? tooltipStep.raw = some ⟨.tooltip, ['b']⟩ by
        decide +kernel)).2 rfl (.inr (by decide +kernel))
  have hplace : placeOfShowIf (placesSteps.take 2) = .page := by decide +kernel
  have hplace' : placeOfTooltip (placesSteps.take 4) = .heading := by decide +kernel
  exact ⟨hplace ▸ hcondition, hplace' ▸ htooltip⟩

end Questionnaire.Source
