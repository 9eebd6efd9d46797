import Questionnaire.Proofs.Source.Effect

/-!
# What any line does to the content

A line goes into quotes, is text of the question or behind it, settles what is
open, begins a question, or has an effect inside one (`Takes`). Every line that
is read does one of these (`read_takes`), and so what a line preserves is proved
by looking at these cases.
-/

namespace Questionnaire.Source

open Text Decimal

/-! ## Ranges -/

theorem le_of_rangeOf {value : Text} {ends : Int × Int} (h : rangeOf value = .ok ends) :
    ends.1 ≤ ends.2 := by
  rw [rangeOf] at h
  split at h
  · cases h
  · split at h
    · cases h
    · split at h
      · cases h
      · cases h
        omega

/-- **The ends of a range that is read are in order**, and a column that is read has its
number. -/
theorem isProper_of_classify {context : Context} {raw : Text} {line : Line}
    (h : classify context raw = .ok line) : line.kind.IsProper := by
  have hvalued := classify_valued context raw
  generalize classify context raw = result at h hvalued
  cases hvalued with
  | plain hkind _ =>
      cases h
      revert hkind
      cases line.kind with
      | modifier change => cases change <;> simp [LineKind.isFormed, LineKind.IsProper]
      | _ => simp [LineKind.isFormed, LineKind.IsProper]
  | range _ _ =>
      obtain ⟨ends, hends, rfl⟩ := Except.map_eq_ok h
      exact le_of_rangeOf hends
  | column _ _ =>
      obtain ⟨_, _, rfl⟩ := Except.map_eq_ok h
      trivial
  | computation _ =>
      obtain ⟨_, _, rfl⟩ := Except.map_eq_ok h
      trivial
  | navigation _ _ =>
      obtain ⟨_, _, rfl⟩ := Except.map_eq_ok h
      trivial

namespace State

/-! ## The cases of a line -/

/-- The state with the text of the question at its end, as behind any line but
text. -/
def quiet (st : State) : State := { st with textOpen := false }

@[simp] theorem question?_quiet (st : State) : st.quiet.question? = st.question? := rfl

@[simp] theorem capture?_quiet (st : State) : st.quiet.capture? = st.capture? := rfl

/-- Whether the line is text: that of a fence, or one classified so. -/
def ReadsText (st : State) (raw : Text) : Prop :=
  st.capture? = none ∧ ∀ line, st.lineOf? raw = some line → line.kind = .text

/-- **What a line does to the content.** -/
inductive Takes (number : Nat) (raw : Text) (after : List Text) (st : State) :
    Content → Prop where
  /-- The line goes into quotes that stay open. -/
  | quoted {capture next : Capture} (hcapture : st.capture? = some capture)
      (hholder : next.holder = capture.holder) :
      Takes number raw after st { st.content with capture? := some next }
  /-- The line closes the quotes. -/
  | unquoted {capture next : Capture} (hcapture : st.capture? = some capture)
      (hholder : next.holder = capture.holder) :
      Takes number raw after st { st.content with capture? := some next }.unquoted
  /-- The line goes to the text of the question. -/
  | continued {question : Question} (htext : st.ReadsText raw)
      (hquestion : st.question? = some question)
      (hfence : st.isFenced = hasStart fence (trim raw)) :
      Takes number raw after st
        { st.content with
          question? := some { question with text := question.text ++ '\n' :: trim raw }
          isFenced := false }
  /-- The line is text behind what is open. -/
  | said (htext : st.ReadsText raw) :
      Takes number raw after st
        { st.content.closeQuestion with
          pending := st.pending ++ [trimRight raw]
          isFenced := st.isFenced != hasStart fence (trim raw) }
  /-- The line settles what is open. -/
  | divided {line : Line} (hline : st.lineOf? raw = some line)
      (hkind : line.kind.isDivider = true) (hother : line.kind ≠ .question) :
      Takes number raw after st { st.content with textOpen := false }.settle
  /-- The line settles what is open and begins a question. -/
  | asked {line : Line} (hline : st.lineOf? raw = some line) (hkind : line.kind = .question) :
      Takes number raw after st
        { ({ st.content with textOpen := false } : Content).settle with
          question? := some (st.fresh line.value after)
          count := st.count + 1
          textOpen := true }
  /-- The line is blank and stands behind text. -/
  | spaced {line : Line} (hline : st.lineOf? raw = some line) (hkind : line.kind = .blank)
      (hquestion : st.question? = none) :
      Takes number raw after st
        { st.content with pending := st.pending ++ [[]], textOpen := false }
  /-- The line concerns no items, though a tooltip of a section may settle the text
  in it. -/
  | noted {line : Line} (hline : st.lineOf? raw = some line)
      (hkind : line.kind.isDivider = false) (htext : line.kind ≠ .text)
      (hquestion : st.question? = none) (next : Content)
      (hnext : next = { st.content with textOpen := false } ∨
        next = { st.content with textOpen := false }.settle) (capture? : Option Capture)
      (hholder : ∀ capture ∈ capture?, capture.holder = .block ∨ capture.holder = .page ∨
        capture.holder = .heading) :
      Takes number raw after st { next with capture? }
  /-- The line has an effect inside the question. -/
  | inside {line : Line} {question next : Question} {selection? : Option Selection}
      {capture? : Option Capture} {cause? : Option Cause} (hline : st.lineOf? raw = some line)
      (hkind : line.kind.isDivider = false) (htext : line.kind ≠ .text)
      (hquestion : st.question? = some question)
      (heffect : Effect line question st.selection? next selection? capture? cause?) :
      Takes number raw after st
        { st.content with
          question? := some next, selection?, capture?, textOpen := false
          warnings := st.warnings ++ (cause?.map fun cause => ⟨number, cause⟩).toList }

/-! ## Containers that are opened -/

private theorem content_openPage {st : State} (h : st.page? = none) (title : Text) :
    ({ st with page? := some { title } } : State).content = st.content := by
  simp [content, closedItems, h, Page.items]

private theorem content_openBlock {st : State} (h : st.block.pages = []) (name : Text)
    (isImplicit : Bool) :
    ({ st with block := { name }, isImplicit } : State).content = st.content := by
  simp [content, closedItems, h, Block.items]

private theorem content_openSection {st : State} (h : st.part? = none) (title : Option Text) :
    ({ st with part? := some { title } } : State).content = st.content := by
  simp [content, closedItems, h]

/-- An open section without items does not show. -/
private theorem content_openQuestion (question : Question) (count : Nat) (st : State) :
    ({ st with
        part? := some (st.part?.getD {}), count, question? := some question
        textOpen := true } : State).content
      = { st.content with question? := some question, count, textOpen := true } := by
  cases hpart : st.part? <;> simp [content, closedItems, hpart]

private theorem content_readQuestion (text : Text) (after : List Text) (st : State) :
    (st.readQuestion text after).content
      = { st.content.settle with
          question? := some (st.fresh text after), count := st.count + 1, textOpen := true } := by
  rw [readQuestion, content_openQuestion, content_ensurePage, content_settle]
  simp [fresh]

private theorem content_readComputation (computed : Text × Text) (st : State) :
    (st.readComputation computed).content = st.content.settle := by
  rw [readComputation, ← content_settle]
  cases hpage : st.closeQuestion.closeText.page? <;>
    simp [content, closedItems, hpage, Page.items, Block.items]

private theorem content_readLevel (level : Nat) (st : State) :
    (st.readLevel level).content = st.content := by
  rw [readLevel]
  split
  · rfl
  · exact content_ensurePage st

/-! ## Text -/

/-- Text goes to the question or behind it. -/
private theorem content_readText (raw : Text) (st : State) :
    (∃ question, st.question? = some question ∧ st.isFenced = false ∧
      (st.readText raw).content = { st.content with
        question? := some { question with text := question.text ++ '\n' :: trim raw } }) ∨
    (st.readText raw).content
      = { st.content.closeQuestion with pending := st.pending ++ [trimRight raw] } := by
  rw [readText]
  split
  · rename_i h
    simp only [Bool.and_eq_true, Option.isSome_iff_exists, Bool.not_eq_true'] at h
    obtain ⟨⟨⟨question, hquestion⟩, _⟩, hfenced⟩ := h
    exact .inl ⟨question, hquestion, hfenced, by simp [mapQuestion, content, hquestion, closedItems]⟩
  · refine .inr ?_
    rw [← content_closeQuestion]
    have hpending : st.closeQuestion.pending = st.pending := by
      have h := congrArg Content.pending (content_closeQuestion st)
      exact h.trans (Content.pending_closeQuestion _)
    simp [content, closedItems, hpending]

/-- The line is text whether it stands in a fence or not. -/
private theorem takes_readText {number : Nat} {raw : Text} {after : List Text} {st : State}
    (htext : st.ReadsText raw) {isFenced : Bool}
    (hfenced : isFenced = (st.isFenced != hasStart fence (trim raw))) :
    Takes number raw after st ({ st with isFenced }.readText raw).content := by
  rcases content_readText raw { st with isFenced } with ⟨question, hquestion, hfence, h⟩ | h
  · rw [h]
    obtain rfl : isFenced = false := hfence
    have hsame : st.isFenced = hasStart fence (trim raw) := by simpa using hfenced.symm
    exact .continued htext hquestion hsame
  · rw [h]
    have hclose : ({ st with isFenced } : State).content.closeQuestion
        = { st.content.closeQuestion with isFenced } := by
      cases hquestion : st.question? <;> simp [Content.closeQuestion, content, hquestion, closedItems]
    rw [hclose, hfenced]
    exact .said htext

/-! ## Lines that are classified -/

section

variable {number : Nat} {raw : Text} {after : List Text} {st : State} {line : Line}

theorem Takes.of_affects {question : Question} {st' : State} (hline : st.lineOf? raw = some line)
    (hkind : line.kind.isDivider = false) (htext : line.kind ≠ .text)
    (hquestion : st.question? = some question)
    (h : Affects number line question st.quiet st') :
    Takes number raw after st st'.content := by
  obtain ⟨next, selection?, capture?, cause?, heffect, rfl⟩ := h
  exact .inside hline hkind htext hquestion heffect

/-- An attribute of a container concerns no items. -/
private theorem content_assign {st : State} (hcapture : st.capture? = none)
    (hquestion : st.question? = none) {holder : Holder}
    (hholder : holder = .block ∨ holder = .page ∨ holder = .heading) (aspect : Aspect)
    (number : Nat) (value : Text) :
    ∃ capture? : Option Capture, (st.assign holder aspect number value).content
        = { st.content with capture? } ∧ ∀ capture ∈ capture?, capture.holder = .block ∨
          capture.holder = .page ∨ capture.holder = .heading := by
  rcases assign_cases holder aspect number value st with ⟨text, h⟩ | ⟨capture, hsame, h⟩
  · refine ⟨none, ?_, by simp⟩
    rw [h, content_write]
    simp [content, hquestion, hcapture]
  · refine ⟨some capture, by rw [h]; rfl, ?_⟩
    intro other hother
    obtain rfl := Option.some.inj hother
    exact hsame ▸ hholder

variable (hline : st.lineOf? raw = some line)
include hline

private theorem takes_self (hkind : line.kind.isDivider = false) (htext : line.kind ≠ .text)
    (hrow : line.kind.isRow = false) (hmodifier : line.kind.isModifier = false) {st' : State}
    (hsame : st'.content = { st.content with textOpen := false }) :
    Takes number raw after st st'.content := by
  have hcapture := (lineOf?_eq_some.mp hline).1
  rw [hsame]
  cases hquestion : st.question? with
  | none =>
      have h : Takes number raw after st _ :=
        .noted hline hkind htext hquestion _ (.inl rfl) none (by simp)
      simpa [content, hcapture] using h
  | some question =>
      exact Takes.of_affects hline hkind htext hquestion
        (Affects.sets_self hquestion hcapture hrow hmodifier)

private theorem takes_readShowIf (hkind : line.kind = .showIf) :
    Takes number raw after st
      (st.quiet.readShowIf number line.value).content := by
  have hcapture := (lineOf?_eq_some.mp hline).1
  rw [readShowIf]
  cases hquestion : st.question? with
  | some question =>
      have hholder : st.quiet.showIfHolder = .question := by
        simp [showIfHolder, hquestion]
      rw [hholder]
      exact Takes.of_affects hline (by rw [hkind]; rfl) (by rw [hkind]; simp) hquestion
        (Affects.assign (show st.quiet.question? = _ from hquestion) hcapture (by rw [hkind]; rfl)
          (by rw [hkind]; rfl) _ _ _)
  | none =>
      have hholder : st.quiet.showIfHolder = .block ∨
          st.quiet.showIfHolder = .page ∨
          st.quiet.showIfHolder = .heading := by
        rw [showIfHolder, if_neg (by simp [hquestion])]
        split
        · exact .inr (.inr rfl)
        · split
          · exact .inr (.inl rfl)
          · exact .inl rfl
      obtain ⟨capture?, hcontent, hcontainer⟩ := content_assign
        (show st.quiet.capture? = none from hcapture) hquestion hholder .showIf number line.value
      rw [hcontent]
      exact .noted hline (by rw [hkind]; rfl) (by rw [hkind]; simp) hquestion _ (.inl rfl) capture?
        hcontainer

private theorem takes_readTooltip (hkind : line.kind = .tooltip) :
    Takes number raw after st
      (st.quiet.readTooltip number line.value).content := by
  have hcapture := (lineOf?_eq_some.mp hline).1
  rw [readTooltip]
  cases hquestion : st.question? with
  | some question =>
      rw [if_pos (by simp [hquestion])]
      exact Takes.of_affects hline (by rw [hkind]; rfl) (by rw [hkind]; simp) hquestion
        (Affects.assign (show st.quiet.question? = _ from hquestion) hcapture (by rw [hkind]; rfl)
          (by rw [hkind]; rfl) _ _ _)
  | none =>
      rw [if_neg (by simp [hquestion])]
      split
      · have hsettle : st.quiet.closeText.content
            = ({ st.content with textOpen := false } : Content).settle := by
          rw [content_closeText, Content.settle, Content.closeQuestion_of_none hquestion]
          rfl
        obtain ⟨capture?, hcontent, hcontainer⟩ := content_assign
          (show st.quiet.closeText.capture? = none by simpa using hcapture)
          (by simpa using hquestion) (.inr (.inr rfl)) .tooltip number line.value
        rw [hcontent]
        exact .noted hline (by rw [hkind]; rfl) (by rw [hkind]; simp) hquestion _ (.inr hsettle)
          capture? hcontainer
      · obtain ⟨capture?, hcontent, hcontainer⟩ := content_assign
          (show st.quiet.ensurePage.capture? = none from hcapture) hquestion
          (.inr (.inl rfl)) .tooltip number line.value
        rw [hcontent]
        exact .noted hline (by rw [hkind]; rfl) (by rw [hkind]; simp) hquestion _
          (.inl (content_ensurePage _)) capture? hcontainer

private theorem takes_readBlank (hkind : line.kind = .blank) :
    Takes number raw after st
      (st.quiet.readBlank).content := by
  rw [readBlank]
  split
  · rename_i h
    have hquestion : st.question? = none := by simp_all
    exact .spaced hline hkind hquestion
  · exact takes_self hline (by rw [hkind]; rfl) (by rw [hkind]; simp) (by rw [hkind]; rfl)
      (by rw [hkind]; rfl) rfl

private theorem takes_divider (hkind : line.kind.isDivider = true)
    (hother : line.kind ≠ .question) {st' : State}
    (hsettle : st'.content = st.quiet.content.settle) :
    Takes number raw after st st'.content := by
  rw [hsettle]
  exact .divided hline hkind hother

/-- All other lines mean something only inside a question. -/
private theorem takes_inside (hkind : line.kind.isDivider = false) (htext : line.kind ≠ .text) :
    Takes number raw after st (match st.quiet.question? with
      | none => st.quiet
      | some question => st.quiet.readInside number line question).content := by
  obtain ⟨hcapture, _, _, hclassify⟩ := lineOf?_eq_some.mp hline
  split
  · rename_i hquestion
    have h : Takes number raw after st _ :=
      .noted hline hkind htext hquestion _ (.inl rfl) none (by simp)
    simpa [content, quiet, closedItems, hcapture] using h
  · rename_i question hquestion
    exact Takes.of_affects hline hkind htext hquestion
      (Affects.readInside hquestion hcapture (isProper_of_classify hclassify))

private theorem takes_readLine :
    Takes number raw after st (st.readLine number line raw after).content := by
  obtain ⟨hcapture, hfence, hfenced, _⟩ := lineOf?_eq_some.mp hline
  cases hkind : line.kind with
  | text =>
      have htext : st.ReadsText raw := by
        refine ⟨hcapture, fun other hother => ?_⟩
        obtain rfl := Option.some.inj (hline.symm.trans hother)
        exact hkind
      simp only [readLine, hkind]
      exact takes_readText htext (show st.isFenced = _ by rw [hfence, hfenced]; rfl)
  | blank =>
      simp only [readLine, hkind]
      exact takes_readBlank hline hkind
  | page =>
      simp only [readLine, hkind]
      refine takes_divider hline (by rw [hkind]; rfl) (by simp [hkind]) ?_
      exact (content_openPage (page?_closePage st.quiet) _).trans (content_closePage st.quiet)
  | block =>
      simp only [readLine, hkind]
      refine takes_divider hline (by rw [hkind]; rfl) (by simp [hkind]) ?_
      exact (content_openBlock (show st.quiet.closeBlock.block.pages = [] from rfl) _ _).trans
        (content_closeBlock st.quiet)
  | heading =>
      simp only [readLine, hkind]
      refine takes_divider hline (by rw [hkind]; rfl) (by simp [hkind]) ?_
      have hpart : st.quiet.closeSection.ensurePage.part? = none := part?_closeSection st.quiet
      have hsection := content_openSection hpart (some line.value)
      exact hsection.trans ((content_ensurePage _).trans (content_closeSection st.quiet))
  | question =>
      simp only [readLine, hkind]
      rw [content_readQuestion]
      exact .asked hline hkind
  | computation computed =>
      simp only [readLine, hkind]
      exact takes_divider hline (by rw [hkind]; rfl) (by simp [hkind])
        (content_readComputation computed st.quiet)
  | navigation keyword level =>
      simp only [readLine, hkind]
      exact takes_self hline (by rw [hkind]; rfl) (by simp [hkind]) (by rw [hkind]; rfl)
        (by rw [hkind]; rfl) (content_readLevel level st.quiet)
  | showIf =>
      simp only [readLine, hkind]
      exact takes_readShowIf hline hkind
  | tooltip =>
      simp only [readLine, hkind]
      exact takes_readTooltip hline hkind
  | _ =>
      simp only [readLine, hkind]
      exact takes_inside hline (by rw [hkind]; rfl) (by simp [hkind])

end

/-- **Every line that is read does one of these things to the content.** -/
theorem read_takes {number : Nat} {raw : Text} {after : List Text} {st st' : State}
    (h : st.read number raw after = .ok st') : Takes number raw after st st'.content := by
  cases hcapture : st.capture? with
  | some capture =>
      rw [read_of_capture raw hcapture, readQuoted] at h
      split at h
      · cases h
        rw [content_endCapture]
        exact .unquoted hcapture (by split <;> rfl)
      · cases h
        exact .quoted hcapture rfl
  | none =>
      by_cases hfence : hasStart fence (trim raw) = true
      · have htext : st.ReadsText raw := ⟨hcapture, by simp [lineOf?, hfence]⟩
        rw [read_of_fence hcapture hfence] at h
        cases h
        exact takes_readText htext (by simp [hfence])
      · rw [Bool.not_eq_true] at hfence
        cases hfenced : st.isFenced with
        | true =>
            have htext : st.ReadsText raw := ⟨hcapture, by simp [lineOf?, hfenced]⟩
            rw [read_of_isFenced hcapture hfence hfenced] at h
            cases h
            exact takes_readText htext (show st.isFenced = _ by simp [hfence])
        | false =>
            rw [read_of_classify hcapture hfence hfenced] at h
            obtain ⟨line, hclassify, rfl⟩ := Except.map_eq_ok h
            exact takes_readLine (lineOf?_eq_some.mpr ⟨hcapture, hfence, hfenced, hclassify⟩)

end State
end Questionnaire.Source
