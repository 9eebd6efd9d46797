import Questionnaire.Proofs.Source.Containers

/-!
# Sections without a title have no condition

A condition outside a question belongs to the section only where that has a title, and
so does one that is read over several lines, since the section stays open with the
quotes (`Untitled`). Closing containers leaves the sections of the state as they are, in
order (`sections_closeSection` and on).
-/

namespace Questionnaire

open Text

/-- A section without a title has no condition. -/
def Section.IsPlain (part : Section) : Prop := part.title = none → part.showIf = none

namespace Source

namespace State

/-- The sections of a state, the open one last. -/
def sections (st : State) : List Section := st.pages.flatMap Page.sections ++ st.part?.toList

/-- Whether the open section has a title. -/
def IsTitled (st : State) : Prop := (st.part?.bind Section.title).isSome = true

/-! ## Sections that stay -/

theorem sections_ensurePage (st : State) : st.ensurePage.sections = st.sections := by
  cases hpage : st.page? <;> simp [sections, pages, finishedPages, ensurePage, hpage]

theorem sections_closeSection (st : State) :
    st.closeSection.sections = st.closeQuestion.closeText.sections := by
  cases hpart : st.closeQuestion.closeText.part? with
  | none => rw [closeSection_of_none hpart]
  | some part =>
      rw [closeSection_of_some hpart]
      generalize st.closeQuestion.closeText = st' at hpart
      cases hpage : st'.page? <;>
        simp [sections, pages, finishedPages, addSection, ensurePage, hpart, hpage]

theorem sections_closePage (st : State) :
    st.closePage.sections = st.closeQuestion.closeText.sections := by
  rw [← sections_closeSection]
  cases hpage : st.closeSection.page? with
  | none => rw [closePage_of_none hpage]
  | some page =>
      rw [closePage_of_some hpage]
      simp [sections, pages, finishedPages, addPage, hpage]

theorem sections_closeBlock (st : State) :
    st.closeBlock.sections = st.closeQuestion.closeText.sections := by
  have hpage : st.closeBlock.page? = none := by simp [closeBlock]
  have hpart : st.closeBlock.part? = none := by simp [closeBlock]
  rw [← sections_closePage, sections, sections, pages, pages, finishedPages_closeBlock, hpage,
    hpart, page?_closePage, part?_closePage]

/-! ## What fills the containers -/

/-- Every section without a title is plain. -/
def KeepsPlain (st : State) : Prop := ∀ part ∈ st.sections, part.IsPlain

namespace KeepsPlain

variable {st st' : State}

theorem same (h : st.KeepsPlain) (hsame : st'.sections = st.sections) : st'.KeepsPlain :=
  fun part hpart => h part (hsame ▸ hpart)

theorem part (h : st.KeepsPlain) {part : Section} (hpart : part ∈ st.part?) : part.IsPlain :=
  h part (List.mem_append_right _ (Option.mem_toList.mpr hpart))

/-- The section that is open, or begun, is plain. -/
theorem getD_part (h : st.KeepsPlain) : (st.part?.getD {}).IsPlain := by
  cases hpart : st.part? with
  | none => exact fun _ => rfl
  | some part => exact h.part hpart

/-- Another section is open in place of that one. -/
theorem setPart (h : st.KeepsPlain) {part? : Option Section}
    (hpart : ∀ part ∈ part?, part.IsPlain) : ({ st with part? } : State).KeepsPlain := by
  intro part hmem
  rcases List.mem_append.mp hmem with hmem | hmem
  · exact h part (List.mem_append_left _ hmem)
  · exact hpart part (Option.mem_toList.mp hmem)

theorem ensurePage (h : st.KeepsPlain) : st.ensurePage.KeepsPlain :=
  h.same (sections_ensurePage st)

theorem addItem (h : st.KeepsPlain) (item : Item) : (st.addItem item).KeepsPlain :=
  h.ensurePage.setPart fun _ hpart => Option.some.inj hpart ▸ h.getD_part

theorem closeQuestion (h : st.KeepsPlain) : st.closeQuestion.KeepsPlain := by
  rw [State.closeQuestion]
  split
  · exact h
  · exact (h.addItem _).same rfl

theorem closeText (h : st.KeepsPlain) : st.closeText.KeepsPlain := by
  rw [State.closeText]
  split
  · exact h.same rfl
  · exact (h.addItem _).same rfl

theorem settle (h : st.KeepsPlain) : st.closeQuestion.closeText.KeepsPlain :=
  h.closeQuestion.closeText

theorem closeSection (h : st.KeepsPlain) : st.closeSection.KeepsPlain :=
  h.settle.same (sections_closeSection st)

theorem closePage (h : st.KeepsPlain) : st.closePage.KeepsPlain :=
  h.settle.same (sections_closePage st)

theorem closeBlock (h : st.KeepsPlain) : st.closeBlock.KeepsPlain :=
  h.settle.same (sections_closeBlock st)

/-- A condition is written into the open section only if that has a title. -/
theorem write (h : st.KeepsPlain) {holder : Holder} {aspect : Aspect}
    (htitled : holder = .heading → aspect = .showIf → st.IsTitled) (value : Text) :
    (st.write holder aspect value).KeepsPlain := by
  cases holder with
  | block =>
      rw [write_block]
      cases aspect <;> exact h.same rfl
  | page =>
      rw [write_page]
      refine h.same ?_
      cases hpage : st.page? <;> cases aspect <;>
        simp [sections, pages, finishedPages, hpage, Page.put]
  | heading =>
      rw [write_heading]
      refine h.setPart fun part hpart => ?_
      obtain ⟨old, hold, rfl⟩ := Option.map_eq_some_iff.mp hpart
      have hplain : old.IsPlain := h.part hold
      cases aspect with
      | showIf =>
          have htitle := htitled rfl rfl
          rw [IsTitled, hold] at htitle
          exact fun hnone => absurd hnone (Option.isSome_iff_ne_none.mp htitle)
      | hint | tooltip => exact hplain
  | question => rw [write_question]; exact h.same rfl
  | option => rw [write_option]; exact h.same rfl
  | row => rw [write_row]; exact h.same rfl

end KeepsPlain

/-! ## Quotes that are open -/

theorem capture?_closeSection (st : State) : st.closeSection.capture? = st.capture? := by
  rw [closeSection]
  split <;> simp

theorem capture?_closePage (st : State) : st.closePage.capture? = st.capture? := by
  rw [closePage]
  split <;> exact capture?_closeSection st

theorem capture?_closeBlock (st : State) : st.closeBlock.capture? = st.capture? :=
  capture?_closePage st

/-- **Sections without a title stay plain**, and a condition whose quotes are open does not
belong to one. -/
structure Untitled (st : State) : Prop where
  /-- The sections so far. -/
  plain : st.KeepsPlain
  /-- The open quotes. -/
  captured : ∀ capture, st.capture? = some capture → capture.holder = .heading →
    capture.aspect = .showIf → st.IsTitled

namespace Untitled

variable {st st' : State}

theorem empty : Untitled {} :=
  ⟨fun _ h => absurd h List.not_mem_nil, fun _ h => by cases h⟩

/-- Where no quotes are open. -/
theorem of_none (hplain : st.KeepsPlain) (hnone : st.capture? = none) : st.Untitled :=
  ⟨hplain, fun capture h => by rw [hnone] at h; cases h⟩

theorem assign (hplain : st.KeepsPlain) (hnone : st.capture? = none) {holder : Holder}
    {aspect : Aspect} (htitled : holder = .heading → aspect = .showIf → st.IsTitled)
    (line : Nat) (value : Text) : (st.assign holder aspect line value).Untitled := by
  refine ⟨?_, fun capture hcapture hholder haspect => ?_⟩
  · rcases assign_cases holder aspect line value st with ⟨text, h⟩ | ⟨capture, -, h⟩
    · exact h ▸ hplain.write htitled text
    · exact h ▸ hplain.same rfl
  · obtain ⟨hheld, hsaid, hstate⟩ := of_capture?_assign hnone hcapture
    rw [hstate]
    exact htitled (hheld.symm.trans hholder) (hsaid.symm.trans haspect)

theorem readQuoted (h : st.Untitled) {capture : Capture} (hcapture : st.capture? = some capture)
    (raw : Text) : (st.readQuoted capture raw).Untitled := by
  have hend : ∀ lines, (st.endCapture { capture with lines }).Untitled := fun lines =>
    .of_none ((h.plain.write (h.captured capture hcapture) _).same rfl) rfl
  rw [State.readQuoted]
  split
  · dsimp only
    split
    · exact hend capture.lines
    · exact hend _
  · refine ⟨h.plain.same rfl, fun other hother hholder haspect => ?_⟩
    obtain rfl := Option.some.inj hother
    exact h.captured capture hcapture hholder haspect

/-- A condition outside a question belongs to the section only if that has a title. -/
theorem readShowIf (hplain : st.KeepsPlain) (hnone : st.capture? = none) (line : Nat)
    (value : Text) : (st.readShowIf line value).Untitled := by
  refine assign hplain hnone (fun hholder _ => ?_) line value
  unfold showIfHolder at hholder
  split at hholder
  · cases hholder
  · split at hholder
    · assumption
    · split at hholder <;> cases hholder

theorem readTooltip (hplain : st.KeepsPlain) (hnone : st.capture? = none) (line : Nat)
    (value : Text) : (st.readTooltip line value).Untitled := by
  rw [State.readTooltip]
  split
  · exact assign hplain hnone (by simp) line value
  · split
    · exact assign hplain.closeText ((capture?_closeText st).trans hnone) (by simp) line value
    · exact assign hplain.ensurePage hnone (by simp) line value

theorem readText (hplain : st.KeepsPlain) (hnone : st.capture? = none) (raw : Text) :
    (st.readText raw).Untitled := by
  rw [State.readText]
  split
  · exact .of_none (hplain.same rfl) hnone
  · exact .of_none (hplain.closeQuestion.same rfl) ((capture?_closeQuestion st).trans hnone)

theorem readComputation (hplain : st.KeepsPlain) (hnone : st.capture? = none)
    (computed : Text × Text) : (st.readComputation computed).Untitled := by
  have hsettled := hplain.settle
  have hcapture : st.closeQuestion.closeText.capture? = none := by simp [hnone]
  rw [State.readComputation]
  generalize st.closeQuestion.closeText = settled at hsettled hcapture
  split
  · rename_i page hpage
    exact .of_none (hsettled.same (by simp [sections, pages, finishedPages, hpage])) hcapture
  · exact .of_none (hsettled.same rfl) hcapture

theorem readLine (hplain : st.KeepsPlain) (hnone : st.capture? = none) {number : Nat}
    {line : Line} {raw : Text} {after : List Text} (hline : st.lineOf? raw = some line) :
    (st.readLine number line raw after).Untitled := by
  have hquiet : st.quiet.KeepsPlain := hplain.same rfl
  cases hkind : line.kind with
  | text =>
      simp only [State.readLine, hkind]
      exact readText hplain hnone raw
  | blank =>
      simp only [State.readLine, hkind, readBlank]
      split <;> exact .of_none (hquiet.same rfl) hnone
  | page =>
      simp only [State.readLine, hkind]
      have hsame : ({ st.quiet.closePage with page? := some { title := line.value } }
          : State).sections = st.quiet.closePage.sections := by
        simp [sections, pages, finishedPages]
      exact .of_none (hquiet.closePage.same hsame) ((capture?_closePage _).trans hnone)
  | block =>
      simp only [State.readLine, hkind]
      exact .of_none (hquiet.closeBlock.same rfl) ((capture?_closeBlock _).trans hnone)
  | heading =>
      simp only [State.readLine, hkind]
      refine .of_none (hquiet.closeSection.ensurePage.setPart fun part hpart => ?_)
        ((capture?_closeSection _).trans hnone)
      obtain rfl := Option.some.inj hpart
      intro htitle
      cases htitle
  | question =>
      simp only [State.readLine, hkind, readQuestion]
      have hopened : st.quiet.closeQuestion.closeText.openSection.KeepsPlain :=
        hquiet.settle.ensurePage.setPart fun part hpart =>
          Option.some.inj hpart ▸ hquiet.settle.getD_part
      exact .of_none (hopened.same rfl) (by simp [State.ensurePage, hnone])
  | navigation keyword level =>
      simp only [State.readLine, hkind, readLevel]
      split
      · exact .of_none (hquiet.same rfl) hnone
      · exact .of_none (hquiet.ensurePage.same rfl) hnone
  | computation computed =>
      simp only [State.readLine, hkind]
      exact readComputation hquiet hnone computed
  | showIf =>
      simp only [State.readLine, hkind]
      exact readShowIf hquiet hnone number line.value
  | tooltip =>
      simp only [State.readLine, hkind]
      exact readTooltip hquiet hnone number line.value
  | _ =>
      simp only [State.readLine, hkind]
      split
      · exact .of_none hquiet hnone
      · rename_i question hquestion
        obtain ⟨hcapture, -, -, hclassify⟩ := lineOf?_eq_some.mp hline
        have haffects : Affects number line question st.quiet
            (st.quiet.readInside number line question) :=
          Affects.readInside hquestion hcapture (isProper_of_classify hclassify)
        obtain ⟨next, selection?, capture?, cause?, heffect, hstate⟩ := haffects
        change (st.quiet.readInside number line question).Untitled
        rw [hstate]
        refine ⟨hquiet.same rfl, fun capture hsome hholder _ => ?_⟩
        obtain rfl : capture? = some capture := hsome
        exact absurd hholder heffect.holder_ne.2

/-- **Every line leaves the sections without a title plain.** -/
theorem read {number : Nat} {raw : Text} {after : List Text} (h : st.Untitled)
    (hread : st.read number raw after = .ok st') : st'.Untitled := by
  cases hcapture : st.capture? with
  | some capture =>
      rw [read_of_capture raw hcapture] at hread
      exact Except.ok.inj hread ▸ h.readQuoted hcapture raw
  | none =>
      by_cases hfence : hasStart fence (trim raw) = true
      · rw [read_of_fence hcapture hfence] at hread
        have hturned : KeepsPlain { st with isFenced := !st.isFenced } := h.plain.same rfl
        exact Except.ok.inj hread ▸ readText hturned hcapture raw
      · rw [Bool.not_eq_true] at hfence
        cases hfenced : st.isFenced with
        | true =>
            rw [read_of_isFenced hcapture hfence hfenced] at hread
            exact Except.ok.inj hread ▸ readText h.plain hcapture raw
        | false =>
            rw [read_of_classify hcapture hfence hfenced] at hread
            obtain ⟨line, hclassify, rfl⟩ := Except.map_eq_ok hread
            exact readLine h.plain hcapture
              (lineOf?_eq_some.mpr ⟨hcapture, hfence, hfenced, hclassify⟩)

theorem finish (h : st.Untitled) : st.finish.KeepsPlain := by
  rw [State.finish]
  split
  · exact h.plain.closeBlock
  · rename_i capture hcapture
    have hwarned : (st.warn capture.line .unclosed).KeepsPlain := h.plain.same rfl
    have hended : ((st.warn capture.line .unclosed).endCapture capture).KeepsPlain :=
      (hwarned.write (h.captured capture hcapture) capture.value).same rfl
    exact hended.closeBlock

end Untitled

end State

/-- **A section without a title has no condition** in the survey of any source. -/
theorem isPlain_of_compile {source name : Text} {isChecked : Bool} {survey : Survey}
    (h : (compile source name isChecked).result = .ok survey) {place : Block × Page}
    (hplace : place ∈ survey.pages) {part : Section} (hpart : part ∈ place.2.sections) :
    part.IsPlain := by
  have hrun := State.readAll_invariant (fun _ _ _ _ _ => State.Untitled.read) 0 .empty
    (sourceLines source)
  rw [survey_of_compileLines (compileLines_of_compile h)] at hplace
  have hpage := List.mem_map_of_mem (f := Prod.snd) hplace
  rw [State.pages_survey] at hpage
  refine hrun.finish part (List.mem_append_left _ (List.mem_flatMap.mpr ⟨place.2, ?_, hpart⟩))
  exact List.mem_append_left _ hpage

end Source
end Questionnaire
