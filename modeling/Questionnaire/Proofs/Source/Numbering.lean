import Questionnaire.Proofs.Source.Run
import Questionnaire.Proofs.Source.ParallelLines

/-!
# The numbers of lines

A line's number goes into warnings, into failures and into open quotes, and
nothing is read off it there. So a state without them (`State.hush`) makes of any
lines what the state makes of them, whatever their numbers are (`hush_read`,
`hush_readAll`), and sources that come to the same state before the same lines
give the same survey (`toOption_compile`).
-/

namespace Questionnaire.Source

open Text

/-- The open quotes without the number of their line. -/
def Capture.hush (capture : Capture) : Capture := { capture with line := 0 }

/-- The failure without the number of its line. -/
def State.Failure.hush (failure : Failure) : Failure := { failure with line := 0 }

namespace State

/-- The state without the numbers of lines, and so without warnings. -/
def hush (st : State) : State :=
  { st with capture? := st.capture?.map Capture.hush, warnings := [] }

variable (st : State)

theorem hush_hush : st.hush.hush = st.hush := by
  cases hcapture : st.capture? <;> simp [hush, hcapture, Capture.hush]

/-- What commutes with the hushing. -/
theorem hush_change {f : State → State} (hf : ∀ st : State, f st.hush = (f st).hush) :
    (f st.hush).hush = (f st).hush := by
  rw [hf, hush_hush]

/-- A warning is not heard. -/
theorem hush_warn (number number' : Nat) (cause : Cause) :
    (st.hush.warn number' cause).hush = (st.warn number cause).hush :=
  st.hush_hush

@[simp] theorem context_hush : st.hush.context = st.context := rfl

/-! ## Containers -/

theorem hush_closeQuestion : st.hush.closeQuestion = st.closeQuestion.hush := by
  have hsame : st.hush.question? = st.question? := rfl
  rw [closeQuestion, closeQuestion, hsame]
  split <;> rfl

theorem hush_closeText : st.hush.closeText = st.closeText.hush := by
  have hsame : st.hush.pending = st.pending := rfl
  rw [closeText, closeText, hsame]
  split <;> rfl

theorem hush_closeSection : st.hush.closeSection = st.closeSection.hush := by
  rw [closeSection, closeSection, hush_closeQuestion, hush_closeText]
  generalize st.closeQuestion.closeText = st
  have hsame : st.hush.part? = st.part? := rfl
  simp only [hsame]
  split <;> rfl

theorem hush_closePage : st.hush.closePage = st.closePage.hush := by
  rw [closePage, closePage, hush_closeSection]
  generalize st.closeSection = st
  have hsame : st.hush.page? = st.page? := rfl
  simp only [hsame]
  split <;> rfl

theorem hush_closeBlock : st.hush.closeBlock = st.closeBlock.hush := by
  rw [closeBlock, closeBlock, hush_closePage]
  rfl

/-! ## Values -/

theorem hush_write (holder : Holder) (aspect : Aspect) (value : Text) :
    st.hush.write holder aspect value = (st.write holder aspect value).hush := by
  cases holder <;> cases aspect <;> rfl

theorem hush_assign (holder : Holder) (aspect : Aspect) (number number' : Nat) (value : Text) :
    (st.hush.assign holder aspect number' value).hush
      = (st.assign holder aspect number value).hush := by
  rw [assign, assign]
  split
  · rw [hush_write, hush_hush]
  · split
    · rw [hush_write, hush_hush]
    · rfl

theorem hush_endCapture (capture : Capture) :
    (st.hush.endCapture capture.hush).hush = (st.endCapture capture).hush := by
  rw [endCapture, endCapture, hush_write]
  rfl

theorem hush_readQuoted (capture : Capture) (raw : Text) :
    (st.hush.readQuoted capture.hush raw).hush = (st.readQuoted capture raw).hush := by
  simp only [readQuoted]
  split
  · split
    · exact st.hush_endCapture capture
    · exact st.hush_endCapture { capture with lines := _ }
  · rfl

/-! ## Lines -/

/-- **A line inside a question** leaves its number in nothing but a warning or open
quotes. -/
theorem hush_readInside (number number' : Nat) (line : Line) (question : Question) :
    (st.hush.readInside number' line question).hush
      = (st.readInside number line question).hush := by
  have hselection : st.hush.selection? = st.selection? := rfl
  have hmodifier : ∀ (change : Modifier) (value : Text),
      (st.hush.readModifier change number' value question).hush
        = (st.readModifier change number value question).hush := by
    intro change value
    simp only [readModifier, hselection]
    split
    · cases change with
      | showIf | hint | tooltip => exact st.hush_assign _ _ _ _ _
      | varName | subtract | value => exact st.hush_change fun _ => rfl
      | _ => exact st.hush_warn _ _ _
    · split
      · exact st.hush_warn _ _ _
      · cases change with
        | showIf | hint | tooltip => exact st.hush_assign _ _ _ _ _
        | text => exact st.hush_change fun _ => rfl
        | _ =>
            simp only [modifyOption]
            split
            · exact st.hush_change fun _ => rfl
            · exact st.hush_warn _ _ _
  simp only [readInside]
  split
  case h_1 => exact st.hush_assign _ _ _ _ _
  case h_12 => exact hmodifier _ _
  case h_2 => exact st.hush_change fun _ => rfl
  case h_11 =>
    simp only [readMatrixRow]
    split
    · exact st.hush_change (f := fun st => { st.mapBody _ with selection? := some .row })
        fun _ => rfl
    · exact st.hush_warn _ _ _
  case h_3 | h_4 | h_5 | h_6 | h_7 | h_8 | h_9 | h_10 | h_13 | h_14 | h_15 =>
    simp only [readInput, readUnit, readTotal, readSubtotal, readRange, readOption, readColumn,
      readHeader, readSeparator, hselection]
    repeat' split
    all_goals first
      | exact st.hush_warn _ _ _
      | exact st.hush_change fun _ => rfl
      | exact st.hush_hush
  case h_16 => exact st.hush_hush

theorem hush_readText (raw : Text) : st.hush.readText raw = (st.readText raw).hush := by
  have hquestion : st.hush.question? = st.question? := rfl
  have htext : st.hush.textOpen = st.textOpen := rfl
  have hfenced : st.hush.isFenced = st.isFenced := rfl
  rw [readText, readText, hquestion, htext, hfenced]
  split
  · rfl
  · simp only [hush_closeQuestion]
    rfl

theorem hush_readBlank : st.hush.readBlank = st.readBlank.hush := by
  have hquestion : st.hush.question? = st.question? := rfl
  have hpending : st.hush.pending = st.pending := rfl
  rw [readBlank, readBlank, hquestion, hpending]
  split <;> rfl

theorem hush_readQuestion (text : Text) (after : List Text) :
    st.hush.readQuestion text after = (st.readQuestion text after).hush := by
  rw [readQuestion, readQuestion, hush_closeQuestion, hush_closeText]
  rfl

theorem hush_readLevel (level : Nat) : st.hush.readLevel level = (st.readLevel level).hush := by
  have hlisted : st.hush.isListed = st.isListed := rfl
  rw [readLevel, readLevel, hlisted]
  split <;> rfl

theorem hush_readComputation (computed : Text × Text) :
    st.hush.readComputation computed = (st.readComputation computed).hush := by
  rw [readComputation, readComputation, hush_closeQuestion, hush_closeText]
  generalize st.closeQuestion.closeText = st
  have hpage : st.hush.page? = st.page? := rfl
  simp only [hpage]
  split <;> rfl

theorem hush_readTooltip (number number' : Nat) (value : Text) :
    (st.hush.readTooltip number' value).hush = (st.readTooltip number value).hush := by
  have hquestion : st.hush.question? = st.question? := rfl
  have hcontent : st.hush.sectionHasContent = st.sectionHasContent := rfl
  rw [readTooltip, readTooltip, hquestion, hcontent]
  split
  · exact st.hush_assign _ _ _ _ _
  · split
    · rw [hush_closeText]
      exact hush_assign _ _ _ _ _ _
    · exact hush_assign st.ensurePage _ _ _ _ _

theorem hush_readLine (number number' : Nat) (line : Line) (raw : Text) (after : List Text) :
    (st.hush.readLine number' line raw after).hush = (st.readLine number line raw after).hush := by
  have hof : ∀ {st next : State}, next = st.hush → next.hush = st.hush := by
    rintro st _ rfl
    exact st.hush_hush
  rw [readLine, readLine]
  generalize hquiet : { st with textOpen := false } = quiet
  have hhush : { st.hush with textOpen := false } = quiet.hush := hquiet ▸ rfl
  simp only [hhush]
  split
  · exact hof (st.hush_readText raw)
  · exact hof quiet.hush_readBlank
  · rw [hush_closePage]
    exact hof rfl
  · rw [hush_closeBlock]
    exact hof rfl
  · rw [hush_closeSection]
    exact hof rfl
  · exact hof (quiet.hush_readQuestion _ _)
  · exact hof (quiet.hush_readLevel _)
  · exact hof (quiet.hush_readComputation _)
  · exact quiet.hush_assign _ _ _ _ _
  · exact quiet.hush_readTooltip _ _ _
  · have hquestion : st.hush.question? = quiet.question? := hquiet ▸ rfl
    rw [hquestion]
    split
    · exact quiet.hush_hush
    · exact quiet.hush_readInside _ _ _ _

/-- **The number of a line** makes no difference to what is read. -/
theorem hush_read (number number' : Nat) (raw : Text) (after : List Text) :
    (st.hush.read number' raw after).map hush = (st.read number raw after).map hush := by
  cases hcapture : st.capture? with
  | some capture =>
      have hhush : st.hush.capture? = some capture.hush := congrArg (Option.map _) hcapture
      rw [read_of_capture raw hcapture, read_of_capture raw hhush]
      exact congrArg Except.ok (st.hush_readQuoted capture raw)
  | none =>
      have hhush : st.hush.capture? = none := congrArg (Option.map _) hcapture
      by_cases hfence : hasStart fence (trim raw) = true
      · rw [read_of_fence hcapture hfence, read_of_fence hhush hfence]
        refine congrArg Except.ok ?_
        exact (congrArg hush (hush_readText { st with isFenced := !st.isFenced } raw)).trans
          (hush_hush _)
      · rw [Bool.not_eq_true] at hfence
        cases hfenced : st.isFenced with
        | true =>
            have hhushed : st.hush.isFenced = true := hfenced
            rw [read_of_isFenced hcapture hfence hfenced, read_of_isFenced hhush hfence hhushed,
              hush_readText]
            exact congrArg Except.ok (hush_hush _)
        | false =>
            have hhushed : st.hush.isFenced = false := hfenced
            rw [read_of_classify hcapture hfence hfenced, read_of_classify hhush hfence hhushed,
              context_hush]
            cases classify st.context raw with
            | error fault => rfl
            | ok line => exact congrArg Except.ok (st.hush_readLine number number' line raw after)

variable {st}

/-- **Where a run stands in the source** makes no difference to what it reads. -/
theorem hush_readAll {st' : State} (h : st.hush = st'.hush) (done done' : Nat) (all : List Text) :
    (readAll done st all).2.map Failure.hush = (readAll done' st' all).2.map Failure.hush ∧
      (readAll done st all).1.hush = (readAll done' st' all).1.hush := by
  induction all generalizing done done' st st' with
  | nil => exact ⟨rfl, h⟩
  | cons raw rest ih =>
      have hread := (st.hush_read (done + 1) 0 raw rest).symm.trans
        ((congrArg (fun st : State => (st.read 0 raw rest).map hush) h).trans
          (st'.hush_read (done' + 1) 0 raw rest))
      rw [readAll, readAll]
      cases hnext : st.read (done + 1) raw rest with
      | error fault =>
          cases hnext' : st'.read (done' + 1) raw rest with
          | error fault' =>
              rw [hnext, hnext'] at hread
              cases hread
              exact ⟨rfl, h⟩
          | ok next' => simp [hnext, hnext', Except.map] at hread
      | ok next =>
          cases hnext' : st'.read (done' + 1) raw rest with
          | error fault' => simp [hnext, hnext', Except.map] at hread
          | ok next' =>
              rw [hnext, hnext'] at hread
              exact ih (Except.ok.inj hread) (done + 1) (done' + 1)

/-- The survey does not depend on numbers of lines. -/
theorem survey_finish_hush (st : State) (name : Text) :
    st.hush.finish.survey name = st.finish.survey name := by
  have hclose : ∀ st : State, st.hush.closeBlock.survey name = st.closeBlock.survey name := by
    intro st
    rw [hush_closeBlock]
    rfl
  cases hcapture : st.capture? with
  | none =>
      have hhush : st.hush.capture? = none := congrArg (Option.map _) hcapture
      rw [finish, finish, hcapture, hhush]
      exact hclose st
  | some capture =>
      have hhush : st.hush.capture? = some capture.hush := congrArg (Option.map _) hcapture
      have hsame : ((st.hush.warn capture.hush.line .unclosed).endCapture capture.hush).hush
          = ((st.warn capture.line .unclosed).endCapture capture).hush := by
        rw [← hush_endCapture (st.warn _ _), ← hush_endCapture (st.hush.warn _ _),
          hush_warn st capture.line]
        rfl
      rw [finish, finish, hcapture, hhush]
      refine (hclose _).symm.trans (Eq.trans ?_ (hclose _))
      exact congrArg (fun st : State => st.closeBlock.survey name) hsame

end State

/-! ## Sources -/

/-- The checks keep a survey or refuse it. -/
theorem toOption_compile_eq (source name : Text) (isChecked : Bool) :
    (compile source name isChecked).result.toOption
      = (compileLines name (sourceLines source)).result.toOption.filter
          fun survey => !(isChecked && !(Validation.problems survey).isEmpty) := by
  simp only [compile]
  generalize compileLines name (sourceLines source) = compiled
  cases hresult : compiled.result with
  | error rejection => simp only [hresult]; rfl
  | ok survey =>
      cases hproblems : isChecked && !(Validation.problems survey).isEmpty with
      | true =>
          simp only [hproblems, if_true, Except.toOption, Option.filter_some, Bool.not_true,
            Bool.false_eq_true, if_false]
      | false =>
          simp only [hproblems, hresult, Except.toOption, Option.filter_some, Bool.not_false, if_true,
            Bool.false_eq_true, if_false]

/-- **Two sources that come to the same state before the same lines give the same
survey**, or none, wherever in them these lines stand. -/
theorem toOption_compile {source source' : Text} {st st' : State} {done done' : Nat}
    {rest : List Text}
    (hrun : State.readAll 0 {} (sourceLines source) = State.readAll done st rest)
    (hrun' : State.readAll 0 {} (sourceLines source') = State.readAll done' st' rest)
    (h : st.hush = st'.hush) (name : Text) (isChecked : Bool) :
    (compile source name isChecked).result.toOption
      = (compile source' name isChecked).result.toOption := by
  obtain ⟨hfailure, hstate⟩ := State.hush_readAll h done done' rest
  rw [toOption_compile_eq, toOption_compile_eq]
  refine congrArg (Option.filter _) ?_
  simp only [compileLines, hrun, hrun']
  generalize State.readAll done st rest = run at hfailure hstate ⊢
  generalize State.readAll done' st' rest = run' at hfailure hstate ⊢
  obtain ⟨last, failure?⟩ := run
  obtain ⟨last', failure?'⟩ := run'
  -- Both runs come to an end, or none does.
  cases failure? with
  | some failure =>
      cases failure?' with
      | some failure' => rfl
      | none => cases hfailure
  | none =>
      cases failure?' with
      | some failure' => cases hfailure
      | none =>
          refine congrArg some ?_
          rw [← State.survey_finish_hush last, ← State.survey_finish_hush last']
          exact congrArg (fun st : State => st.finish.survey name) hstate

end Questionnaire.Source
