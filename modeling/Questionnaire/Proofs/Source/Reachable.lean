import Questionnaire.Proofs.Source.Growth
import Questionnaire.Proofs.Source.Places
import Questionnaire.Proofs.Source.Pointing

/-!
# What holds of every cursor that is reached

A question stands in a section and a section in a page; no text is pending where a
question is open; the pointers and the selection belong to the open question, and
what is selected is its last option or its last row. Lines of any kind preserve this
(`coherent_of_reached`). So no line reads or changes what is not there, and no
modifier ever finds that it has no row to modify.
-/

namespace Questionnaire

open Text Source

theorem Question.kind_of_rows {question : Question} (h : question.rows ≠ []) :
    question.kind = .matrix := by
  rw [rows] at h
  rw [kind]
  cases hbody : question.body <;> rw [hbody] at h <;> first | rfl | exact absurd rfl h

namespace Source
namespace State

/-! ## Warnings -/

/-- No warning says that a modifier has no row to modify. -/
def Heeded (st : State) : Prop :=
  ∀ warning ∈ st.warnings, ∀ change, warning.cause ≠ .noRow change

namespace Heeded

variable {st st' : State}

theorem of_eq (h : st.Heeded) (hsame : st'.warnings = st.warnings) : st'.Heeded := by
  rw [Heeded, hsame]
  exact h

theorem warn (h : st.Heeded) (line : Nat) {cause : Cause}
    (hcause : ∀ change, cause ≠ .noRow change) : (st.warn line cause).Heeded := by
  intro warning hmem
  rcases List.mem_append.mp hmem with hold | hnew
  · exact h warning hold
  · rw [List.mem_singleton.mp hnew]
    exact hcause

theorem write (h : st.Heeded) (holder : Holder) (aspect : Aspect) (value : Text) :
    (st.write holder aspect value).Heeded :=
  h.of_eq (congrArg Content.warnings (content_write holder aspect value st))

theorem assign (h : st.Heeded) (holder : Holder) (aspect : Aspect) (line : Nat) (value : Text) :
    (st.assign holder aspect line value).Heeded := by
  rcases assign_cases holder aspect line value st with ⟨text, heq⟩ | ⟨capture, -, heq⟩
  · exact heq ▸ h.write holder aspect text
  · exact heq ▸ h.of_eq rfl

theorem modifyRow (h : st.Heeded) (change : Modifier) (line : Nat) (value : Text) (row : Row) :
    (st.modifyRow change line value row).Heeded := by
  cases change with
  | showIf | hint | tooltip => exact h.assign .row _ line value
  | varName | subtract | value => exact h.of_eq rfl
  | _ => exact h.warn line (by simp)

theorem modifyOption (h : st.Heeded) (change : Modifier) (line : Nat) (value : Text)
    (question : Question) : (st.modifyOption change line value question).Heeded := by
  cases change with
  | showIf | hint | tooltip => exact h.assign .option _ line value
  | text => exact h.of_eq rfl
  | _ =>
      simp only [State.modifyOption]
      split
      · exact h.of_eq rfl
      · exact h.warn line (by simp)

/-- A line inside a question, where a modifier has a row to modify. -/
theorem readInside {line : Line} {question : Question} (h : st.Heeded)
    (hselected : line.kind.isModifier = true →
      ∃ selection, st.selection? = some selection ∧ question.Has selection) (number : Nat) :
    (st.readInside number line question).Heeded := by
  cases hkind : line.kind with
  | hint =>
      simp only [State.readInside, hkind]
      exact h.assign .question .hint number line.value
  | modifier change =>
      obtain ⟨selection, hselection, hhas⟩ := hselected (by rw [hkind]; rfl)
      simp only [State.readInside, hkind]
      cases selection with
      | row =>
          obtain ⟨row, hrow⟩ := exists_getLast? hhas
          exact readModifier_row hselection hrow change number line.value
            ▸ h.modifyRow change number line.value row
      | option =>
          exact readModifier_option hselection hhas change number line.value
            ▸ h.modifyOption change number line.value question
  | column column =>
      obtain ⟨selection, hselection, hhas⟩ := hselected (by rw [hkind]; rfl)
      simp only [State.readInside, hkind]
      cases selection with
      | row =>
          obtain ⟨row, hrow⟩ := exists_getLast? hhas
          exact readColumn_row hselection hrow column number [] ▸ h.modifyRow .column number [] row
      | option =>
          rw [readColumn_option hselection hhas]
          split
          · exact h.of_eq rfl
          · exact h.warn number (by simp)
  | input word =>
      simp only [State.readInside, hkind, readInput]
      split
      · exact h
      · split
        · exact h.of_eq rfl
        · exact h.warn number (by simp)
  | unitBefore | unitAfter =>
      simp only [State.readInside, hkind, readUnit]
      split
      · exact h.of_eq rfl
      · exact h.of_eq rfl
      · exact h.warn number (by simp)
  | subtotal | rowSubtotal =>
      simp only [State.readInside, hkind, readSubtotal]
      split
      · exact h.of_eq rfl
      · exact h.of_eq rfl
      · exact h.warn number (by simp)
  | total | range first last | option | matrixRow | rowHeader | rowSeparator =>
      simp only [State.readInside, hkind, readTotal, readRange, readOption, readMatrixRow,
        readHeader, readSeparator]
      split
      · exact h.of_eq rfl
      · exact h.warn number (by simp)
  | _ =>
      simp only [State.readInside, hkind]
      exact h.of_eq rfl

/-- A line behind a question marker, where it is neither text nor settles the question. -/
private theorem readLine {line : Line} {question : Question} {raw : Text} (h : st.Heeded)
    (hstanding : st.content.Standing) (hline : st.lineOf? raw = some line)
    (hdivider : line.kind.isDivider = false) (htext : line.kind ≠ .text)
    (hquestion : st.question? = some question) (number : Nat) (after : List Text) :
    (st.readLine number line raw after).Heeded := by
  have hquiet : st.quiet.Heeded := h
  have hinside : line.kind.isInside = true → (st.readLine number line raw after).Heeded := by
    intro hkind
    have hselected := exists_selection hstanding hquestion hline
    rw [readLine_inside hquestion hkind]
    exact hquiet.readInside hselected number
  cases hkind : line.kind with
  | text => exact absurd hkind htext
  | page | block | heading | question | computation _ =>
      rw [hkind] at hdivider
      cases hdivider
  | blank =>
      simp only [State.readLine, hkind, readBlank]
      split <;> exact h.of_eq rfl
  | navigation keyword level =>
      simp only [State.readLine, hkind, readLevel]
      split <;> exact h.of_eq rfl
  | showIf =>
      simp only [State.readLine, hkind]
      exact hquiet.assign _ .showIf number line.value
  | tooltip =>
      have hopen : st.quiet.question?.isSome = true := by rw [question?_quiet, hquestion]; rfl
      have hread : st.readLine number line raw after
          = st.quiet.assign .question .tooltip number line.value := by
        simp only [State.readLine, hkind]
        exact if_pos hopen
      rw [hread]
      exact hquiet.assign .question .tooltip number line.value
  | _ => exact hinside (by rw [hkind]; rfl)

/-- **Every line preserves this.** -/
theorem read {number : Nat} {raw : Text} {after : List Text} (h : st.Heeded)
    (hstanding : st.content.Standing) (hread : st.read number raw after = .ok st') :
    st'.Heeded := by
  have htakes := read_takes hread
  generalize hnext : st'.content = next at htakes
  have hwarnings : st'.warnings = next.warnings := congrArg Content.warnings hnext
  cases htakes with
  | quoted _ _ | continued _ _ _ | spaced _ _ _ => exact h.of_eq hwarnings
  | unquoted _ _ =>
      rw [Content.unquoted] at hwarnings
      exact h.of_eq hwarnings
  | said _ => exact h.of_eq (hwarnings.trans (Content.warnings_closeQuestion _))
  | divided _ _ _ | asked _ _ => exact h.of_eq (hwarnings.trans (Content.warnings_settle _))
  | noted _ _ _ _ content hcontent _ _ =>
      rcases hcontent with rfl | rfl
      · exact h.of_eq hwarnings
      · exact h.of_eq (hwarnings.trans (Content.warnings_settle _))
  | inside hline hdivider htext hquestion _ =>
      rw [read_of_lineOf? hline] at hread
      obtain rfl := Except.ok.inj hread
      exact h.readLine hstanding hline hdivider htext hquestion number after

end Heeded

/-! ## States -/

/-- What is known of a state however its lines have been read. -/
structure Sound (st : State) : Prop where
  standing : st.content.Standing
  shelters : st.Shelters
  furnished : Furnished st
  navigated : Navigated st
  situated : ∃ page titled filled, Situated st page titled filled
  heeded : st.Heeded

namespace Sound

variable {st st' : State} {question : Question}

theorem empty : Sound {} where
  standing := Content.standing_empty
  shelters := .of_none rfl
  furnished := .empty
  navigated := .empty
  situated := ⟨false, false, false, .empty⟩
  heeded := fun _ hmem => absurd hmem List.not_mem_nil

theorem read {number : Nat} {raw : Text} {after : List Text} (h : st.Sound)
    (hread : st.read number raw after = .ok st') : st'.Sound where
  standing := h.standing.read hread
  shelters := h.shelters.read hread
  furnished := h.furnished.read hread
  navigated := h.navigated.read hread
  situated := by
    obtain ⟨page, titled, filled, hsituated⟩ := h.situated
    let step : Step := ⟨number, st, raw, after, st'⟩
    have hstep : step.before.read step.number step.raw step.behind = .ok step.after := hread
    have hbefore : Situated step.before page titled filled := hsituated
    exact ⟨_, _, _, hbefore.read h.furnished h.navigated hstep⟩
  heeded := h.heeded.read h.standing hread

theorem isSome_part? (h : st.Sound) (hquestion : st.question? = some question) :
    st.part?.isSome = true := by
  obtain ⟨page, titled, filled, hsituated⟩ := h.situated
  exact hsituated.asked (by rw [hquestion]; rfl)

theorem isSome_page? (h : st.Sound) (hpart : st.part?.isSome = true) : st.page?.isSome = true := by
  cases hpage : st.page? with
  | none =>
      rw [h.furnished.inside hpage] at hpart
      cases hpart
  | some page => rfl

end Sound
end State

namespace Cursor

variable {c : Cursor}

/-- **Every cursor that is reached points to the last rows of the open question.** -/
theorem Reached.eq_pointed (h : c.Reached) : c = c.state.pointed ∧ c.state.Sound := by
  induction h with
  | start => exact ⟨rfl, .empty⟩
  | @read c next number raw after _ hread ih =>
      obtain ⟨hpointed, hsound⟩ := ih
      rw [hpointed, State.read_pointed hsound.standing hsound.shelters] at hread
      cases hstate : c.state.read number raw after with
      | error fault =>
          rw [hstate] at hread
          cases hread
      | ok st =>
          rw [hstate] at hread
          obtain rfl := Except.ok.inj hread
          exact ⟨rfl, hsound.read hstate⟩

/-- The states of a run are those of cursors that are reached. -/
theorem Reached.readAll {st : State} (h : st.pointed.Reached) (done : Nat) (lines : List Text) :
    (State.readAll done st lines).1.pointed.Reached := by
  refine State.readAll_invariant (P := fun st => st.pointed.Reached) ?_ done h lines
  intro number raw after st st' hreached hread
  have hsound : st.Sound := hreached.eq_pointed.2
  refine .read hreached (?_ : st.pointed.read number raw after = .ok st'.pointed)
  rw [State.read_pointed hsound.standing hsound.shelters, hread]
  rfl

/-- **What holds of a cursor**, however its lines were read. -/
structure Coherent (c : Cursor) : Prop where
  /-- A question stands in a section. -/
  asked : ∀ question, c.state.question? = some question → c.state.part?.isSome = true
  /-- No text is pending where a question is open. -/
  pending : ∀ question, c.state.question? = some question → c.state.pending = []
  /-- A section stands in a page. -/
  placed : c.state.part?.isSome = true → c.state.page?.isSome = true
  /-- Without a question nothing points to a row of one, no row is selected, and no text
  belongs to a question. -/
  closed : c.state.question? = none →
    c.option? = none ∧ c.row? = none ∧ c.state.selection? = none ∧ c.state.textOpen = false
  /-- A selected option is the last one of the open question, and the current one. -/
  option : c.state.selection? = some .option → ∃ question position,
    c.state.question? = some question ∧ c.option? = some ⟨question.id, position⟩ ∧
      position + 1 = question.options.length
  /-- A selected row is the last one of the open question, which is a matrix, and the current
  one. -/
  row : c.state.selection? = some .row → ∃ question position,
    c.state.question? = some question ∧ question.kind = .matrix ∧
      c.row? = some ⟨question.id, position⟩ ∧ position + 1 = question.rows.length
  /-- A modifier has a row to modify. -/
  modified : ∀ raw line, c.state.lineOf? raw = some line → line.kind.isModifier = true →
    c.current? ≠ none
  /-- So no modifier was ever noticed for having none. -/
  heeded : ∀ warning ∈ c.state.warnings, ∀ change, warning.cause ≠ .noRow change
  /-- No line reads or changes what is not there. -/
  present : ∀ number raw after, c.read number raw after ≠ .error .absent
  /-- What a line does to the state is what it does to the state of the cursor. -/
  follows : ∀ number raw after, (c.read number raw after).map Cursor.state
    = (c.state.read number raw after).mapError Halt.fault
  /-- So it is at the end of the source. -/
  finishes : c.finish = .ok c.state.finish

theorem coherent_pointed {st : State} (h : st.Sound) : st.pointed.Coherent where
  asked := fun _ hquestion => h.isSome_part? hquestion
  pending := fun question hquestion => h.standing.pending question hquestion
  placed := h.isSome_page?
  closed := by
    intro hquestion
    have hnone : st.question? = none := hquestion
    exact ⟨by simp [State.pointed, hnone], by simp [State.pointed, hnone],
      h.standing.selection hnone, h.standing.textOpen hnone⟩
  option := by
    intro hselection
    obtain ⟨question, hquestion, hhas⟩ := h.standing.selected .option hselection
    have hopen : st.question? = some question := hquestion
    obtain ⟨count, hcount⟩ := Nat.exists_eq_succ_of_ne_zero (mt List.length_eq_zero_iff.mp hhas)
    refine ⟨question, count, hopen, ?_, hcount.symm⟩
    rw [State.pointed_eq hopen, hcount]
    rfl
  row := by
    intro hselection
    obtain ⟨question, hquestion, hhas⟩ := h.standing.selected .row hselection
    have hopen : st.question? = some question := hquestion
    obtain ⟨count, hcount⟩ := Nat.exists_eq_succ_of_ne_zero (mt List.length_eq_zero_iff.mp hhas)
    refine ⟨question, count, hopen, Question.kind_of_rows hhas, ?_, hcount.symm⟩
    rw [State.pointed_eq hopen, hcount]
    rfl
  modified := by
    intro raw line hline hmodifier
    obtain ⟨question, selection, hquestion, hselection, hhas⟩ :=
      (State.serves_of_standing h.standing h.shelters raw).row line hline hmodifier
    rw [State.current?_pointed hquestion hhas hselection]
    exact Option.some_ne_none selection
  heeded := h.heeded
  present := by
    intro number raw after
    rw [State.read_pointed h.standing h.shelters]
    cases st.read number raw after <;> simp [pointedResult]
  follows := by
    intro number raw after
    rw [State.read_pointed h.standing h.shelters, State.state_pointed]
    cases st.read number raw after <;> rfl
  finishes := State.finish_pointed h.standing h.shelters

/-- **Whatever lines are read, the cursor stays coherent.** -/
theorem coherent_of_reached (h : c.Reached) : c.Coherent := by
  obtain ⟨hpointed, hsound⟩ := h.eq_pointed
  rw [hpointed]
  exact coherent_pointed hsound

/-- A matrix with options between its rows, and a modifier of its last row. -/
def gridLines : List Text :=
  ["Q: m".toList, "- Q: a".toList, "- A".toList, "- Q: b".toList, "  - HINT: c".toList]

theorem coherent_of_reached_gridLines :
    (State.readAll 0 {} gridLines).1.pointed.Reached ∧
      (State.readAll 0 {} gridLines).1.selection? = some .row ∧
      (State.readAll 0 {} gridLines).1.pointed.row? = some ⟨"Q1".toList, 1⟩ ∧
      (State.readAll 0 {} gridLines).1.pointed.Coherent :=
  ⟨Reached.start.readAll 0 gridLines, by decide +kernel, by decide +kernel,
    coherent_of_reached (Reached.start.readAll 0 gridLines)⟩

end Cursor
end Source
end Questionnaire
