import Questionnaire.Proofs.Source.Malformed
import Questionnaire.Proofs.Source.Standing
import Questionnaire.Command.Run

/-!
# Sources that do not compile

A source that is not checked compiles unless one of its lines is malformed where
it stands; the first such line is what the failure names (`FirstFailure`). All
other lines find what they change: the question that they stand in, the row that
they modify, and what the open quotes belong to (`Serves`). A failure that is
reported ends each command with the status one and its message.
-/

namespace Questionnaire

open Text

namespace Source

namespace State

/-! ## Lines that cannot be read -/

/-- The line is read as what it is, not as text, and is malformed where it stands. -/
structure Rejects (st : State) (raw : Text) (fault : Fault) : Prop where
  /-- No quotes are open. -/
  quotes : st.capture? = none
  /-- The line is none of a fence. -/
  fence : hasStart fence (trim raw) = false
  /-- No fence is open. -/
  fenced : st.isFenced = false
  /-- The line is malformed. -/
  malformed : Malformed st.context (trim raw) fault

/-- **A line is read unless it is malformed where it stands.** -/
theorem read_eq_error {number : Nat} {raw : Text} {after : List Text} {st : State}
    {fault : Fault} : st.read number raw after = .error fault ↔ st.Rejects raw fault := by
  constructor
  · intro h
    cases hcapture : st.capture? with
    | some capture =>
        rw [read_of_capture raw hcapture] at h
        cases h
    | none =>
        cases hfence : hasStart fence (trim raw) with
        | true =>
            rw [read_of_fence hcapture hfence] at h
            cases h
        | false =>
            cases hfenced : st.isFenced with
            | true =>
                rw [read_of_isFenced hcapture hfence hfenced] at h
                cases h
            | false =>
                rw [read_of_classify hcapture hfence hfenced] at h
                exact ⟨hcapture, hfence, hfenced, classify_eq_error.mp (Except.map_eq_error h)⟩
  · intro h
    rw [read_of_classify h.quotes h.fence h.fenced, classify_eq_error.mpr h.malformed]
    rfl

/-- **The first line of a run that cannot be read**: all lines before it are steps
of the run, and the state behind them rejects it. -/
structure FirstFailure (done : Nat) (st : State) (lines : List Text) (failure : Failure) :
    Prop where
  /-- The lines before it are read. -/
  place : ∃ behind, lines = (steps done st lines).map Step.raw ++ failure.raw :: behind
  /-- Its number goes on from that of the lines before it. -/
  line : failure.line = done + (steps done st lines).length + 1
  /-- It cannot be read. -/
  rejects : (readAll done st lines).1.Rejects failure.raw failure.fault

/-- **A run ends early exactly at the first line that cannot be read.** -/
theorem readAll_eq_some {done : Nat} {st : State} {lines : List Text} {failure : Failure} :
    (readAll done st lines).2 = some failure ↔ FirstFailure done st lines failure := by
  induction lines generalizing done st with
  | nil =>
      refine ⟨(nomatch ·), fun h => ?_⟩
      obtain ⟨behind, hplace⟩ := h.place
      cases hplace
  | cons raw rest ih =>
      cases hread : st.read (done + 1) raw rest with
      | error fault =>
          have hsteps : steps done st (raw :: rest) = [] := by rw [steps, hread]
          have hrun : readAll done st (raw :: rest) = (st, some ⟨done + 1, raw, fault⟩) := by
            rw [readAll, hread]
          rw [hrun]
          constructor
          · intro h
            obtain rfl := Option.some.inj h
            refine ⟨⟨rest, by rw [hsteps]; rfl⟩, by rw [hsteps]; rfl, ?_⟩
            rw [hrun]
            exact read_eq_error.mp hread
          · rintro ⟨⟨behind, hplace⟩, hline, hrejects⟩
            rw [hsteps] at hplace hline
            rw [hrun] at hrejects
            obtain ⟨rfl, rfl⟩ := List.cons.inj hplace
            obtain rfl := Except.error.inj (hread.symm.trans (read_eq_error.mpr hrejects))
            exact congrArg (fun line => some (⟨line, _, _⟩ : Failure)) hline.symm
      | ok next =>
          have hsteps : steps done st (raw :: rest)
              = ⟨done + 1, st, raw, rest, next⟩ :: steps (done + 1) next rest := by
            rw [steps, hread]
          have hrun : readAll done st (raw :: rest) = readAll (done + 1) next rest := by
            rw [readAll, hread]
          rw [hrun, ih]
          constructor
          · rintro ⟨⟨behind, hplace⟩, hline, hrejects⟩
            refine ⟨⟨behind, ?_⟩, ?_, by rw [hrun]; exact hrejects⟩
            · rw [hsteps, List.map_cons, List.cons_append, ← hplace]
            · rw [hsteps, hline, List.length_cons]
              omega
          · rintro ⟨⟨behind, hplace⟩, hline, hrejects⟩
            rw [hsteps] at hplace hline
            rw [hrun] at hrejects
            refine ⟨⟨behind, (List.cons.inj hplace).2⟩, ?_, hrejects⟩
            rw [hline, List.length_cons]
            omega

/-! ## What a line changes -/

/-- Whether what a value belongs to is there. -/
def Holds (st : State) : Holder → Prop
  | .page => st.page?.isSome = true
  | .heading => st.part?.isSome = true
  | holder => st.content.Holds holder

/-- **What a line changes without asking is there.** -/
structure Serves (st : State) (raw : Text) : Prop where
  /-- What the open quotes belong to. -/
  captured : ∀ capture, st.capture? = some capture → st.Holds capture.holder
  /-- The question that a line stands in. -/
  question : ∀ line, st.lineOf? raw = some line → line.kind.isInside = true →
    ∃ question, st.question? = some question
  /-- The row that a line modifies. -/
  row : ∀ line, st.lineOf? raw = some line → line.kind.isModifier = true →
    ∃ question selection, st.question? = some question ∧ st.selection? = some selection ∧
      question.Has selection

/-- The page or the section that open quotes belong to is open. -/
def Shelters (st : State) : Prop :=
  ∀ capture, st.capture? = some capture →
    (capture.holder = .page → st.page?.isSome = true) ∧
      (capture.holder = .heading → st.part?.isSome = true)

theorem Shelters.of_none {st : State} (h : st.capture? = none) : st.Shelters := by
  intro capture hcapture
  rw [h] at hcapture
  cases hcapture

/-- Quotes are opened only for what is there. -/
private theorem shelters_assign {st : State} (holder : Holder) (hcapture : st.capture? = none)
    (hpage : holder = .page → st.page?.isSome = true)
    (hpart : holder = .heading → st.part?.isSome = true) (aspect : Aspect) (number : Nat)
    (value : Text) : (st.assign holder aspect number value).Shelters := by
  rcases assign_cases holder aspect number value st with ⟨text, h⟩ | ⟨capture, rfl, h⟩
  · rw [h]
    exact .of_none ((capture?_write holder aspect text st).trans hcapture)
  · rw [h]
    intro other hother
    obtain rfl := Option.some.inj hother
    exact ⟨hpage, hpart⟩

private theorem shelters_readShowIf {st : State} (hcapture : st.capture? = none) (number : Nat)
    (value : Text) : (st.readShowIf number value).Shelters := by
  refine shelters_assign st.showIfHolder hcapture (fun hpage => ?_) (fun hpart => ?_) .showIf number value
  · unfold showIfHolder at hpage
    split at hpage
    · cases hpage
    · split at hpage
      · cases hpage
      · split at hpage
        · assumption
        · cases hpage
  · unfold showIfHolder at hpart
    split at hpart
    · cases hpart
    · split at hpart
      · rename_i htitle
        obtain ⟨title, htitle⟩ := Option.isSome_iff_exists.mp htitle
        obtain ⟨part, hsome, _⟩ := Option.bind_eq_some_iff.mp htitle
        rw [hsome]
        rfl
      · split at hpart <;> cases hpart

private theorem shelters_readTooltip {st : State} (hcapture : st.capture? = none) (number : Nat)
    (value : Text) : (st.readTooltip number value).Shelters := by
  rw [readTooltip]
  split
  · exact shelters_assign .question hcapture (by simp) (by simp) .tooltip number value
  · split
    · rename_i hcontent
      exact shelters_assign .heading ((capture?_closeText st).trans hcapture) (by simp)
        (fun _ => isSome_part?_closeText hcontent) .tooltip number value
    · have hcapture' : st.ensurePage.capture? = none := hcapture
      exact shelters_assign .page hcapture' (fun _ => rfl) (by simp) .tooltip number value

/-- A line outside a question opens quotes only if it is a condition or a tooltip. -/
private theorem shelters_readLine {st : State} (hcapture : st.capture? = none)
    (hquestion : st.question? = none) {line : Line} (hdivider : line.kind.isDivider = false)
    (htext : line.kind ≠ .text) (number : Nat) (raw : Text) (after : List Text) :
    (st.readLine number line raw after).Shelters := by
  cases hkind : line.kind with
  | text => exact absurd hkind htext
  | page | block | heading | question | computation _ =>
      rw [hkind] at hdivider
      cases hdivider
  | blank =>
      simp only [readLine, hkind, readBlank]
      split <;> exact .of_none hcapture
  | navigation keyword level =>
      simp only [readLine, hkind, readLevel]
      split <;> exact .of_none hcapture
  | showIf =>
      simp only [readLine, hkind]
      have hcapture' : st.quiet.capture? = none := hcapture
      exact shelters_readShowIf hcapture' number line.value
  | tooltip =>
      simp only [readLine, hkind]
      have hcapture' : st.quiet.capture? = none := hcapture
      exact shelters_readTooltip hcapture' number line.value
  | _ =>
      simp only [readLine, hkind, hquestion]
      exact .of_none hcapture

private theorem Shelters.readQuoted {st : State} (h : st.Shelters) {capture : Capture}
    (hcapture : st.capture? = some capture) (raw : Text) :
    (st.readQuoted capture raw).Shelters := by
  rw [State.readQuoted]
  split
  · exact .of_none rfl
  · intro other hother
    obtain rfl := Option.some.inj hother
    exact h capture hcapture

/-- **Every line preserves this.** -/
theorem Shelters.read {number : Nat} {raw : Text} {after : List Text} {st st' : State}
    (h : st.Shelters) (hread : st.read number raw after = .ok st') : st'.Shelters := by
  cases hcapture : st.capture? with
  | some capture =>
      rw [read_of_capture raw hcapture] at hread
      obtain rfl := Except.ok.inj hread
      exact h.readQuoted hcapture raw
  | none =>
      have htakes := read_takes hread
      generalize hnext : st'.content = next at htakes
      have hcapture' : st'.capture? = next.capture? := congrArg Content.capture? hnext
      cases htakes with
      | quoted hsome _ | unquoted hsome _ =>
          rw [hcapture] at hsome
          cases hsome
      | continued _ _ _ | spaced _ _ _ => exact .of_none (hcapture'.trans hcapture)
      | said _ | divided _ _ _ | asked _ _ =>
          exact .of_none ((hcapture'.trans (Content.capture?_closeQuestion _)).trans hcapture)
      | inside _ _ _ _ heffect =>
          intro capture hsome
          rw [hcapture'] at hsome
          obtain rfl : _ = some capture := hsome
          obtain ⟨hpage, hpart⟩ := heffect.holder_ne
          exact ⟨fun heq => absurd heq hpage, fun heq => absurd heq hpart⟩
      | noted hline hkind htext hquestion _ _ _ _ =>
          rw [read_of_lineOf? hline] at hread
          obtain rfl := Except.ok.inj hread
          exact shelters_readLine hcapture hquestion hkind htext number raw after

/-- **A line finds what it changes.** -/
theorem serves_of_standing {st : State} (hstanding : st.content.Standing)
    (hshelters : st.Shelters) (raw : Text) : st.Serves raw where
  captured := by
    intro capture hcapture
    have hholds : st.content.Holds capture.holder := hstanding.captured capture hcapture
    obtain ⟨hpage, hpart⟩ := hshelters capture hcapture
    cases hholder : capture.holder with
    | page => exact hpage hholder
    | heading => exact hpart hholder
    | _ =>
        rw [hholder] at hholds
        exact hholds
  question := fun _ hline hinside => question?_of_isInside hline hinside
  row := by
    intro line hline hmodifier
    obtain ⟨selection, hselection⟩ := selection?_of_isModifier hline hmodifier
    obtain ⟨question, hquestion, hhas⟩ := hstanding.selected selection hselection
    exact ⟨question, selection, hquestion, hselection, hhas⟩

/-- What is open is there when a run ends, be it early or not. -/
theorem serves_readAll (done : Nat) {st : State} (hstanding : st.content.Standing)
    (hshelters : st.Shelters) (lines : List Text) (raw : Text) :
    (readAll done st lines).1.Serves raw := by
  have hrun := readAll_invariant (P := fun st => st.content.Standing ∧ st.Shelters)
    (fun _ _ _ _ _ h hread => ⟨h.1.read hread, h.2.read hread⟩) done ⟨hstanding, hshelters⟩ lines
  exact serves_of_standing hrun.1 hrun.2 raw

/-- Every line that is read finds what it changes. -/
theorem serves_of_mem_steps {done : Nat} {st : State} (hstanding : st.content.Standing)
    (hshelters : st.Shelters) {lines : List Text} {step : Step}
    (h : step ∈ steps done st lines) : step.before.Serves step.raw := by
  obtain ⟨earlier, later, hsteps⟩ := List.append_of_mem h
  have hrun := steps_invariant
    (P := fun _ st _ => st.content.Standing ∧ st.Shelters)
    (fun _ _ h hread => ⟨h.1.read hread, h.2.read hread⟩) [] ⟨hstanding, hshelters⟩ hsteps
  exact serves_of_standing hrun.1.1 hrun.1.2 step.raw

end State

/-! ## Sources and commands -/

/-- Checked or not, a source fails at a line exactly if its run ends there. -/
theorem compile_eq_line {source name : Text} {isChecked : Bool} {failure : State.Failure} :
    (compile source name isChecked).result = .error (.line failure) ↔
      State.FirstFailure 0 {} (sourceLines source) failure := by
  rw [← State.readAll_eq_some, compile, compileLines]
  rcases State.readAll 0 {} (sourceLines source) with ⟨st, _ | found⟩
  · simp only
    split <;> simp
  · simp [eq_comm]

/-- **What becomes of a source.** -/
structure Outcomes (source : Text) : Prop where
  /-- It compiles, or there is a line that cannot be read. -/
  decided : ∀ name, (∃ survey, (compile source name false).result = .ok survey) ∨
    ∃ failure, (compile source name false).result = .error (.line failure)
  /-- The failure names the first line that cannot be read. -/
  first : ∀ name failure, (compile source name false).result = .error (.line failure) ↔
    State.FirstFailure 0 {} (sourceLines source) failure
  /-- The lines that are read find what they change. -/
  served : ∀ step ∈ steps 0 {} (sourceLines source), step.before.Serves step.raw
  /-- What quotes belong to that are open at the end is there. -/
  captured : ∀ capture, (State.readAll 0 {} (sourceLines source)).1.capture? = some capture →
    (State.readAll 0 {} (sourceLines source)).1.Holds capture.holder
  /-- The failure is reported, digits that make no numeral apart. -/
  reported : ∀ failure, State.FirstFailure 0 {} (sourceLines source) failure →
    (failure.fault.isReported = true ↔ ¬Unnumbered (trim failure.raw))
  /-- A reported failure ends each command with the status one and its message. -/
  commands : ∀ failure, State.FirstFailure 0 {} (sourceLines source) failure →
    ∀ read invocation, read invocation.file = some source →
      (Command.run read invocation).result
        = if failure.fault.isReported then .ok (Command.refusal failure.message)
          else .error .numeral

private theorem rejected_line (failure : State.Failure) : Command.rejected (.line failure)
    = if failure.fault.isReported then .ok (Command.refusal failure.message)
      else .error .numeral := by
  obtain ⟨line, raw, fault⟩ := failure
  cases fault <;> rfl

/-- **A source compiles, or it fails at the first line that is malformed where it
stands**, and each command tells so, unless the line writes a number in digits that
make no numeral. -/
theorem outcomes (source : Text) : Outcomes source where
  decided := by
    intro name
    rcases hrun : State.readAll 0 {} (sourceLines source) with ⟨st, _ | failure⟩
    · refine .inl ⟨st.finish.survey name, ?_⟩
      simp [compile, compileLines, hrun]
    · refine .inr ⟨failure, compile_eq_line.mpr (State.readAll_eq_some.mp ?_)⟩
      rw [hrun]
  first := fun _ _ => compile_eq_line
  served := fun _ => State.serves_of_mem_steps Content.standing_empty (.of_none rfl)
  captured :=
    (State.serves_readAll 0 Content.standing_empty (.of_none rfl) (sourceLines source) []).captured
  reported := fun _ h => h.rejects.malformed.isReported_iff
  commands := by
    intro failure h read invocation hfile
    have hresult : (compile source (Command.stem invocation.file) invocation.isChecked).result
        = .error (.line failure) := compile_eq_line.mpr h
    rw [Command.run, hfile]
    simp only [hresult]
    exact rejected_line failure

/-- A column in superscript, which is a digit but no numeral. -/
def columnSource : Text := "Q: c\nBREAKDOWN\n- A\n  - COLUMN: ²".toList

/-- A range that ends before it starts. -/
def rangeSource : Text := "Q: c\nRANGE: 9-1".toList

theorem outcomes_columnSource :
    (Command.run (fun _ => some columnSource) { verb := .check, file := [] }).result
        = .error .numeral ∧
      (Command.run (fun _ => some rangeSource) { verb := .check, file := [] }).result
        = .ok (Command.refusal
          "Line 2: Invalid RANGE: start (9) must be less than or equal to end (1)".toList) := by
  have hmessage : State.Failure.message ⟨2, "RANGE: 9-1".toList, .reversed 9 1⟩
      = "Line 2: Invalid RANGE: start (9) must be less than or equal to end (1)".toList := by
    decide +kernel
  rw [← hmessage]
  exact ⟨(outcomes columnSource).commands ⟨4, "  - COLUMN: ²".toList, .numeral ['²']⟩
      (((outcomes columnSource).first [] _).mp (by rfl)) _ _ rfl,
    (outcomes rangeSource).commands ⟨2, "RANGE: 9-1".toList, .reversed 9 1⟩
      (((outcomes rangeSource).first [] _).mp (by rfl)) _ _ rfl⟩

end Source
end Questionnaire
