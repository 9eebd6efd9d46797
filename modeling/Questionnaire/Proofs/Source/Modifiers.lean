import Questionnaire.Proofs.Source.Opaque
import Questionnaire.Proofs.Source.Rows

/-!
# Modifiers and their rows

A modifier changes the last row that the nearest line before it made, of the
lines that made rows of the question at all, and no other row; quotes that it
opens are written to that row (`under_of_modifies`). The lines between the two
are none that make rows: a line for a row that is ignored, or that labels a row
of a matrix, leaves the modifier to an older row.
-/

namespace Questionnaire

open Text Source

namespace Source

/-! ## Steps that make rows -/

/-- The step makes rows of the question, which is `created` behind it. -/
inductive Step.Creates (step : Step) (created : Question) : Selection → Prop where
  /-- The line stands for options. -/
  | options {question : Question} {line : Line} {added : List Choice}
      (hquestion : step.before.question? = some question)
      (hline : step.before.lineOf? step.raw = some line)
      (hadded : added.map Choice.bare = line.choices question.kind) (hsome : added ≠ [])
      (hafter : step.after.question? = some created)
      (hcreated : created.options = question.options ++ added) : Creates step created .option
  /-- The line is a row of a matrix. -/
  | row {question : Question} {line : Line} (hquestion : step.before.question? = some question)
      (hline : step.before.lineOf? step.raw = some line) (hrow : line.IsRowOf question)
      (hafter : step.after.question? = some created)
      (hcreated : created.rows = question.rows ++ [line.row question]) : Creates step created .row

/-- The question with the identifier is open, and the line of the step stands for none
of its rows. -/
def Step.Spares (id : Text) (step : Step) : Prop :=
  ∃ question, step.before.question? = some question ∧ question.id = id ∧
    ∀ line, step.before.lineOf? step.raw = some line →
      line.choices question.kind = [] ∧ line.rowTexts question.kind = []

/-- **The selected row of the question is the last one that some line made**, and no
line since then has made rows of the question. -/
inductive Under (past : List Step) (question : Question) (selection : Selection) : Prop where
  | intro {earlier between : List Step} {made : Step} {created : Question}
      (hpast : past = earlier ++ made :: between) (hcreates : made.Creates created selection)
      (hid : created.id = question.id) (hspares : ∀ step ∈ between, step.Spares question.id)
      (hoptions : question.options.map Choice.bare = created.options.map Choice.bare)
      (hrows : question.rows.map Row.bare = created.rows.map Row.bare) :
      Under past question selection

/-- One more line that makes no rows. -/
theorem Under.extend {past : List Step} {question next : Question} {selection : Selection}
    {step : Step} (h : Under past question selection) (hspares : step.Spares question.id)
    (hid : next.id = question.id)
    (hoptions : next.options.map Choice.bare = question.options.map Choice.bare)
    (hrows : next.rows.map Row.bare = question.rows.map Row.bare) :
    Under (past ++ [step]) next selection := by
  obtain ⟨hpast, hcreates, hcreated, hbetween, hsame, hsame'⟩ := h
  refine ⟨by rw [hpast, List.append_assoc, List.cons_append], hcreates, hcreated.trans hid.symm,
    fun other hother => ?_, hoptions.trans hsame, hrows.trans hsame'⟩
  rw [hid]
  rcases List.mem_append.mp hother with hother | hother
  · exact hbetween other hother
  · exact List.mem_singleton.mp hother ▸ hspares

theorem Under.alike {past : List Step} {question next : Question} {selection : Selection}
    {step : Step} (h : Under past question selection) (hspares : step.Spares question.id)
    (halike : question.Alike next) : Under (past ++ [step]) next selection :=
  h.extend hspares halike.id halike.options halike.rows

/-- A line that leaves the rows what they are stands for none. -/
theorem Effect.spares {line : Line} {question next : Question}
    {selection? selection?' : Option Selection} {capture? : Option Capture} {cause? : Option Cause}
    (h : Effect line question selection? next selection?' capture? cause?)
    (halike : question.Alike next) :
    line.choices question.kind = [] ∧ line.rowTexts question.kind = [] :=
  ⟨List.self_eq_append_right.mp ((tally_options.alike halike).symm.trans (tally_options.effect h)),
    List.self_eq_append_right.mp ((tally_rows.alike halike).symm.trans (tally_rows.effect h))⟩

/-! ## The selected row throughout a run -/

theorem Content.Standing.selected?_eq {held : Content} (h : held.Standing) {question : Question}
    {selection : Selection} (hquestion : held.question? = some question)
    (hselection : held.selection? = some selection) :
    question.selected? held.selection? = some selection := by
  obtain ⟨other, hother, hhas⟩ := h.selected selection hselection
  obtain rfl := Option.some.inj (hquestion.symm.trans hother)
  rw [hselection]
  cases selection with
  | option => exact Question.selected?_option rfl hhas
  | row =>
      have hrow : question.rows ≠ [] := hhas
      rw [Question.selected?, if_pos ⟨rfl, hrow⟩]

/-- What is known of the selected row behind the steps of a run. -/
structure Placed (past : List Step) (held : Content) : Prop where
  /-- What is open at the same time. -/
  standing : held.Standing
  /-- The selected row is the last one that was made. -/
  under : ∀ question selection, held.question? = some question →
    held.selection? = some selection → Under past question selection
  /-- Quotes that are open for a row are open for the selected one. -/
  quoted : ∀ capture (selection : Selection), held.capture? = some capture →
    capture.holder = selection.holder → held.selection? = some selection

namespace Placed

variable {past : List Step} {step : Step}

/-- Where no row is selected and no quotes are open there is nothing to know. -/
theorem of_none {held : Content} (hstanding : held.Standing) (hselection : held.selection? = none)
    (hquoted : ∀ capture (selection : Selection), held.capture? = some capture →
      capture.holder ≠ selection.holder) : Placed past held :=
  ⟨hstanding, fun _ _ _ hsome => (nomatch hselection.symm.trans hsome),
    fun capture selection hcapture hholder => absurd hholder (hquoted capture selection hcapture)⟩

/-- A line inside a question. -/
private theorem effect (h : Placed past step.before.content) {next : Content} {line : Line}
    {question changed : Question} {selection? : Option Selection} {capture? : Option Capture}
    {cause? : Option Cause} (hline : step.before.lineOf? step.raw = some line)
    (hquestion : step.before.question? = some question)
    (heffect : Effect line question step.before.selection? changed selection? capture? cause?)
    (hafter : step.after.question? = some changed) (hstanding : next.Standing)
    (hnext : next.question? = some changed) (hselection : next.selection? = selection?)
    (hcapture : next.capture? = capture?) : Placed (past ++ [step]) next := by
  refine ⟨hstanding, fun other selection hother hsome => ?_, fun capture selection hopen hholder => ?_⟩
  · obtain rfl := Option.some.inj (hnext.symm.trans hother)
    rw [hselection] at hsome
    rcases heffect.alike_or_makes with ⟨halike, hsame⟩ | ⟨added, hadded, hne, rfl, hmade, _⟩ |
      ⟨hrow, rfl, hmade, _⟩
    · have hspares : step.Spares question.id := by
        refine ⟨question, hquestion, rfl, fun other hother => ?_⟩
        obtain rfl := Option.some.inj (hline.symm.trans hother)
        exact heffect.spares halike
      exact (h.under question selection hquestion (hsame.symm.trans hsome)).alike hspares halike
    · obtain rfl := Option.some.inj (hmade.symm.trans hsome)
      refine ⟨rfl, .options hquestion hline hadded hne hafter ?_, rfl, fun _ hnone => (nomatch hnone),
        rfl, rfl⟩
      exact Question.options_mapOptions _ _ (Line.takesOptions_of_added hadded hne)
    · obtain rfl := Option.some.inj (hmade.symm.trans hsome)
      refine ⟨rfl, .row hquestion hline hrow hafter ?_, rfl, fun _ hnone => (nomatch hnone), rfl, rfl⟩
      exact Question.rows_mapRows _ _ hrow.2
  · rw [hcapture] at hopen
    rw [hselection]
    cases heffect with
    | quotes hquotes _ _ =>
        -- Quotes for the question are for no row of it.
        obtain rfl := Option.some.inj hopen
        rw [hquotes] at hholder
        cases selection <;> cases hholder
    | amendsQuoted hmodifier hselected hquotes =>
        obtain rfl := Option.some.inj hopen
        obtain ⟨selected, hselected'⟩ := State.selection?_of_isModifier hline hmodifier
        have hsame := h.standing.selected?_eq hquestion hselected'
        obtain rfl := Option.some.inj (hselected.symm.trans hsame)
        rw [hselected', Selection.holder_injective (hquotes.symm.trans hholder)]
    | _ => cases hopen

/-- **Every line preserves what is known of the selected row.** -/
theorem takes (h : Placed past step.before.content)
    (htakes : step.before.Takes step.number step.raw step.behind step.after.content) :
    Placed (past ++ [step]) step.after.content := by
  have hstanding := h.standing.takes htakes
  generalize hnext : step.after.content = next at htakes hstanding
  -- Inside quotes a line stands for no rows.
  have hspares : ∀ {question}, step.before.question? = some question →
      (∀ line, step.before.lineOf? step.raw = some line → line.kind.isRow = false) →
        step.Spares question.id := by
    intro question hquestion hother
    refine ⟨question, hquestion, rfl, fun line hline => ?_⟩
    exact ⟨Line.choices_of_not_isRow (hother line hline) _,
      Line.rowTexts_of_not_isRow (hother line hline) _⟩
  cases htakes with
  | quoted hcapture hholder =>
      refine ⟨hstanding, fun question selection hquestion hselection => ?_, ?_⟩
      · exact (h.under question selection hquestion hselection).alike
          (hspares hquestion (by simp [State.lineOf?, hcapture])) (.refl question)
      · intro capture selection hopen hsame
        obtain rfl := Option.some.inj hopen
        exact h.quoted _ selection hcapture (hholder.symm.trans hsame)
  | unquoted hcapture hholder =>
      refine ⟨hstanding, fun question selection hopen hselection => ?_,
        fun _ _ hopen => by cases hopen⟩
      obtain ⟨old, hquestion, rfl⟩ := Option.map_eq_some_iff.mp hopen
      exact (h.under old selection hquestion hselection).alike
        (hspares hquestion (by simp [State.lineOf?, hcapture])) (.putAt _ _ _ old)
  | @continued question htext hquestion hfence =>
      refine ⟨hstanding, fun next selection hopen hselection => ?_, fun _ _ hopen => ?_⟩
      · obtain rfl := Option.some.inj hopen
        exact (h.under question selection hquestion hselection).extend
          (hspares hquestion fun line hline => by rw [htext.2 line hline]; rfl) rfl rfl rfl
      · cases htext.1.symm.trans hopen
  | said htext =>
      refine of_none hstanding (hstanding.selection (Content.question?_closeQuestion _))
        fun _ _ hopen => ?_
      cases ((Content.capture?_closeQuestion step.before.content).trans htext.1).symm.trans hopen
  | divided hline _ _ =>
      have hcapture := (State.lineOf?_eq_some.mp hline).1
      refine of_none hstanding (hstanding.selection (Content.question?_closeQuestion _))
        fun _ _ hopen => ?_
      cases ((Content.capture?_closeQuestion _).trans hcapture).symm.trans hopen
  | asked hline _ =>
      have hcapture := (State.lineOf?_eq_some.mp hline).1
      have hsettled := h.standing.quiet.settle hcapture
      refine of_none hstanding (hsettled.selection (Content.question?_closeQuestion _))
        fun _ _ hopen => ?_
      cases ((Content.capture?_closeQuestion _).trans hcapture).symm.trans hopen
  | spaced hline _ hquestion =>
      refine of_none hstanding (hstanding.selection hquestion) fun _ _ hopen => ?_
      cases (State.lineOf?_eq_some.mp hline).1.symm.trans hopen
  | noted _ _ _ hquestion content hcontent capture? hholder =>
      have hnone : content.question? = none := by
        rcases hcontent with rfl | rfl
        · exact hquestion
        · exact Content.question?_closeQuestion _
      refine of_none hstanding (hstanding.selection hnone) fun capture selection hopen hsame => ?_
      -- What the quotes belong to is a container.
      rcases hholder capture hopen with hother | hother | hother <;> rw [hother] at hsame <;>
        cases selection <;> cases hsame
  | inside hline hkind htext hquestion heffect =>
      have hafter : step.after.question? = some _ := congrArg Content.question? hnext
      exact h.effect hline hquestion heffect hafter hstanding rfl rfl rfl

/-- What is known of the selected row before any line of a run. -/
theorem of_steps {lines : List Text} {past later : List Step} {step : Step}
    (hsteps : steps 0 {} lines = past ++ step :: later) : Placed past step.before.content := by
  have hstart : Placed [] (State.content {}) :=
    of_none Content.standing_empty rfl fun _ _ hopen => (nomatch hopen)
  have hrun := steps_invariant (P := fun past st _ => Placed past st.content)
    (fun past step h hread => h.takes (State.read_takes hread)) [] hstart hsteps
  exact hrun.1

end Placed

/-! ## Modifiers -/

/-- Whether the step is one that changes a row: a modifier, or a line in quotes that
belong to a row. -/
def Step.Modifies (step : Step) : Prop :=
  (∃ line, step.before.lineOf? step.raw = some line ∧ line.kind.isModifier = true) ∨
    ∃ (capture : Capture) (selection : Selection),
      step.before.capture? = some capture ∧ capture.holder = selection.holder

/-- The value of the open quotes, if the line closes them. -/
def Capture.value? (capture : Capture) (raw : Text) : Option Text :=
  if hasEnd quotes (trim raw) then some (capture.closedBy [] raw).value else none

/-- The attribute that the step gives to a row. -/
def Step.aspect? (step : Step) : Option Aspect :=
  match step.before.capture? with
  | some capture => some capture.aspect
  | none => (step.before.lineOf? step.raw).bind Line.aspect?

/-- What the step writes to a row; nothing yet while quotes are open. -/
def Step.amendment? (step : Step) : Option Amendment :=
  match step.before.capture? with
  | some capture => (capture.value? step.raw).map (Amendment.aspect capture.aspect)
  | none => (step.before.lineOf? step.raw).bind Line.amendment?

/-- **What comes of a modifier**: the last row of the selected kind is amended by what the
modifier writes and no other row is, or quotes are opened or stay open for that row, or the
modifier is noticed, as the row does not take what it writes. -/
inductive Step.Modification (step : Step) (question : Question) (selection : Selection) :
    Prop where
  /-- What is written goes to the last row of the kind. -/
  | changes {amendment : Amendment} (hwrites : step.amendment? = some amendment)
      (hsuits : amendment.suits selection question.kind = true)
      (hafter : step.after.question? = some (question.amend selection amendment))
      (hwarnings : step.after.warnings = step.before.warnings)
  /-- Quotes are open for the last row of the kind. -/
  | quotes {capture : Capture} (hwrites : step.amendment? = none)
      (hafter : step.after.question? = some question)
      (hcapture : step.after.capture? = some capture) (hholder : capture.holder = selection.holder)
      (haspect : step.aspect? = some capture.aspect)
      (hwarnings : step.after.warnings = step.before.warnings)
  /-- The row does not take what is written, which is noticed once. -/
  | notices {amendment : Amendment} (cause : Cause) (hwrites : step.amendment? = some amendment)
      (hsuits : amendment.suits selection question.kind = false)
      (hafter : step.after.question? = some question)
      (hwarnings : step.after.warnings = step.before.warnings ++ [⟨step.number, cause⟩])

/-- A modifier below the selected row. -/
private theorem modification_of_isModifier {step : Step} {line : Line} {question : Question}
    {selection : Selection} (hstanding : step.before.content.Standing)
    (htakes : step.before.Takes step.number step.raw step.behind step.after.content)
    (hquestion : step.before.question? = some question)
    (hselection : step.before.selection? = some selection)
    (hline : step.before.lineOf? step.raw = some line) (hmodifier : line.kind.isModifier = true) :
    step.Modification question selection := by
  obtain ⟨next, selection?, capture?, cause?, heffect, hnext, hcapture, hwarnings⟩ :=
    htakes.effect_of_isOfRows hquestion hline (by simp [LineKind.isOfRows, hmodifier])
  have hopen : step.after.question? = some next := hnext
  have hquiet : cause? = none → step.after.warnings = step.before.warnings := by
    rintro rfl
    exact hwarnings.trans (List.append_nil _)
  have hnone := (State.lineOf?_eq_some.mp hline).1
  have hwrites : step.amendment? = line.amendment? := by
    rw [Step.amendment?, hnone, hline, Option.bind_some]
  have hrow := LineKind.isRow_of_isModifier hmodifier
  have hselected := hstanding.selected?_eq hquestion hselection
  cases heffect with
  | sets _ _ hother | quotes _ _ hother =>
      rw [hmodifier] at hother
      cases hother
  | ignored cause _ _ _ hunfit =>
      obtain ⟨amendment, hsome, hsuits⟩ := hunfit hmodifier selection hselected
      exact .notices cause (hwrites.trans hsome) hsuits hopen hwarnings
  | options hadded hsome _ =>
      rw [Line.choices_of_not_isRow hrow] at hadded
      exact absurd (List.map_eq_nil_iff.mp hadded) hsome
  | row hmatrix =>
      rw [hmatrix.1] at hrow
      cases hrow
  | labels hlabel =>
      rw [LineKind.isRow_of_isSubtotal hlabel.1] at hrow
      cases hrow
  | amends _ hsame hsome hsuits =>
      obtain rfl := Option.some.inj (hsame.symm.trans hselected)
      exact .changes (hwrites.trans hsome) hsuits hopen (hquiet rfl)
  | amendsQuoted _ hsame hholder haspect hsome =>
      obtain rfl := Option.some.inj (hsame.symm.trans hselected)
      have hgiven : step.aspect? = line.aspect? := by
        rw [Step.aspect?, hnone, hline, Option.bind_some]
      exact .quotes (hwrites.trans hsome) hopen hcapture hholder (hgiven.trans haspect) (hquiet rfl)

/-- A line in quotes that belong to a row. -/
private theorem modification_of_capture {step : Step} {capture : Capture} {question : Question}
    {selection : Selection}
    (hread : step.before.read step.number step.raw step.behind = .ok step.after)
    (hquestion : step.before.question? = some question)
    (hcapture : step.before.capture? = some capture) (hholder : capture.holder = selection.holder) :
    step.Modification question selection := by
  rw [State.read_of_capture _ hcapture, Except.ok.injEq] at hread
  have haspect : step.aspect? = some capture.aspect := by rw [Step.aspect?, hcapture]
  cases hend : hasEnd quotes (trim step.raw) with
  | false =>
      rw [State.readQuoted_of_not_hasEnd hend] at hread
      have hwrites : step.amendment? = none := by
        simp only [Step.amendment?, hcapture, Capture.value?, hend]
        rfl
      have hnext : step.after.capture?
          = some { capture with lines := capture.lines ++ [step.raw] } := by rw [← hread]
      exact .quotes hwrites (by rw [← hread]; exact hquestion) hnext hholder haspect
        (by rw [← hread])
  | true =>
      rw [State.readQuoted_of_hasEnd hend] at hread
      have hwrites : step.amendment?
          = some (.aspect capture.aspect (capture.closedBy [] step.raw).value) := by
        simp only [Step.amendment?, hcapture, Capture.value?, hend]
        rfl
      have hcontent := (congrArg State.content hread.symm).trans
        (State.content_endCapture step.before (capture.closedBy [] step.raw))
      refine .changes hwrites rfl ?_ (congrArg Content.warnings hcontent)
      have hafter : step.after.question? = step.before.question?.map _ :=
        congrArg Content.question? hcontent
      rw [hafter, hquestion, Question.amend_aspect, ← hholder]
      rfl

/-- **A modifier belongs to the last row that a line before it made**: of the lines of
the question those behind that line stand for no rows, and the modifier, with the
quotes that it opens, changes that row and no other or is noticed. -/
theorem under_of_modifies {source : Text} {past later : List Step} {step : Step}
    {question : Question} (hsteps : steps 0 {} (sourceLines source) = past ++ step :: later)
    (hquestion : step.before.question? = some question) (hmodifies : step.Modifies) :
    ∃ selection, Under past question selection ∧ step.Modification question selection := by
  have hplaced := Placed.of_steps hsteps
  have htakes := State.read_takes (read_of_steps hsteps)
  rcases hmodifies with ⟨line, hline, hmodifier⟩ | ⟨capture, selection, hcapture, hholder⟩
  · obtain ⟨selection, hselection⟩ := State.selection?_of_isModifier hline hmodifier
    exact ⟨selection, hplaced.under question selection hquestion hselection,
      modification_of_isModifier hplaced.standing htakes hquestion hselection hline hmodifier⟩
  · have hselection := hplaced.quoted capture selection hcapture hholder
    exact ⟨selection, hplaced.under question selection hquestion hselection,
      modification_of_capture (read_of_steps hsteps) hquestion hcapture hholder⟩

/-- A hint below the second of two options. -/
def belowSource : Text := "Q: a\n- A\n- B\n  - HINT: x".toList

/-- The steps over `belowSource`. -/
def belowSteps : List Step := steps 0 {} (sourceLines belowSource)

/-- The step that reads the hint. -/
def belowStep : Step := belowSteps.get ⟨3, by decide +kernel⟩

/-- The question before the hint. -/
def belowQuestion : Question := belowStep.before.question?.getD default

theorem under_of_modifies_hint :
    ∃ selection, Under (belowSteps.take 3) belowQuestion selection ∧
      belowStep.Modification belowQuestion selection :=
  under_of_modifies (split_steps belowSteps ⟨3, by decide +kernel⟩) (by decide +kernel)
    (.inl ⟨⟨.modifier .hint, "x".toList⟩, by decide +kernel, rfl⟩)

end Source
end Questionnaire
