import Questionnaire.Proofs.Source.Checked
import Questionnaire.Proofs.Source.Lookahead
import Questionnaire.Proofs.Source.ParallelLines
import Questionnaire.Proofs.Source.Run

/-!
# Values over several lines are opaque

The lines between open quotes and the line that closes them end up in the value
and nowhere else (`readAll_quoted`). They could still be heard by the look ahead
of a question before them; if it has ended before the quotes or takes them for
open too, they are not, and other lines in their place change the attribute that
is assigned and nothing else (`compile_opaque`).
-/

namespace Questionnaire.Source

open Text

/-! ## What lies behind a line -/

/-- Whether the line begins a question. -/
def Step.IsMarker (step : Step) : Prop :=
  (step.before.lineOf? step.raw).map Line.kind = some .question

instance (step : Step) : Decidable step.IsMarker :=
  inferInstanceAs (Decidable ((step.before.lineOf? step.raw).map Line.kind = some .question))

namespace State

/-- Of the lines behind a line only the kind of the question that they call for
counts, and only where a question begins. -/
theorem read_behind {number : Nat} {raw : Text} {after after' : List Text} {st : State}
    (h : (st.lineOf? raw).map Line.kind = some .question → kindAhead after = kindAhead after') :
    st.read number raw after = st.read number raw after' := by
  have hline : ∀ line, st.lineOf? raw = some line →
      st.readLine number line raw after = st.readLine number line raw after' := by
    intro line hline
    rw [hline] at h
    obtain ⟨kind, value⟩ := line
    cases kind with
    | question => simp only [readLine, readQuestion, h rfl]
    | _ => rfl
  cases hcapture : st.capture? with
  | some capture => rw [read_of_capture raw hcapture, read_of_capture raw hcapture]
  | none =>
      by_cases hfence : hasStart fence (trim raw) = true
      · rw [read_of_fence hcapture hfence, read_of_fence hcapture hfence]
      · rw [Bool.not_eq_true] at hfence
        cases hfenced : st.isFenced with
        | true =>
            rw [read_of_isFenced hcapture hfence hfenced,
              read_of_isFenced hcapture hfence hfenced]
        | false =>
            rw [read_of_classify hcapture hfence hfenced,
              read_of_classify hcapture hfence hfenced]
            cases hclassify : classify st.context raw with
            | error _ => rfl
            | ok line =>
                have hfound := lineOf?_eq_some.mpr ⟨hcapture, hfence, hfenced, hclassify⟩
                exact congrArg Except.ok (hline line hfound)

end State

theorem lines_of_steps {done : Nat} {st : State} {lines : List Text} {earlier later : List Step}
    {step : Step} (hsteps : steps done st lines = earlier ++ step :: later) :
    lines = earlier.map Step.raw ++ step.raw :: step.behind := by
  induction lines generalizing done st earlier with
  | nil => simp [steps] at hsteps
  | cons raw rest ih =>
      rw [steps] at hsteps
      split at hsteps
      · simp at hsteps
      · cases earlier with
        | nil =>
            simp only [List.nil_append, List.cons.injEq] at hsteps
            obtain ⟨rfl, _⟩ := hsteps
            rfl
        | cons first earlier =>
            simp only [List.cons_append, List.cons.injEq] at hsteps
            obtain ⟨rfl, hrest⟩ := hsteps
            simp only [List.map_cons, List.cons_append]
            rw [← ih hrest]

/-- **Other lines from a step on** change nothing of the run up to it, if no line before
them is read differently because of them. -/
theorem readAll_before {done : Nat} {st : State} {lines : List Text} {earlier later : List Step}
    {step : Step} (hsteps : steps done st lines = earlier ++ step :: later) {behind : List Text}
    (hread : ∀ other ∈ earlier, ∀ window, other.behind = window ++ step.raw :: step.behind →
      other.before.read other.number other.raw (window ++ behind) = .ok other.after) :
    State.readAll done st (earlier.map Step.raw ++ behind)
      = State.readAll (done + earlier.length) step.before behind := by
  induction lines generalizing done st earlier with
  | nil => simp [steps] at hsteps
  | cons raw rest ih =>
      rw [steps] at hsteps
      split at hsteps
      · simp at hsteps
      · cases earlier with
        | nil =>
            simp only [List.nil_append, List.cons.injEq] at hsteps
            obtain ⟨rfl, _⟩ := hsteps
            rfl
        | cons first earlier =>
            simp only [List.cons_append, List.cons.injEq] at hsteps
            obtain ⟨rfl, hrest⟩ := hsteps
            -- Between the first line and the new ones stand the lines up to the step.
            have hfirst := hread _ List.mem_cons_self (earlier.map Step.raw) (lines_of_steps hrest)
            rw [List.map_cons, List.cons_append, State.readAll, hfirst, List.length_cons,
              Nat.add_comm earlier.length, ← Nat.add_assoc]
            exact ih hrest fun other hother => hread other (List.mem_cons_of_mem _ hother)

theorem number_of_steps {done : Nat} {st : State} {lines : List Text} {earlier later : List Step}
    {step : Step} (hsteps : steps done st lines = earlier ++ step :: later) :
    step.number = done + earlier.length + 1 := by
  induction lines generalizing done st earlier with
  | nil => simp [steps] at hsteps
  | cons raw rest ih =>
      rw [steps] at hsteps
      split at hsteps
      · simp at hsteps
      · cases earlier with
        | nil =>
            simp only [List.nil_append, List.cons.injEq] at hsteps
            obtain ⟨rfl, _⟩ := hsteps
            rfl
        | cons first earlier =>
            simp only [List.cons_append, List.cons.injEq] at hsteps
            rw [ih hsteps.2, List.length_cons]
            omega

/-- **Other lines behind a step** change nothing of the run up to it, if no line
of it is read differently because of them. -/
theorem readAll_of_steps {done : Nat} {st : State} {lines : List Text}
    {earlier later : List Step} {step : Step}
    (hsteps : steps done st lines = earlier ++ step :: later) {behind : List Text}
    (hread : ∀ other ∈ earlier ++ [step], ∀ window, other.behind = window ++ step.behind →
      other.before.read other.number other.raw (window ++ behind) = .ok other.after) :
    State.readAll done st (earlier.map Step.raw ++ step.raw :: behind)
      = State.readAll step.number step.after behind := by
  have hlast := hread step (by simp) [] rfl
  rw [List.nil_append] at hlast
  rw [readAll_before hsteps fun other hother window hwindow => ?_]
  · rw [State.readAll, ← number_of_steps hsteps, hlast]
  · have hother' := hread other (List.mem_append_left _ hother) (window ++ [step.raw])
      (by simp [hwindow])
    rwa [List.append_assoc] at hother'

/-! ## Inside the quotes -/

/-- The capture once the quotes are closed: its lines, those inside the quotes, and
what stands before the quotes on the line that closes them. -/
def Capture.closedBy (capture : Capture) (inside : List Text) (closing : Text) : Capture :=
  let before := (trimRight closing).take ((trimRight closing).length - quotes.length)
  { capture with
    lines := capture.lines ++ inside ++ if isBlankText before then [] else [before] }

namespace State

theorem endCapture_of_capture (st : State) (capture? : Option Capture) (capture : Capture) :
    { st with capture? := capture? }.endCapture capture = st.endCapture capture := by
  obtain ⟨holder, aspect, line, lines⟩ := capture
  -- The value goes where the capture says, which is never to the capture of the state.
  cases holder <;> cases aspect <;> rfl

/-- A line that closes the quotes. -/
theorem readQuoted_of_hasEnd {raw : Text} (h : hasEnd quotes (trim raw) = true) (capture : Capture)
    (st : State) : st.readQuoted capture raw = st.endCapture (capture.closedBy [] raw) := by
  simp only [readQuoted, h, if_true, Capture.closedBy, List.append_nil]
  split <;> simp

/-- A line that leaves the quotes open. -/
theorem readQuoted_of_not_hasEnd {raw : Text} (h : hasEnd quotes (trim raw) = false)
    (capture : Capture) (st : State) : st.readQuoted capture raw
      = { st with capture? := some { capture with lines := capture.lines ++ [raw] } } := by
  rw [readQuoted, h, if_neg Bool.false_ne_true]

end State

/-- **The lines inside quotes go into the value**, whatever they are. -/
theorem readAll_quoted {inside : List Text} {closing : Text}
    (hinside : ∀ line ∈ inside, hasEnd quotes (trim line) = false)
    (hclosing : hasEnd quotes (trim closing) = true) {st : State} {capture : Capture}
    (hcapture : st.capture? = some capture) (done : Nat) (rest : List Text) :
    State.readAll done st (inside ++ closing :: rest)
      = State.readAll (done + inside.length + 1)
          (st.endCapture (capture.closedBy inside closing)) rest := by
  induction inside generalizing done st capture with
  | nil =>
      rw [List.nil_append, State.readAll, State.read_of_capture closing hcapture,
        State.readQuoted_of_hasEnd hclosing]
      rfl
  | cons raw inside ih =>
      have hraw := hinside raw List.mem_cons_self
      rw [List.cons_append, State.readAll, State.read_of_capture raw hcapture,
        State.readQuoted_of_not_hasEnd hraw]
      dsimp only
      rw [ih (fun line h => hinside line (List.mem_cons_of_mem _ h)) rfl,
        State.endCapture_of_capture]
      simp [Capture.closedBy, Nat.add_assoc, Nat.add_comm 1]

/-- **A look ahead that takes the quotes for open hears nothing inside them.** -/
theorem lookAhead_quoted {inside : List Text} {closing : Text}
    (hinside : ∀ line ∈ inside, hasEnd quotes (trim line) = false)
    (hclosing : hasEnd quotes (trim closing) = true) (signals : Signals) (rest : List Text) :
    lookAhead .quoted signals (inside ++ closing :: rest) = lookAhead .nothing signals rest := by
  induction inside with
  | nil => simp [lookAhead, hclosing]
  | cons raw inside ih =>
      have hraw := hinside raw List.mem_cons_self
      simp only [List.cons_append, lookAhead, hraw]
      exact ih fun line h => hinside line (List.mem_cons_of_mem _ h)

/-- **A look ahead that takes the quotes for closed hears what stands inside
them**, unless it has heard the strongest word already: one line there makes the
question a breakdown, and another one does not. -/
theorem kindAhead_of_unseen {window : List Text}
    (hmode : lookMode .nothing window = some .nothing)
    (hword : .breakdown ∉ (lookAhead .nothing {} window).words) (rest : List Text) :
    kindAhead (window ++ "BREAKDOWN".toList :: rest) = .breakdown ∧
      kindAhead (window ++ "#".toList :: rest) ≠ .breakdown := by
  rw [kindAhead, kindAhead, lookAhead_append hmode, lookAhead_append hmode]
  constructor
  · rw [lookAhead_of_isHeard (by decide)]
    have hfound : InputWord.ofText? (trim "BREAKDOWN".toList) = some .breakdown := by decide
    have hheard := (Signals.Within.lookAhead .nothing
      ((lookAhead .nothing {} window).add (trim "BREAKDOWN".toList)) rest).words
      (Signals.words_add hfound _ ▸ List.mem_cons_self)
    rw [Signals.kind, if_pos (List.contains_iff_mem.mpr hheard)]
  · have hends : lookStep .nothing "#".toList = none := by decide
    rw [lookAhead_cons, hends, Signals.kind, if_neg (by simpa using hword)]
    -- No kind but the first one tried is a breakdown.
    repeat' split
    all_goals exact fun h => by cases h

/-! ## Two sources -/

/-- The lines from behind one step up to another one, the line of the latter
included. -/
def Step.window (marker opening : Step) : List Text :=
  marker.behind.take (marker.behind.length - opening.behind.length)

/-- The look ahead of every question that begins before has ended before the
quotes, or takes them for open. -/
def Step.IsSeen (earlier : List Step) (opening : Step) : Prop :=
  ∀ marker ∈ earlier, marker.IsMarker →
    lookMode .nothing (marker.window opening) = none ∨
      lookMode .nothing (marker.window opening) = some .quoted

instance (earlier : List Step) (opening : Step) : Decidable (opening.IsSeen earlier) :=
  inferInstanceAs (Decidable (∀ marker ∈ earlier, marker.IsMarker →
    lookMode .nothing (marker.window opening) = none ∨
      lookMode .nothing (marker.window opening) = some .quoted))

/-- A value that is read over several lines of a source. -/
structure IsQuoted (lines : List Text) (earlier : List Step) (opening : Step) (capture : Capture)
    (inside : List Text) (closing : Text) (rest : List Text) : Prop where
  /-- The line that opens the quotes is reached. -/
  reached : ∃ later, steps 0 {} lines = earlier ++ opening :: later
  /-- It stands outside of quotes. -/
  before : opening.before.capture? = none
  /-- It opens them. -/
  after : opening.after.capture? = some capture
  /-- The lines behind it. -/
  behind : opening.behind = inside ++ closing :: rest
  /-- No line inside closes the quotes. -/
  keepsOpen : ∀ line ∈ inside, hasEnd quotes (trim line) = false
  /-- The last line does. -/
  closed : hasEnd quotes (trim closing) = true

/-- What two compilations have in common that differ in one attribute: the
warnings, and the fault, the problems or the survey, which is an edit apart. -/
structure Compilation.Apart (edit : Edit) (holder : Holder) (first second : Compilation) :
    Prop where
  /-- The warnings are the same. -/
  warnings : first.warnings = second.warnings
  /-- Both fail alike or none does. -/
  result : (∃ rejection, first.result = .error rejection ∧ second.result = .error rejection) ∨
    ∃ survey survey', first.result = .ok survey ∧ second.result = .ok survey' ∧
      survey.Apart edit holder survey'

theorem Compilation.Apart.of_states {edit : Edit} {holder : Holder} {name : Text}
    {lines lines' : List Text}
    (hfailure : (State.readAll 0 {} lines).2 = (State.readAll 0 {} lines').2)
    (h : State.Apart edit holder (State.readAll 0 {} lines).1 (State.readAll 0 {} lines').1) :
    (compileLines name lines).Apart edit holder (compileLines name lines') :=
  have hagrees := Agrees.of_runs (R := Survey.Apart edit holder) hfailure h.warnings_eq fun _ =>
    ⟨h.finish.warnings_eq, h.finish.survey name⟩
  ⟨hagrees.warnings, hagrees.result⟩

/-- The checks take both alike, unless they read the attribute. -/
theorem Compilation.Apart.check {edit : Edit} {holder : Holder} {source source' name : Text}
    {isChecked : Bool} (haspect : isChecked = true → edit.aspect ≠ .showIf)
    (h : (compileLines name (sourceLines source)).Apart edit holder
      (compileLines name (sourceLines source'))) :
    (compile source name isChecked).Apart edit holder (compile source' name isChecked) :=
  have hagrees := Agrees.check (fun hchecked _ _ hapart => hapart.problems_eq (haspect hchecked))
    ⟨h.warnings, h.result⟩
  ⟨hagrees.warnings, hagrees.result⟩

/-- A look ahead that is over or takes the quotes for open calls for the same kind
whatever stands inside them. -/
private theorem kindAhead_inside {window inside inside' rest : List Text} {closing : Text}
    (hseen : lookMode .nothing window = none ∨ lookMode .nothing window = some .quoted)
    (hinside : ∀ line ∈ inside, hasEnd quotes (trim line) = false)
    (hinside' : ∀ line ∈ inside', hasEnd quotes (trim line) = false)
    (hclosing : hasEnd quotes (trim closing) = true) :
    kindAhead (window ++ (inside ++ closing :: rest))
      = kindAhead (window ++ (inside' ++ closing :: rest)) := by
  rw [kindAhead, kindAhead]
  rcases hseen with hnone | hquoted
  · rw [lookAhead_append_of_none hnone, lookAhead_append_of_none hnone]
  · rw [lookAhead_append hquoted, lookAhead_append hquoted, lookAhead_quoted hinside hclosing,
      lookAhead_quoted hinside' hclosing]

/-- No line opens quotes that begins a question. -/
private theorem Step.not_isMarker_of_opens {step : Step} {capture : Capture}
    (hread : step.before.read step.number step.raw step.behind = .ok step.after)
    (hbefore : step.before.capture? = none) (hafter : step.after.capture? = some capture) :
    ¬ step.IsMarker := by
  intro hmarker
  obtain ⟨line, hline, hkind⟩ := Option.map_eq_some_iff.mp hmarker
  rw [State.read_of_lineOf? hline] at hread
  have hquiet : (step.before.readLine step.number line step.raw step.behind).capture?
      = step.before.capture? := by
    simp only [State.readLine, hkind, State.readQuestion, State.ensurePage,
      State.capture?_closeText, State.capture?_closeQuestion]
  rw [Except.ok.inj hread, hafter, hbefore] at hquiet
  cases hquiet

/-- **A value over several lines is opaque** as long as every look ahead that has
not ended before it takes its quotes for open: other lines in the quotes change the
attribute that the value is assigned to, which becomes what those lines make of it,
and nothing else. With the checks on this holds of hints and tooltips; a condition is
what the checks read. -/
theorem compile_opaque {source source' name : Text} {isChecked : Bool} {earlier : List Step}
    {opening : Step} {capture : Capture} {inside inside' rest : List Text} {closing : Text}
    (h : IsQuoted (sourceLines source) earlier opening capture inside closing rest)
    (hsource' : sourceLines source'
      = earlier.map Step.raw ++ opening.raw :: (inside' ++ closing :: rest))
    (hlength : inside'.length = inside.length)
    (hinside' : ∀ line ∈ inside', hasEnd quotes (trim line) = false)
    (hseen : opening.IsSeen earlier)
    (hchecked : isChecked = true → capture.aspect ≠ .showIf) :
    (compile source name isChecked).Apart
      ⟨capture.aspect, (capture.closedBy inside closing).value,
        (capture.closedBy inside' closing).value⟩ capture.holder
      (compile source' name isChecked) := by
  obtain ⟨⟨later, hsteps⟩, hbefore, hafter, hbehind, hinside, hclosing⟩ := h
  -- Up to the line that opens the quotes both runs are the same.
  have hprefix : ∀ {other : List Text}, (∀ line ∈ other, hasEnd quotes (trim line) = false) →
      State.readAll 0 {} (earlier.map Step.raw ++ opening.raw :: (other ++ closing :: rest))
        = State.readAll opening.number opening.after (other ++ closing :: rest) := by
    intro other hother
    refine readAll_of_steps hsteps fun step hstep window hwindow => ?_
    have hmem : step ∈ steps 0 {} (sourceLines source) := by
      rw [hsteps, List.append_cons]
      exact List.mem_append_left _ hstep
    rw [← read_of_mem_steps hmem]
    refine State.read_behind fun hquestion => ?_
    rcases List.mem_append.mp hstep with hmem | hmem
    · have htake : step.window opening = window := by
        simp [Step.window, hwindow]
      rw [hwindow, hbehind]
      exact (kindAhead_inside (htake ▸ hseen step hmem hquestion) hinside hother hclosing).symm
    · exact absurd (List.mem_singleton.mp hmem ▸ hquestion)
        (Step.not_isMarker_of_opens (read_of_steps hsteps) hbefore hafter)
  have hsource : sourceLines source
      = earlier.map Step.raw ++ opening.raw :: (inside ++ closing :: rest) := by
    rw [lines_of_steps hsteps, hbehind]
  refine Compilation.Apart.check hchecked ?_
  -- Behind the line that closes them the states are an edit apart.
  have hwritten := ((State.Apart.ofWrite capture.holder ⟨capture.aspect,
    (capture.closedBy inside closing).value, (capture.closedBy inside' closing).value⟩
    opening.after).setCapture none).readAll (opening.number + inside.length + 1) rest
  have hrun : State.readAll 0 {} (sourceLines source) = State.readAll
      (opening.number + inside.length + 1)
      (opening.after.endCapture (capture.closedBy inside closing)) rest := by
    rw [hsource, hprefix hinside, readAll_quoted hinside hclosing hafter]
  have hrun' : State.readAll 0 {} (sourceLines source') = State.readAll
      (opening.number + inside.length + 1)
      (opening.after.endCapture (capture.closedBy inside' closing)) rest := by
    rw [hsource', hprefix hinside', readAll_quoted hinside' hclosing hafter, hlength]
  refine Compilation.Apart.of_states ?_ ?_
  · rw [hrun, hrun']
    exact hwritten.1
  · rw [hrun, hrun']
    exact hwritten.2

/-- A hint over several lines that holds a word for a kind of input. -/
def hintSource : Text := "Q: Rate\nHINT: \"\"\"\nNUMBER\n\"\"\"\n- Good".toList

/-- The same with another word in the hint. -/
def hintSource' : Text := "Q: Rate\nHINT: \"\"\"\nBREAKDOWN\n\"\"\"\n- Good".toList

/-- The steps over `hintSource`. -/
def hintSteps : List Step := steps 0 {} (sourceLines hintSource)

/-- The step that opens the quotes. -/
def hintStep : Step := hintSteps.get ⟨1, by decide +kernel⟩

theorem isQuoted_hintSource : IsQuoted (sourceLines hintSource) (hintSteps.take 1) hintStep
    ⟨.question, .hint, 2, []⟩ ["NUMBER".toList] quotes ["- Good".toList] where
  reached := ⟨_, split_steps hintSteps ⟨1, by decide +kernel⟩⟩
  before := by decide +kernel
  after := by decide +kernel
  behind := by decide +kernel
  keepsOpen := by decide +kernel
  closed := by decide +kernel

theorem compile_opaque_hint :
    (compile hintSource [] true).Apart ⟨.hint, "NUMBER".toList, "BREAKDOWN".toList⟩ .question
      (compile hintSource' [] true) :=
  compile_opaque isQuoted_hintSource
    (show sourceLines hintSource' = (hintSteps.take 1).map Step.raw
      ++ hintStep.raw :: (["BREAKDOWN".toList] ++ quotes :: ["- Good".toList]) by decide +kernel)
    rfl (by decide +kernel) (by decide +kernel) (by decide +kernel)

end Questionnaire.Source
