import Questionnaire.Proofs.Source.Reading

/-!
# Runs over a source

What every line preserves holds at the end of a run (`readAll_invariant`), and
the questions of the survey are those of the last state, in order
(`questions_survey`).
-/

namespace Questionnaire.Source

open Text

/-! ## What every line preserves -/

namespace State

/-- **The run lemma**: what no line breaks holds when the reading ends, be it at
the end of the source or at a line that cannot be read. -/
theorem readAll_invariant {P : State → Prop}
    (hstep : ∀ number raw after st st', P st → st.read number raw after = .ok st' → P st')
    (done : Nat) {st : State} (h : P st) (lines : List Text) : P (readAll done st lines).1 := by
  induction lines generalizing done st with
  | nil => exact h
  | cons raw rest ih =>
      rw [readAll]
      split
      · exact h
      · rename_i next hnext
        exact ih (done + 1) (hstep _ _ _ _ _ h hnext)

end State

/-! ## Steps -/

/-- One line of a run: its number, the state before it, the line as it was
written, the lines behind it, and the state after it. -/
structure Step where
  /-- The number of the line. -/
  number : Nat
  /-- The state before the line. -/
  before : State
  /-- The line as it was written. -/
  raw : Text
  /-- The lines behind it. -/
  behind : List Text
  /-- The state after the line. -/
  after : State

/-- The steps of a run, up to the first line that cannot be read. -/
def steps (done : Nat) (st : State) : List Text → List Step
  | [] => []
  | raw :: rest =>
    match st.read (done + 1) raw rest with
    | .error _ => []
    | .ok next => ⟨done + 1, st, raw, rest, next⟩ :: steps (done + 1) next rest

/-- **The run lemma with a history**: what every line preserves, given the steps
before it, holds before every line of a run. -/
theorem steps_invariant {P : List Step → State → List Text → Prop}
    (hstep : ∀ past step, P past step.before (step.raw :: step.behind) →
      step.before.read step.number step.raw step.behind = .ok step.after →
      P (past ++ [step]) step.after step.behind)
    {done : Nat} (past : List Step) {earlier later : List Step} {st : State} {lines : List Text}
    {step : Step} (h : P past st lines) (hsteps : steps done st lines = earlier ++ step :: later) :
    P (past ++ earlier) step.before (step.raw :: step.behind) ∧
      step.before.read step.number step.raw step.behind = .ok step.after := by
  induction lines generalizing done past earlier st with
  | nil => simp [steps] at hsteps
  | cons raw rest ih =>
      rw [steps] at hsteps
      split at hsteps
      · simp at hsteps
      · rename_i next hnext
        cases earlier with
        | nil =>
            simp only [List.nil_append, List.cons.injEq] at hsteps
            obtain ⟨rfl, _⟩ := hsteps
            exact ⟨by simpa using h, hnext⟩
        | cons first earlier =>
            simp only [List.cons_append, List.cons.injEq] at hsteps
            obtain ⟨rfl, hrest⟩ := hsteps
            have := ih _ (hstep past ⟨done + 1, st, raw, rest, next⟩ h hnext) hrest
            simpa using this

/-- The run lemma with a history, at the end of the run. -/
theorem readAll_history {P : List Step → State → Prop}
    (hstep : ∀ past step, P past step.before →
      step.before.read step.number step.raw step.behind = .ok step.after →
      P (past ++ [step]) step.after)
    (done : Nat) {past : List Step} {st : State} (h : P past st) (lines : List Text) :
    P (past ++ steps done st lines) (State.readAll done st lines).1 := by
  induction lines generalizing done past st with
  | nil => simpa [State.readAll, steps] using h
  | cons raw rest ih =>
      rw [State.readAll, steps]
      cases hread : st.read (done + 1) raw rest with
      | error _ => simpa using h
      | ok next =>
          have hnext := ih (done + 1) (hstep past ⟨done + 1, st, raw, rest, next⟩ h hread)
          rwa [List.append_assoc] at hnext

theorem read_of_steps {done : Nat} {earlier later : List Step} {st : State} {lines : List Text}
    {step : Step} (hsteps : steps done st lines = earlier ++ step :: later) :
    step.before.read step.number step.raw step.behind = .ok step.after :=
  (steps_invariant (P := fun _ _ _ => True) (fun _ _ _ _ => trivial) [] trivial hsteps).2

theorem read_of_mem_steps {done : Nat} {st : State} {lines : List Text} {step : Step}
    (h : step ∈ steps done st lines) :
    step.before.read step.number step.raw step.behind = .ok step.after := by
  obtain ⟨earlier, later, hsteps⟩ := List.append_of_mem h
  exact read_of_steps hsteps

/-- Any step of a run with the steps before it and behind it. -/
theorem split_steps (all : List Step) (i : Fin all.length) :
    all = all.take i ++ all.get i :: all.drop (i + 1) := by
  rw [List.get_eq_getElem, ← List.drop_eq_getElem_cons, List.take_append_drop]

/-- Unless a line cannot be read, every line is a step. -/
theorem map_raw_steps {done : Nat} {st : State} {lines : List Text}
    (h : (State.readAll done st lines).2 = none) : (steps done st lines).map Step.raw = lines := by
  induction lines generalizing done st with
  | nil => rfl
  | cons raw rest ih =>
      rw [State.readAll] at h
      rw [steps]
      cases hread : st.read (done + 1) raw rest with
      | error _ =>
          rw [hread] at h
          cases h
      | ok next =>
          rw [hread] at h
          rw [List.map_cons, ih h]

/-- **The account of a run**: where every line adds its gain to what there is, the
run adds the gains of its steps in order. -/
theorem readAll_account {α : Type} {P : State → Prop} (held : State → List α)
    (gain : Step → List α) {lines : List Text}
    (hstep : ∀ step, step.raw ∈ lines → P step.before →
      step.before.read step.number step.raw step.behind = .ok step.after →
      P step.after ∧ held step.after = held step.before ++ gain step)
    (done : Nat) {st : State} (h : P st) :
    held (State.readAll done st lines).1 = held st ++ (steps done st lines).flatMap gain := by
  induction lines generalizing done st with
  | nil => simp [State.readAll, steps]
  | cons raw rest ih =>
      rw [State.readAll, steps]
      cases hread : st.read (done + 1) raw rest with
      | error _ => simp
      | ok next =>
          obtain ⟨hP, hgain⟩ := hstep ⟨done + 1, st, raw, rest, next⟩ List.mem_cons_self h hread
          rw [ih (fun step hmem => hstep step (List.mem_cons_of_mem _ hmem)) (done + 1) hP, hgain,
            List.flatMap_cons, List.append_assoc]

/-- What every line adds to is at the end what it was behind a step, and more. -/
theorem rel_of_mem_steps {R : State → State → Prop} (hrefl : ∀ st, R st st)
    (htrans : ∀ {first second third : State}, R first second → R second third → R first third)
    (hread : ∀ {number raw after st st'}, State.read number raw after st = .ok st' → R st st')
    {done : Nat} {st : State} {lines : List Text} {step : Step} (h : step ∈ steps done st lines) :
    R step.after (State.readAll done st lines).1 := by
  induction lines generalizing done st with
  | nil => cases h
  | cons raw rest ih =>
      rw [steps] at h
      split at h
      · cases h
      · rename_i next hnext
        have hrun : State.readAll done st (raw :: rest) = State.readAll (done + 1) next rest := by
          rw [State.readAll, hnext]
        rw [hrun]
        rcases List.mem_cons.mp h with rfl | h
        · exact State.readAll_invariant (P := R next)
            (fun _ _ _ _ _ hrel hread' => htrans hrel (hread hread')) (done + 1) (hrefl next) rest
        · exact ih h

/-! ## What stands at its place -/

/-- Every element of the first list is related to the one of the second list at its place. -/
def Stands {α : Type} (R : α → α → Prop) (front all : List α) : Prop :=
  ∀ (k : Nat) (x : α), front[k]? = some x → ∃ y, all[k]? = some y ∧ R x y

namespace Stands

variable {α : Type} {R : α → α → Prop} {first second third : List α}

theorem of_append (hrefl : ∀ x, R x x) (front more : List α) : Stands R front (front ++ more) :=
  fun _ x hx => ⟨x, List.getElem?_append_left (List.getElem?_eq_some_iff.mp hx).1 ▸ hx, hrefl x⟩

theorem refl (hrefl : ∀ x, R x x) (all : List α) : Stands R all all := fun _ x hx =>
  ⟨x, hx, hrefl x⟩

theorem trans (h : Stands R first second) (h' : Stands R second third)
    (htrans : ∀ {x y z : α}, R x y → R y z → R x z) : Stands R first third := by
  intro k x hx
  obtain ⟨y, hy, hxy⟩ := h k x hx
  obtain ⟨z, hz, hyz⟩ := h' k y hy
  exact ⟨z, hz, htrans hxy hyz⟩

/-- Behind elements that stay the last one may change, if there is one. -/
theorem last (hrefl : ∀ x, R x x) (front : List α) {last? next? : Option α}
    (h : ∀ x, last? = some x → ∃ y, next? = some y ∧ R x y) :
    Stands R (front ++ last?.toList) (front ++ next?.toList) := by
  intro k x hx
  rw [List.getElem?_append] at hx ⊢
  split at hx
  · rename_i hk
    exact ⟨x, by rwa [if_pos hk], hrefl x⟩
  · rename_i hk
    rw [if_neg hk]
    cases last? with
    | none => simp at hx
    | some old =>
        obtain ⟨y, rfl, hxy⟩ := h old rfl
        rw [Option.toList_some, List.getElem?_singleton, Option.ite_none_right_eq_some,
          Option.some.injEq] at hx
        obtain ⟨hk, rfl⟩ := hx
        exact ⟨y, by rw [hk]; rfl, hxy⟩

end Stands

/-! ## The questions of the survey -/

namespace State

/-- All questions of a state in order, the open one last. -/
def questions (st : State) : List Question := st.closedQuestions ++ st.question?.toList

theorem closedQuestions_finish (st : State) :
    st.finish.closedQuestions = st.closedQuestions ∨ ∃ question next, st.question? = some question ∧
      question.Becomes next ∧ st.finish.closedQuestions = st.closedQuestions ++ [next.settled] := by
  -- Open quotes are ended first, which leaves the open question what it is.
  have hclose : ∀ st' : State, Keeps st st' →
      st'.closeBlock.closedQuestions = st.closedQuestions ∨ ∃ question next,
        st.question? = some question ∧ question.Becomes next ∧
          st'.closeBlock.closedQuestions = st.closedQuestions ++ [next.settled] := by
    intro st' h
    rw [closedQuestions_closeBlock, h.closed]
    cases hquestion : st.question? with
    | none => exact .inl (by simp [h.none hquestion])
    | some question =>
        obtain ⟨next, hnext, hbecomes⟩ := h.stays question hquestion
        exact .inr ⟨question, next, rfl, hbecomes, by simp [hnext]⟩
  rw [finish]
  split
  · exact hclose st (Keeps.refl st)
  · exact hclose _ ((Keeps.warn _ _ st).trans (Keeps.endCapture _ _))

/-- At the end nothing is open, and all questions stand in the finished
blocks. -/
theorem questions_survey (name : Text) (st : State) :
    (st.finish.survey name).questions = st.finish.closedQuestions := by
  have hclose : ∀ st : State,
      st.closeBlock.blocks.flatMap Block.questions = st.closeBlock.closedQuestions := by
    intro st
    simp [closeBlock, closedQuestions, Block.questions]
  rw [Survey.questions_eq, survey, finish]
  split <;> exact hclose _

end State

/-- A survey that a source compiles to is that of its lines. -/
theorem compileLines_of_compile {source name : Text} {isChecked : Bool} {survey : Survey}
    (h : (compile source name isChecked).result = .ok survey) :
    (compileLines name (sourceLines source)).result = .ok survey := by
  simp only [compile] at h
  split at h
  · rename_i hfault
    rw [hfault] at h
    cases h
  · rename_i compiled hcompiled
    split at h
    · cases h
    · exact h

/-- The survey of a source is made of the last state of its run. -/
theorem survey_of_compileLines {name : Text} {lines : List Text} {survey : Survey}
    (h : (compileLines name lines).result = .ok survey) :
    survey = (State.readAll 0 {} lines).1.finish.survey name := by
  simp only [compileLines] at h
  split at h
  · cases h
  · rename_i st hst
    cases h
    rw [hst]

/-- All lines of a source that compiles can be read. -/
theorem failure?_of_compileLines {name : Text} {lines : List Text} {survey : Survey}
    (h : (compileLines name lines).result = .ok survey) :
    (State.readAll 0 {} lines).2 = none := by
  simp only [compileLines] at h
  split at h
  · cases h
  · rename_i st hst
    rw [hst]

/-- Whether a source gives a survey can be decided from the survey alone. -/
theorem ok_of_toOption {result : Except Rejection Survey} {survey : Survey}
    (h : result.toOption = some survey) : result = .ok survey := by
  cases result with
  | error _ => cases h
  | ok _ => rw [Option.some.inj h]

/-! ## Two compilations -/

/-- What two compilations have in common: the warnings, and the rejection or
surveys that are related. -/
structure Compilation.Agrees (R : Survey → Survey → Prop) (first second : Compilation) : Prop where
  /-- The warnings are the same. -/
  warnings : first.warnings = second.warnings
  /-- Both fail alike or none does. -/
  result : (∃ rejection, first.result = .error rejection ∧ second.result = .error rejection) ∨
    ∃ survey survey', first.result = .ok survey ∧ second.result = .ok survey' ∧ R survey survey'

namespace Compilation.Agrees

variable {R : Survey → Survey → Prop} {source source' name : Text} {isChecked : Bool}

/-- Two runs that end at the same line, if any, with states that give related
surveys. -/
theorem of_runs {lines lines' : List Text}
    (hfailure : (State.readAll 0 {} lines).2 = (State.readAll 0 {} lines').2)
    (hwarnings : (State.readAll 0 {} lines).1.warnings = (State.readAll 0 {} lines').1.warnings)
    (hfinish : (State.readAll 0 {} lines).2 = none →
      (State.readAll 0 {} lines).1.finish.warnings = (State.readAll 0 {} lines').1.finish.warnings ∧
        R ((State.readAll 0 {} lines).1.finish.survey name)
          ((State.readAll 0 {} lines').1.finish.survey name)) :
    (compileLines name lines).Agrees R (compileLines name lines') := by
  simp only [compileLines]
  generalize State.readAll 0 {} lines = run at hfailure hwarnings hfinish ⊢
  generalize State.readAll 0 {} lines' = run' at hfailure hwarnings hfinish ⊢
  obtain ⟨st, failure?⟩ := run
  obtain ⟨st', failure?'⟩ := run'
  cases hfailure
  cases failure? with
  | some failure => exact ⟨hwarnings, .inl ⟨_, rfl, rfl⟩⟩
  | none => exact ⟨(hfinish rfl).1, .inr ⟨_, _, rfl, rfl, (hfinish rfl).2⟩⟩

/-- The checks take surveys alike that have the same problems. -/
theorem check (hproblems : isChecked = true → ∀ survey survey', R survey survey' →
      Validation.problems survey = Validation.problems survey')
    (h : (compileLines name (sourceLines source)).Agrees R
      (compileLines name (sourceLines source'))) :
    (compile source name isChecked).Agrees R (compile source' name isChecked) := by
  simp only [compile]
  generalize compileLines name (sourceLines source) = first at h ⊢
  generalize compileLines name (sourceLines source') = second at h ⊢
  obtain ⟨hwarnings, ⟨rejection, hfirst, hsecond⟩ | ⟨survey, survey', hfirst, hsecond, hrel⟩⟩ := h
  · simp only [hfirst, hsecond]
    exact ⟨hwarnings, .inl ⟨rejection, hfirst, hsecond⟩⟩
  · have hgoal : Agrees R first second :=
      ⟨hwarnings, .inr ⟨survey, survey', hfirst, hsecond, hrel⟩⟩
    simp only [hfirst, hsecond]
    cases isChecked with
    | false => simpa using hgoal
    | true =>
        rw [← hproblems rfl survey survey' hrel]
        split
        · exact ⟨hwarnings, .inl ⟨_, rfl, rfl⟩⟩
        · exact hgoal

end Compilation.Agrees

/-! ## Options -/

namespace State

theorem options_settled (question : Question) : question.settled.options = question.options := by
  show question.body.settled.options = question.body.options
  cases question.body <;> rfl

theorem options_fresh (st : State) (text : Text) (after : List Text) :
    (st.fresh text after).options = [] := by
  show (Body.ofKind (kindAhead after)).options = []
  cases kindAhead after <;> rfl

theorem rows_settled (question : Question) : question.settled.rows = question.rows := by
  show question.body.settled.rows = question.body.rows
  cases question.body <;> rfl

theorem rows_fresh (st : State) (text : Text) (after : List Text) :
    (st.fresh text after).rows = [] := by
  show (Body.ofKind (kindAhead after)).rows = []
  cases kindAhead after <;> rfl

theorem kind_settled (question : Question) : question.settled.kind = question.kind := by
  show question.body.settled.kind = question.body.kind
  cases question.body <;> rfl

/-- The values of all options have no blanks around them. -/
def HasTrimmedOptions (question : Question) : Prop :=
  ∀ c ∈ question.options, trim c.value = c.value

private theorem hasTrimmedOptions_of_becomes {question next : Question}
    (h : HasTrimmedOptions question) (hbecomes : question.Becomes next) :
    HasTrimmedOptions next := by
  intro c hc
  rcases hbecomes.values c hc with hold | hnew
  · obtain ⟨d, hd, hvalue⟩ := List.mem_map.mp hold
    exact hvalue ▸ h d hd
  · exact hnew

private theorem hasTrimmedOptions_read {number : Nat} {raw : Text} {after : List Text}
    {st st' : State} (h : ∀ question ∈ st.questions, HasTrimmedOptions question)
    (hread : st.read number raw after = .ok st') :
    ∀ question ∈ st'.questions, HasTrimmedOptions question := by
  -- Settling a question does not touch its options.
  have hclosed : ∀ question ∈ st.closedQuestions ++ (st.question?.map Question.settled).toList,
      HasTrimmedOptions question := by
    intro question hmem
    rcases List.mem_append.mp hmem with hmem | hmem
    · exact h question (List.mem_append_left _ hmem)
    · obtain ⟨open', hopen, rfl⟩ := Option.map_eq_some_iff.mp (Option.mem_toList.mp hmem)
      intro c hc
      rw [options_settled] at hc
      exact h open' (List.mem_append_right _ (Option.mem_toList.mpr hopen)) c hc
  intro question hmem
  cases read_turns hread with
  | keeps hkeeps =>
      rcases List.mem_append.mp hmem with hmem | hmem
      · exact h question (List.mem_append_left _ (hkeeps.closed ▸ hmem))
      · have hnext := Option.mem_toList.mp hmem
        cases hquestion : st.question? with
        | none => simp [hkeeps.none hquestion] at hnext
        | some old =>
            obtain ⟨next, hsome, hbecomes⟩ := hkeeps.stays old hquestion
            obtain rfl : next = question := Option.some.inj (hsome.symm.trans hnext)
            refine hasTrimmedOptions_of_becomes (h old ?_) hbecomes
            exact List.mem_append_right _ (Option.mem_toList.mpr hquestion)
  | closes closed none =>
      rw [questions, none, Option.toList_none, List.append_nil, closed] at hmem
      exact hclosed question hmem
  | opens text closed fresh =>
      rw [questions, closed, fresh] at hmem
      rcases List.mem_append.mp hmem with hmem | hmem
      · exact hclosed question hmem
      · obtain rfl := List.mem_singleton.mp hmem
        simp [HasTrimmedOptions, options_fresh]

end State

/-- **The options of a compiled survey have values without blanks around
them.** -/
theorem trim_value_of_compile {source name : Text} {isChecked : Bool} {survey : Survey}
    (h : (compile source name isChecked).result = .ok survey) {question : Question}
    (hquestion : question ∈ survey.questions) {choice : Choice}
    (hchoice : choice ∈ question.options) : trim choice.value = choice.value := by
  have hrun : ∀ question ∈ (State.readAll 0 {} (sourceLines source)).1.questions,
      State.HasTrimmedOptions question :=
    State.readAll_invariant (fun _ _ _ _ _ => State.hasTrimmedOptions_read) 0
      (by simp [State.questions, State.closedQuestions, Block.questions]) _
  rw [survey_of_compileLines (compileLines_of_compile h), State.questions_survey] at hquestion
  generalize (State.readAll 0 {} (sourceLines source)).1 = st at hrun hquestion
  rcases st.closedQuestions_finish with hsame | ⟨old, next, hold, hbecomes, hmore⟩
  · exact hrun question (List.mem_append_left _ (hsame ▸ hquestion)) choice hchoice
  · rw [hmore] at hquestion
    rcases List.mem_append.mp hquestion with hmem | hmem
    · exact hrun question (List.mem_append_left _ hmem) choice hchoice
    · obtain rfl := List.mem_singleton.mp hmem
      rw [State.options_settled] at hchoice
      have hopen := hrun old (List.mem_append_right _ (Option.mem_toList.mpr hold))
      exact State.hasTrimmedOptions_of_becomes hopen hbecomes choice hchoice

end Questionnaire.Source
