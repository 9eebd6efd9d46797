import Questionnaire.Proofs.Source.Lookahead
import Questionnaire.Proofs.Source.Run
import Questionnaire.Proofs.Text.Cut

/-!
# The kind of a question and its lines

The kind of a question is settled by the look ahead before its lines are read.
The two scanners keep step (`Tracked`) as long as they take every line of the
question alike: a number sign in the question begins a marker, and what looks
like open quotes is. Then no line signals a stronger kind than the question has
(`rank_signal_le`).
-/

namespace Questionnaire.Source

open Text

/-- The kind of questions that a line signals. A checkbox signals none: it is one
only where there is something to check. -/
def LineKind.signal? : LineKind → Option QuestionKind
  | .input .checkbox => none
  | .input word => some word.kind
  | .matrixRow => some .matrix
  | _ => none

theorem isDivider_of_signal? {kind : LineKind} {signal : QuestionKind}
    (h : kind.signal? = some signal) : kind.isDivider = false := by
  cases kind <;> first | rfl | cases h

/-- The mode in which a look ahead is that keeps step with the reading. -/
def State.mode (st : State) : Skipping := if st.capture?.isSome then .quoted else .nothing

namespace Step

/-- The line is looked at with the question open, outside of quotes. -/
def Concerns (step : Step) (id : Text) : Prop :=
  step.before.question?.map Question.id = some id ∧ step.before.capture? = none

instance (step : Step) (id : Text) : Decidable (step.Concerns id) := inferInstanceAs
  (Decidable (step.before.question?.map Question.id = some id ∧ step.before.capture? = none))

/-- Reading and looking ahead take the line alike. -/
structure IsTakenAlike (step : Step) : Prop where
  /-- A number sign begins a marker. -/
  sign : hasStart ['#'] (trim step.raw) = true →
    isPageMarker (trim step.raw) = true ∨ isSectionMarker (trim step.raw) = true
  /-- Quotes that look open are opened. -/
  quotes : opensQuotes (trim step.raw) = step.after.capture?.isSome

theorem isTakenAlike_iff {step : Step} : step.IsTakenAlike ↔
    (hasStart ['#'] (trim step.raw) = true →
      isPageMarker (trim step.raw) = true ∨ isSectionMarker (trim step.raw) = true) ∧
    opensQuotes (trim step.raw) = step.after.capture?.isSome :=
  ⟨fun h => ⟨h.sign, h.quotes⟩, fun h => ⟨h.1, h.2⟩⟩

instance (step : Step) : Decidable step.IsTakenAlike := decidable_of_iff' _ isTakenAlike_iff

/-- The step opens the question that the identifier belongs to, with the kind
that lies ahead. -/
def Begins (step : Step) (question : Question) : Prop :=
  ∃ text, step.after.question? = some (step.before.fresh text step.behind) ∧
    question.id = (step.before.fresh text step.behind).id ∧
    question.kind = kindAhead step.behind

end Step

namespace State

theorem kind_fresh (st : State) (text : Text) (after : List Text) :
    (st.fresh text after).kind = kindAhead after := by
  show (Body.ofKind (kindAhead after)).kind = kindAhead after
  cases kindAhead after <;> rfl

/-- The steps so far account for the open question: one of them began it, and
the look ahead from there has come to the same place in the same mode. -/
structure Tracked (past : List Step) (st : State) (rest : List Text) : Prop where
  /-- No fence is open in a question. -/
  unfenced : st.question?.isSome = true → st.isFenced = false
  /-- The lines are lines. -/
  feeds : ∀ line ∈ rest, '\n' ∉ line
  /-- The step that began the question, and the lines since. -/
  begun : ∀ question, st.question? = some question → ∃ marker ∈ past, ∃ window,
    marker.Begins question ∧ marker.behind = window ++ rest ∧
      ((∀ step ∈ past, step.Concerns question.id → step.IsTakenAlike) →
        lookMode .nothing window = some st.mode)

theorem Tracked.not_mem_trim {past : List Step} {st : State} {raw : Text} {rest : List Text}
    (h : Tracked past st (raw :: rest)) : '\n' ∉ trim raw := by
  obtain ⟨before, after, hsplit, _⟩ := trim_spec raw
  intro hmem
  exact h.feeds raw List.mem_cons_self (hsplit ▸ by simp [hmem])

private theorem tracked_fresh {past : List Step} {step : Step} {text : Text}
    (hfresh : step.after.question? = some (step.before.fresh text step.behind))
    (hcapture : step.after.capture? = none) {question : Question}
    (hquestion : step.after.question? = some question) :
    ∃ marker ∈ past ++ [step], ∃ window, marker.Begins question ∧
      marker.behind = window ++ step.behind ∧
        ((∀ other ∈ past ++ [step], other.Concerns question.id → other.IsTakenAlike) →
          lookMode .nothing window = some step.after.mode) := by
  obtain rfl : step.before.fresh text step.behind = question :=
    Option.some.inj (hfresh.symm.trans hquestion)
  refine ⟨step, by simp, [], ⟨text, hfresh, rfl, kind_fresh _ _ _⟩, rfl, fun _ => ?_⟩
  simp [lookMode, mode, hcapture]

/-- The look ahead and the reading of one line. -/
private theorem lookStep_mode {step : Step} {question : Question}
    (hread : step.before.read step.number step.raw step.behind = .ok step.after)
    (hunfenced : step.before.isFenced = false) (hfeed : '\n' ∉ trim step.raw)
    (hquestion : step.after.question? = some question)
    (hdivider : ∀ line, step.before.lineOf? step.raw = some line → line.kind.isDivider = false)
    (halike : step.before.capture? = none → step.IsTakenAlike) :
    lookStep step.before.mode step.raw = some step.after.mode := by
  cases hcapture : step.before.capture? with
  | some capture =>
      rw [read, hcapture] at hread
      have hafter := (Except.ok.inj hread).symm
      rw [readQuoted] at hafter
      by_cases hend : hasEnd quotes (trim step.raw) = true
      · simp [lookStep, mode, hcapture, hafter, hend, endCapture]
      · simp [lookStep, mode, hcapture, hafter, hend]
  | none =>
      -- Neither a fence nor an end may pass here, since the question stays open.
      obtain ⟨hsign, hquotes⟩ := halike hcapture
      have hfence : hasStart fence (trim step.raw) = false := by
        cases hfence : hasStart fence (trim step.raw) with
        | false => rfl
        | true =>
            -- The line of a fence closes the question.
            simp only [read, hcapture, hfence, if_true, hunfenced, Bool.not_false,
              Except.ok.injEq] at hread
            rw [← hread, readText_of_isFenced _ rfl] at hquestion
            exact absurd hquestion (by simp)
      have hends : endsQuestion (trim step.raw) = false := by
        cases hends : endsQuestion (trim step.raw) with
        | false => rfl
        | true =>
            cases hclassify : classify step.before.context step.raw with
            | error _ => simp [read, hcapture, hfence, hunfenced, hclassify, Except.map] at hread
            | ok line =>
                have hdivides := isDivider_of_endsQuestion hclassify hfeed hsign hends
                have hline := lineOf?_eq_some.mpr ⟨hcapture, hfence, hunfenced, hclassify⟩
                rw [hdivider line hline] at hdivides
                cases hdivides
      simp only [lookStep, mode, hcapture, hfence, hends, hquotes]
      cases step.after.capture? <;> rfl

private theorem tracked_step {past : List Step} {step : Step}
    (h : Tracked past step.before (step.raw :: step.behind))
    (hread : step.before.read step.number step.raw step.behind = .ok step.after) :
    Tracked (past ++ [step]) step.after step.behind := by
  refine ⟨?_, fun line hline => h.feeds line (List.mem_cons_of_mem _ hline), ?_⟩
  · intro hopen
    cases read_turns hread with
    | closes _ hnone => simp [hnone] at hopen
    | opens _ _ _ hquiet => exact hquiet.1
    | keeps hkeeps =>
        refine hkeeps.fence (h.unfenced ?_)
        cases hbefore : step.before.question? with
        | none => simp [hkeeps.none hbefore] at hopen
        | some old => rfl
  · intro question hquestion
    cases read_turns hread with
    | closes _ hnone => simp [hnone] at hquestion
    | opens text _ hfresh hquiet => exact tracked_fresh hfresh hquiet.2 hquestion
    | keeps hkeeps =>
        cases hbefore : step.before.question? with
        | none => simp [hkeeps.none hbefore] at hquestion
        | some old =>
            obtain ⟨next, hnext, hbecomes⟩ := hkeeps.stays old hbefore
            obtain rfl : next = question := Option.some.inj (hnext.symm.trans hquestion)
            by_cases hdivider : ∃ line, step.before.lineOf? step.raw = some line ∧
                line.kind.isDivider = true
            · obtain ⟨line, hline, hdivides⟩ := hdivider
              have hafter := Except.ok.inj (hread.symm.trans (read_of_lineOf? hline _ _))
              -- Behind a divider the open question is a new one, and its look ahead starts here.
              rcases question?_of_isDivider step.number step.raw step.behind step.before hdivides
                with
                hnone | ⟨⟨text, hfresh⟩, hcapture⟩
              · rw [← hafter] at hnone
                simp [hnone] at hquestion
              · rw [← hafter] at hfresh hcapture
                exact tracked_fresh hfresh (hcapture.trans (lineOf?_eq_some.mp hline).1) hquestion
            · obtain ⟨marker, hmarker, window, hbegins, hwindow, hmode⟩ := h.begun old hbefore
              -- The line goes to the end of the window, and the mode takes one step more.
              refine ⟨marker, List.mem_append_left _ hmarker, window ++ [step.raw], ?_,
                by simp [hwindow], fun halike => ?_⟩
              · obtain ⟨text, hfresh, hid, hkind⟩ := hbegins
                exact ⟨text, hfresh, hbecomes.id.trans hid, hbecomes.kind.trans hkind⟩
              · rw [hbecomes.id] at halike
                rw [lookMode_concat, hmode fun s hs => halike s (List.mem_append_left _ hs),
                  Option.bind_some]
                refine lookStep_mode hread (h.unfenced (by simp [hbefore])) h.not_mem_trim
                  hquestion ?_ ?_
                · intro line hline
                  simpa using fun hdivides => hdivider ⟨line, hline, hdivides⟩
                · exact fun hcapture => halike step (by simp) ⟨by simp [hbefore], hcapture⟩

/-- Before every line of a run the steps so far account for the open
question. -/
theorem tracked_of_steps {lines : List Text} (hfeeds : ∀ line ∈ lines, '\n' ∉ line)
    {earlier later : List Step} {step : Step}
    (hsteps : steps 0 {} lines = earlier ++ step :: later) :
    Tracked earlier step.before (step.raw :: step.behind) := by
  have hstart : Tracked [] {} lines := ⟨by simp, hfeeds, by simp⟩
  simpa using (steps_invariant (fun _ _ => tracked_step) [] hstart hsteps).1

/-- A line that signals a kind opens no quotes. -/
private theorem capture?_of_signal? {st : State} {line : Line} {signal : QuestionKind}
    (hsignal : line.kind.signal? = some signal) (number : Nat) (raw : Text)
    (after : List Text) : (st.readLine number line raw after).capture? = st.capture? := by
  obtain ⟨kind, value⟩ := line
  cases kind with
  | input word =>
      cases hquestion : st.question? with
      | none => simp [readLine, hquestion]
      | some question =>
          simp only [readLine, hquestion, readInside, readInput]
          split
          · rfl
          · split <;> rfl
  | matrixRow =>
      cases hquestion : st.question? with
      | none => simp [readLine, hquestion]
      | some question =>
          simp only [readLine, hquestion, readInside, readMatrixRow]
          split <;> rfl
  | _ => cases hsignal

/-- A matrix takes in its rows. -/
private theorem rows_readMatrixRow {st : State} {question : Question}
    (hquestion : st.question? = some question) (hkind : question.kind = .matrix) {line : Line}
    (hrow : line.kind = .matrixRow) (number : Nat) (raw : Text) (after : List Text) :
    ∃ next row, (st.readLine number line raw after).question? = some next ∧
      next.rows = question.rows ++ [row] ∧ row.text = line.value := by
  cases hbody : question.body with
  | matrix rows options input =>
      let row : Row :=
        { id := question.id ++ '_' :: Decimal.writeNat (rows.length + 1), text := line.value }
      refine ⟨{ question with body := .matrix (rows ++ [row]) options input }, row, ?_, ?_, rfl⟩
      · simp [readLine, hrow, hquestion, readInside, readMatrixRow, hbody, mapBody, mapQuestion,
          Body.mapRows, row]
      · simp [Question.rows, hbody, Body.rows]
  | choice many options => cases many <;> simp [Question.kind, hbody, Body.kind] at hkind
  | text long => cases long <;> simp [Question.kind, hbody, Body.kind] at hkind
  | _ => simp [Question.kind, hbody, Body.kind] at hkind

/-- The look ahead takes a line for the signal that it is. -/
private theorem heard_of_signal? {line : Line} {raw : Text} {signal : QuestionKind}
    (hfits : line.kind.Fits (trim raw)) (hsignal : line.kind.signal? = some signal)
    (signals : Signals) :
    ∀ more, (signals.add (trim raw)).Within more → signal.rank ≤ more.kind.rank := by
  intro more hmore
  obtain ⟨kind, value⟩ := line
  cases kind with
  | input word =>
      have hword : word ∈ (signals.add (trim raw)).words := by
        rw [Signals.words_add hfits]
        exact List.mem_cons_self
      have hkind : word.kind = signal := by
        cases word <;> cases hsignal <;> rfl
      exact hkind ▸ rank_le_of_word (hmore.words hword)
  | matrixRow =>
      cases hsignal
      have hrow : isMatrixRow (trim raw) = true := hfits
      refine rank_le_of_rows (hmore.rows ?_)
      have hnone : InputWord.ofText? (trim raw) = none := by
        cases hfound : InputWord.ofText? (trim raw) with
        | none => rfl
        | some word =>
            have hspelling : word.spelling = trim raw := by simpa using List.find?_some hfound
            rw [← hspelling] at hrow
            cases word <;> exact absurd hrow (by decide)
      simp [Signals.add, hnone, hrow]
  | _ => cases hsignal

end State

/-- **No line signals a stronger kind than its question has**, if reading and
looking ahead take all lines of the question up to it alike; and a row of a
matrix is taken in unless the question is a breakdown. -/
theorem rank_signal_le {source : Text} {earlier later : List Step} {step : Step}
    (hsteps : steps 0 {} (sourceLines source) = earlier ++ step :: later) {question : Question}
    (hquestion : step.before.question? = some question) {line : Line}
    (hline : step.before.lineOf? step.raw = some line) {signal : QuestionKind}
    (hsignal : line.kind.signal? = some signal)
    (halike : ∀ other ∈ earlier ++ [step], other.Concerns question.id → other.IsTakenAlike) :
    (∃ marker ∈ earlier, marker.Begins question) ∧ signal.rank ≤ question.kind.rank ∧
      (line.kind = .matrixRow → question.kind ≠ .breakdown → ∃ next row,
        step.after.question? = some next ∧ next.rows = question.rows ++ [row] ∧
          row.text = line.value) := by
  have hread := read_of_steps hsteps
  have htracked := State.tracked_of_steps (fun _ => not_mem_of_mem_lines) hsteps
  obtain ⟨hcapture, hfence, hunfenced, hclassify⟩ := State.lineOf?_eq_some.mp hline
  have hafter := Except.ok.inj (hread.symm.trans (State.read_of_lineOf? hline _ _))
  obtain ⟨marker, hmarker, window, hbegins, hwindow, hmode⟩ := htracked.begun question hquestion
  obtain ⟨hsign, hquotes⟩ := halike step (by simp) ⟨by simp [hquestion], hcapture⟩
  have hseen : lookMode .nothing window = some .nothing := by
    rw [hmode fun other hother => halike other (List.mem_append_left _ hother), State.mode,
      hcapture]
    rfl
  have hheard : isHeard .nothing step.raw = true := by
    have hopens : opensQuotes (trim step.raw) = false := by
      rw [hquotes, hafter, State.capture?_of_signal? hsignal, hcapture]
      rfl
    have hends : endsQuestion (trim step.raw) = false := by
      cases hends : endsQuestion (trim step.raw) with
      | false => rfl
      | true =>
          have hfeed := htracked.not_mem_trim
          have hdivides := isDivider_of_endsQuestion hclassify hfeed hsign hends
          rw [isDivider_of_signal? hsignal] at hdivides
          cases hdivides
    simp [isHeard, hfence, hends, hopens]
  -- The question got its kind from signals that hold the one of this line.
  have hrank : signal.rank ≤ question.kind.rank := by
    obtain ⟨_, _, _, hkind⟩ := hbegins
    rw [hkind, kindAhead, hwindow, lookAhead_append hseen, lookAhead_of_isHeard hheard]
    exact State.heard_of_signal? (classify_spec hclassify).2 hsignal
      (lookAhead .nothing {} window) _ (Signals.Within.lookAhead _ _ _)
  refine ⟨⟨marker, hmarker, hbegins⟩, hrank, fun hrow hbreakdown => ?_⟩
  have hkind : question.kind = .matrix := by
    rw [hrow] at hsignal
    cases hsignal
    revert hrank hbreakdown
    cases question.kind <;> decide
  exact hafter ▸ State.rows_readMatrixRow hquestion hkind hrow step.number step.raw step.behind

/-- A matrix with a hint over several lines, in which a word stands that signals
nothing. -/
def foodSource : Text := "Q: Rate\nHINT: \"\"\"\nTEXT\n\"\"\"\n- Q: Food".toList

/-- The steps over `foodSource`. -/
def foodSteps : List Step := steps 0 {} (sourceLines foodSource)

/-- The step over the row of the matrix. -/
def foodStep : Step := foodSteps.get ⟨4, by decide +kernel⟩

/-- The question of `foodSource` before its row is read. -/
def foodQuestion : Question :=
  { id := "Q1".toList, text := "Rate".toList, hint := some "TEXT".toList
    body := .matrix [] [] none }

theorem rank_signal_le_food :
    (∃ marker ∈ foodSteps.take 4, marker.Begins foodQuestion) ∧
      QuestionKind.matrix.rank ≤ foodQuestion.kind.rank ∧
      (LineKind.matrixRow = .matrixRow → foodQuestion.kind ≠ .breakdown → ∃ next row,
        foodStep.after.question? = some next ∧ next.rows = foodQuestion.rows ++ [row] ∧
          row.text = "Food".toList) :=
  rank_signal_le (split_steps foodSteps ⟨4, by decide +kernel⟩) (by decide +kernel)
    (show foodStep.before.lineOf? foodStep.raw = some ⟨.matrixRow, "Food".toList⟩ by decide +kernel)
    rfl (by decide +kernel)

end Questionnaire.Source
