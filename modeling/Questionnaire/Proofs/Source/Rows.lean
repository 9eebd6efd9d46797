import Questionnaire.Proofs.Source.Growth
import Questionnaire.Proofs.Source.Standing

/-!
# Rows are conserved

The options of a question are those that the lines read inside it stand for, in
order, and the rows of a matrix likewise (`Conserved`). A tally is a list that
such lines add to and nothing else changes, and a run adds up its tallies
(`Tally.gather_run`). A line for a row that adds none labels the last row of a
matrix, or is noticed once (`Step.RowOutcome`).
-/

namespace Questionnaire

open Text Decimal Source

namespace Source

/-! ## What lines add to a question -/

/-- The texts of the rows that a line stands for in a question of the kind. -/
def Line.rowTexts (kind : QuestionKind) (line : Line) : List Text :=
  if line.kind = .matrixRow ∧ kind = .matrix then [line.value] else []

/-- The line of a step as it is read inside the question with the identifier. -/
def Step.lineIn? (id : Text) (step : Step) : Option Line :=
  if step.before.question?.map Question.id = some id then step.before.lineOf? step.raw else none

/-- What a step adds to the question with the identifier. -/
def Step.gain {α : Type} (gain : QuestionKind → Line → List α) (id : Text) (step : Step) :
    List α :=
  match step.before.question?, step.lineIn? id with
  | some question, some line => gain question.kind line
  | _, _ => []

/-- **A tally**: a list about a question that is empty at first, to which a line
inside the question adds what it stands for, and that nothing else changes. -/
structure Tally {α : Type} (tally : Question → List α) (gain : QuestionKind → Line → List α) :
    Prop where
  /-- At first there is nothing. -/
  fresh : ∀ (st : State) (text : Text) (after : List Text), tally (st.fresh text after) = []
  /-- Settling the question changes nothing. -/
  settled : ∀ question, tally question.settled = tally question
  /-- Its text plays no part. -/
  text : ∀ question text, tally { question with text } = tally question
  /-- Neither do attributes. -/
  alike : ∀ {old new : Question}, old.Alike new → tally new = tally old
  /-- Only lines for rows add something. -/
  other : ∀ {line : Line} {kind : QuestionKind}, line.kind.isRow = false → gain kind line = []
  /-- A line inside the question adds what it stands for. -/
  effect : ∀ {line : Line} {question next : Question} {selection? selection?' : Option Selection}
    {capture? : Option Capture} {cause? : Option Cause},
    Effect line question selection? next selection?' capture? cause? →
      tally next = tally question ++ gain question.kind line

namespace Content

/-- The tallies of the questions with the identifier. -/
def gather {α : Type} (tally : Question → List α) (id : Text) (held : Content) : List α :=
  (held.questions.filter fun question => question.id = id).flatMap tally

end Content

/-! ## One line -/

/-- A line that is no row adds nothing. -/
theorem Tally.gain_eq_nil {α : Type} {tally : Question → List α}
    {gain : QuestionKind → Line → List α} (h : Tally tally gain) {step : Step}
    (hother : ∀ line, step.before.lineOf? step.raw = some line → line.kind.isRow = false)
    (id : Text) : step.gain gain id = [] := by
  rw [Step.gain]
  split
  · rename_i question line _ hline
    rw [Step.lineIn?] at hline
    split at hline
    · exact h.other (hother line hline)
    · cases hline
  · rfl

namespace Tally

variable {α : Type} {tally : Question → List α} {gain : QuestionKind → Line → List α}

theorem gather_of_question? {held : Content} {question : Question}
    (h : held.question? = some question) (id : Text) : held.gather tally id
      = { held with question? := none }.gather tally id
        ++ if question.id = id then tally question else [] := by
  by_cases hid : question.id = id <;> simp [Content.gather, Content.questions, h, hid]

theorem gather_closeQuestion (h : Tally tally gain) (id : Text) (held : Content) :
    held.closeQuestion.gather tally id = held.gather tally id := by
  rw [Content.gather, Content.questions_closeQuestion]
  cases hquestion : held.question? with
  | none => simp [Content.gather, Content.questions, hquestion]
  | some question =>
      have hid : question.settled.id = question.id := rfl
      by_cases hsame : question.id = id <;>
        simp [Content.gather, Content.questions, hquestion, hid, hsame, h.settled]

theorem gather_settle (h : Tally tally gain) (id : Text) (held : Content) :
    held.settle.gather tally id = held.gather tally id := by
  rw [← h.gather_closeQuestion id held, Content.gather, Content.questions_settle]
  rfl

/-- Another open question with the same identifier and tally. -/
theorem gather_congr {held : Content} {question next : Question}
    (hquestion : held.question? = some question) (htally : tally next = tally question)
    (hid : next.id = question.id) (id : Text) :
    { held with question? := some next }.gather tally id = held.gather tally id := by
  rw [gather_of_question? rfl, gather_of_question? hquestion, hid, htally]

theorem gather_unquoted (h : Tally tally gain) (id : Text) (held : Content) :
    held.unquoted.gather tally id = held.gather tally id := by
  rw [Content.unquoted]
  cases held.capture? with
  | none => rfl
  | some capture =>
      cases hquestion : held.question? with
      | none => simp [Content.gather, Content.questions, hquestion]
      | some question =>
          have halike := Question.Alike.putAt capture.holder capture.aspect capture.value question
          exact gather_congr hquestion (h.alike halike) halike.id id

/-- **Every line adds what it stands for**, and nothing else changes the tally. -/
theorem gather_takes (h : Tally tally gain) {step : Step}
    (hread : step.before.read step.number step.raw step.behind = .ok step.after) (id : Text) :
    step.after.content.gather tally id
      = step.before.content.gather tally id ++ step.gain gain id := by
  have htakes := State.read_takes hread
  generalize step.after.content = next at htakes
  cases htakes with
  | quoted hcapture _ =>
      rw [h.gain_eq_nil (by simp [State.lineOf?, hcapture]), List.append_nil]
      rfl
  | unquoted hcapture _ =>
      rw [h.gain_eq_nil (by simp [State.lineOf?, hcapture]), List.append_nil, h.gather_unquoted]
      rfl
  | @continued question htext hquestion _ =>
      rw [h.gain_eq_nil fun line hline => by rw [htext.2 line hline]; rfl, List.append_nil]
      have hasked : step.before.content.question? = some question := hquestion
      exact gather_congr hasked (h.text question (question.text ++ '\n' :: trim step.raw)) rfl id
  | said htext =>
      rw [h.gain_eq_nil fun line hline => by rw [htext.2 line hline]; rfl, List.append_nil]
      exact h.gather_closeQuestion id step.before.content
  | @divided line hline hkind _ =>
      rw [h.gain_eq_nil fun other hother => by
        obtain rfl := Option.some.inj (hline.symm.trans hother)
        exact LineKind.isRow_of_isDivider hkind, List.append_nil, h.gather_settle]
      rfl
  | @asked line hline hkind =>
      rw [h.gain_eq_nil fun other hother => by
        obtain rfl := Option.some.inj (hline.symm.trans hother)
        rw [hkind]
        rfl, List.append_nil]
      -- The new question has nothing yet.
      refine Eq.trans ?_ (h.gather_settle id { step.before.content with textOpen := false })
      have hfresh := h.fresh step.before line.value step.behind
      by_cases hid : (step.before.fresh line.value step.behind).id = id <;>
        simp [Content.gather, Content.questions, Content.settle, hid, hfresh]
  | @spaced line hline hkind _ =>
      rw [h.gain_eq_nil fun other hother => by
        obtain rfl := Option.some.inj (hline.symm.trans hother)
        rw [hkind]
        rfl, List.append_nil]
      rfl
  | @noted line hline _ _ hquestion content hcontent capture? _ =>
      have hnone : step.gain gain id = [] := by simp [Step.gain, hquestion]
      rw [hnone, List.append_nil]
      rcases hcontent with rfl | rfl
      · rfl
      · exact h.gather_settle id { step.before.content with textOpen := false }
  | @inside line question next _ _ _ hline _ _ hquestion heffect =>
      have hstays := heffect.stays
      have hgain : step.gain gain id
          = if question.id = id then gain question.kind line else [] := by
        by_cases hid : question.id = id <;> simp [Step.gain, Step.lineIn?, hquestion, hline, hid]
      have hasked : step.before.content.question? = some question := hquestion
      rw [gather_of_question? rfl, gather_of_question? hasked,
        hstays.1, h.effect heffect, hgain, List.append_assoc]
      split <;> simp [Content.gather, Content.questions]

/-- **A run adds up its tallies.** -/
theorem gather_run (h : Tally tally gain) (id : Text) (lines : List Text) :
    (State.readAll 0 {} lines).1.content.gather tally id
      = (steps 0 {} lines).flatMap (Step.gain gain id) :=
  readAll_account (P := fun _ => True) (fun st => st.content.gather tally id) _
    (fun _ _ _ hread => ⟨trivial, h.gather_takes hread id⟩) 0 trivial

end Tally

/-! ## Options and rows -/

/-- **The options of a question are a tally.** -/
theorem tally_options :
    Tally (fun question => question.options.map Choice.bare) (fun kind line => line.choices kind) where
  fresh := fun st text after => by rw [State.options_fresh, List.map_nil]
  settled := fun question => by rw [State.options_settled]
  text := fun _ _ => rfl
  alike := fun h => h.options
  other := fun h => Line.choices_of_not_isRow h _
  effect := by
    intro line question next selection? selection?' capture? cause? heffect
    have hmodifier : line.kind.isModifier = true → line.choices question.kind = [] :=
      fun h => Line.choices_of_not_isRow (LineKind.isRow_of_isModifier h) _
    cases heffect with
    | sets hnext hrow _ => rw [hnext.options, Line.choices_of_not_isRow hrow, List.append_nil]
    | quotes _ hrow _ => rw [Line.choices_of_not_isRow hrow, List.append_nil]
    | ignored _ hchoices _ _ _ => rw [hchoices, List.append_nil]
    | options hadded hsome _ =>
        have htakes := Line.takesOptions_of_added hadded hsome
        rw [Question.options_mapOptions _ _ htakes, List.map_append, hadded]
    | row hrow =>
        have hnone : line.choices question.kind = [] := by rw [Line.choices, hrow.1]
        rw [Question.options_mapRows, hnone, List.append_nil]
    | labels hlabel =>
        have hnone : line.choices question.kind = [] := by
          rw [Line.choices_of_isSubtotal hlabel.1, if_neg (by simp [hlabel.2.1])]
        rw [Question.options_mapRows, hnone, List.append_nil]
    | @amends selection amendment hkind _ _ _ =>
        rw [(Question.Alike.amend selection amendment question).options, hmodifier hkind,
          List.append_nil]
    | amendsQuoted hkind _ _ _ _ => rw [hmodifier hkind, List.append_nil]

theorem Line.rowTexts_of_not_isRow {line : Line} (h : line.kind.isRow = false)
    (kind : QuestionKind) : line.rowTexts kind = [] := by
  refine if_neg fun hrow => ?_
  rw [hrow.1] at h
  cases h

private theorem texts_of_alike {old new : Question} (h : old.Alike new) :
    new.rows.map Row.text = old.rows.map Row.text := by
  have htexts := congrArg (List.map Row.text) h.rows
  rw [List.map_map, List.map_map] at htexts
  exact htexts

/-- **The texts of the rows of a matrix are a tally.** -/
theorem tally_rows :
    Tally (fun question => question.rows.map Row.text) (fun kind line => line.rowTexts kind) where
  fresh := fun st text after => by rw [State.rows_fresh, List.map_nil]
  settled := fun question => by rw [State.rows_settled]
  text := fun _ _ => rfl
  alike := texts_of_alike
  other := fun h => Line.rowTexts_of_not_isRow h _
  effect := by
    intro line question next selection? selection?' capture? cause? heffect
    have hmodifier : line.kind.isModifier = true → line.rowTexts question.kind = [] :=
      fun h => Line.rowTexts_of_not_isRow (LineKind.isRow_of_isModifier h) _
    cases heffect with
    | sets hnext hrow _ => rw [hnext.rows, Line.rowTexts_of_not_isRow hrow, List.append_nil]
    | quotes _ hrow _ => rw [Line.rowTexts_of_not_isRow hrow, List.append_nil]
    | ignored _ _ hrow _ _ =>
        have hnone : line.rowTexts question.kind = [] := if_neg hrow
        rw [hnone, List.append_nil]
    | options hadded hsome _ =>
        -- A row of a matrix stands for no options.
        have hnone : line.rowTexts question.kind = [] := by
          refine if_neg fun hrow => hsome ?_
          rw [Line.choices, hrow.1] at hadded
          exact List.map_eq_nil_iff.mp hadded
        rw [Question.rows_mapOptions, hnone, List.append_nil]
    | row hrow =>
        have htext : line.rowTexts question.kind = [line.value] := if_pos hrow
        rw [Question.rows_mapRows _ _ hrow.2, List.map_append, htext]
        rfl
    | labels hlabel =>
        have hnone : line.rowTexts question.kind = [] := by
          refine if_neg fun hrow => ?_
          have hsubtotal := hlabel.1
          rw [hrow.1] at hsubtotal
          cases hsubtotal
        rw [texts_of_alike (.labels line.value question), hnone, List.append_nil]
    | amends hkind _ _ _ =>
        rw [texts_of_alike (.amend _ _ question), hmodifier hkind, List.append_nil]
    | amendsQuoted hkind _ _ _ _ => rw [hmodifier hkind, List.append_nil]

end Source

/-! ## Names that count -/

/-- The rows of a matrix and the separators of a breakdown are called by their
positions. -/
structure Question.Numbered (question : Question) : Prop where
  /-- Rows are numbered from one on. -/
  rows : question.rows.map Row.id
    = (List.range question.rows.length).map fun n => question.id ++ '_' :: writeNat (n + 1)
  /-- Separators have the number of options before them. -/
  separators : ∀ i choice, question.options[i]? = some choice → isSet choice.separator = true →
    choice.value = "separator-".toList ++ writeNat i

namespace Question.Numbered

theorem fresh (st : State) (text : Text) (after : List Text) :
    (st.fresh text after).Numbered where
  rows := by rw [State.rows_fresh]; rfl
  separators := fun i choice hchoice => by
    rw [State.options_fresh] at hchoice
    cases hchoice

theorem alike {old new : Question} (h : old.Numbered) (halike : old.Alike new) :
    new.Numbered where
  rows := by
    have hids := congrArg (List.map Row.id) halike.rows
    rw [List.map_map, List.map_map] at hids
    have hlength := congrArg List.length halike.rows
    rw [List.length_map, List.length_map] at hlength
    rw [hlength, halike.id]
    exact hids.trans h.rows
  separators := by
    intro i choice hchoice hseparator
    -- The old option at the place has the same value and is a separator too.
    have hbare := congrArg (fun all => all[i]?) halike.options
    have hvalue := congrArg (fun all => all[i]?) halike.values
    simp only [List.getElem?_map, hchoice, Option.map_some] at hbare hvalue
    obtain ⟨before, hbefore, hsame⟩ := Option.map_eq_some_iff.mp hvalue.symm
    rw [hbefore, Option.map_some, Option.some.injEq] at hbare
    have hflag : choice.bare.separator = before.bare.separator := by rw [hbare]
    have hold : isSet before.separator = true := hflag ▸ hseparator
    rw [← hsame]
    exact h.separators i before hbefore hold

theorem effect {line : Line} {question next : Question} {selection? selection?' : Option Selection}
    {capture? : Option Capture} {cause? : Option Cause} (h : question.Numbered)
    (heffect : Effect line question selection? next selection?' capture? cause?) :
    next.Numbered := by
  cases heffect with
  | sets hnext _ _ => exact h.alike hnext.alike
  | quotes _ _ _ => exact h
  | ignored _ _ _ _ _ => exact h
  | options hadded hsome hnamed =>
      have htakes := Line.takesOptions_of_added hadded hsome
      refine ⟨?_, fun i choice hchoice hseparator => ?_⟩
      · rw [Question.rows_mapOptions]
        exact h.rows
      · rw [Question.options_mapOptions _ _ htakes, List.getElem?_append] at hchoice
        split at hchoice
        · exact h.separators i choice hchoice hseparator
        · rename_i hlength
          have hvalue := hnamed _ choice hchoice hseparator
          rwa [Nat.add_sub_cancel' (Nat.le_of_not_lt hlength)] at hvalue
  | row hrow =>
      refine ⟨?_, fun i choice hchoice hseparator => ?_⟩
      · rw [Question.rows_mapRows _ _ hrow.2, List.map_append, h.rows, List.length_append,
          List.length_singleton, List.range_succ, List.map_append]
        rfl
      · rw [Question.options_mapRows] at hchoice
        exact h.separators i choice hchoice hseparator
  | labels _ => exact h.alike (.labels line.value question)
  | amends _ _ _ _ => exact h.alike (.amend _ _ question)
  | amendsQuoted _ _ _ _ _ => exact h

theorem develops {old new : Question} (h : old.Numbered) (hdevelops : old.Develops new) :
    new.Numbered := by
  cases hdevelops with
  | settled =>
      exact ⟨by rw [State.rows_settled]; exact h.rows, by rw [State.options_settled]; exact h.separators⟩
  | text => exact ⟨h.rows, h.separators⟩
  | alike halike => exact h.alike halike
  | effect heffect => exact h.effect heffect

end Question.Numbered

namespace Source

/-! ## Lines for rows -/

/-- **What comes of a line for a row**: it adds rows, or it labels the last row of a
matrix, or it does nothing and is noticed once. -/
inductive Step.RowOutcome (step : Step) (question : Question) (line : Line) : Prop where
  /-- The line adds rows and is not noticed. -/
  | adds (hadds : line.choices question.kind ≠ [] ∨ line.rowTexts question.kind ≠ [])
      (hwarnings : step.after.warnings = step.before.warnings)
  /-- The line is a label for the last row of a matrix. -/
  | labels (hlabel : line.IsLabelOf question)
      (hafter : step.after.question? = some { question with
        body := question.body.mapRows
          (changeLast fun row => { row with subtotalLabel := some line.value }) })
      (hwarnings : step.after.warnings = step.before.warnings)
  /-- The line adds nothing, leaves the question as it is, and is noticed once. -/
  | ignored (cause : Cause) (hchoices : line.choices question.kind = [])
      (hrows : line.rowTexts question.kind = []) (hafter : step.after.question? = some question)
      (hwarnings : step.after.warnings = step.before.warnings ++ [⟨step.number, cause⟩])

/-- Whether the line concerns the rows of a question. -/
def LineKind.isOfRows (kind : LineKind) : Bool := kind.isRow || kind.isModifier

theorem LineKind.isOfRows_of_isDivider {kind : LineKind} (h : kind.isDivider = true) :
    kind.isOfRows = false := by
  cases kind <;> first | rfl | cases h

/-- Inside a question a line that concerns its rows has an effect. -/
theorem State.Takes.effect_of_isOfRows {number : Nat} {raw : Text} {after : List Text} {st : State}
    {next : Content} (h : st.Takes number raw after next) {question : Question} {line : Line}
    (hquestion : st.question? = some question) (hline : st.lineOf? raw = some line)
    (hrows : line.kind.isOfRows = true) :
    ∃ changed selection? capture? cause?,
      Effect line question st.selection? changed selection? capture? cause? ∧
        next.question? = some changed ∧ next.capture? = capture? ∧
        next.warnings = st.warnings ++ (cause?.map fun cause => ⟨number, cause⟩).toList := by
  have hline' : ∀ {other : Line}, st.lineOf? raw = some other → other = line :=
    fun hother => Option.some.inj (hother.symm.trans hline)
  cases h with
  | quoted hcapture _ | unquoted hcapture _ => simp [State.lineOf?, hcapture] at hline
  | continued htext _ _ | said htext =>
      rw [htext.2 line hline] at hrows
      cases hrows
  | divided hother hkind _ =>
      rw [LineKind.isOfRows_of_isDivider (hline' hother ▸ hkind)] at hrows
      cases hrows
  | asked hother hkind | spaced hother hkind _ =>
      rw [hline' hother] at hkind
      rw [hkind] at hrows
      cases hrows
  | noted _ _ _ hnone _ _ _ _ =>
      rw [hquestion] at hnone
      cases hnone
  | inside hother _ _ hopen heffect =>
      obtain rfl := hline' hother
      obtain rfl := Option.some.inj (hquestion.symm.trans hopen)
      exact ⟨_, _, _, _, heffect, rfl, rfl, rfl⟩

/-- **A line for a row is never passed over in silence.** -/
theorem Step.rowOutcome {step : Step}
    (hread : step.before.read step.number step.raw step.behind = .ok step.after)
    {question : Question} {line : Line} (hquestion : step.before.question? = some question)
    (hline : step.before.lineOf? step.raw = some line) (hrow : line.kind.isRow = true) :
    step.RowOutcome question line := by
  obtain ⟨next, selection?, capture?, cause?, heffect, hnext, _, hwarnings⟩ :=
    (State.read_takes hread).effect_of_isOfRows hquestion hline (by simp [LineKind.isOfRows, hrow])
  have hopen : step.after.question? = some next := hnext
  have hquiet : cause? = none → step.after.warnings = step.before.warnings := by
    rintro rfl
    exact hwarnings.trans (List.append_nil _)
  cases heffect with
  | sets _ hother _ | quotes _ hother _ =>
      rw [hother] at hrow
      cases hrow
  | ignored cause hchoices hnone _ _ =>
      exact .ignored cause hchoices (if_neg hnone) hopen hwarnings
  | options hadded hsome _ =>
      refine .adds (.inl fun hnil => hsome ?_) (hquiet rfl)
      exact List.map_eq_nil_iff.mp (hadded.trans hnil)
  | row hmatrix =>
      have htexts : line.rowTexts question.kind = [line.value] := if_pos hmatrix
      exact .adds (.inr (by simp [htexts])) (hquiet rfl)
  | labels hlabel => exact .labels hlabel hopen (hquiet rfl)
  | amends hmodifier _ _ _ | amendsQuoted hmodifier _ _ _ _ =>
      rw [LineKind.isRow_of_isModifier hmodifier] at hrow
      cases hrow

/-! ## Whole sources -/

/-- **The rows of a question are those that the lines of a run stand for**, the lines
being those read inside it. -/
structure Conserved (run : List Step) (question : Question) : Prop where
  /-- The options, whatever modifiers add to them. -/
  options : question.options.map Choice.bare
    = (run.filterMap (Step.lineIn? question.id)).flatMap (Line.choices question.kind)
  /-- The texts of the rows of a matrix. -/
  rows : question.rows.map Row.text
    = (run.filterMap (Step.lineIn? question.id)).flatMap (Line.rowTexts question.kind)
  /-- Their identifiers, and the values of separators. -/
  numbered : question.Numbered

/-- Where a question keeps its kind its gains are those of the lines inside it. -/
private theorem flatMap_gain {α : Type} (gain : QuestionKind → Line → List α) {id : Text}
    {kind : QuestionKind} {run : List Step} (h : ∀ step ∈ run, ∀ question,
      step.before.question? = some question → question.id = id → question.kind = kind) :
    run.flatMap (Step.gain gain id) = (run.filterMap (Step.lineIn? id)).flatMap (gain kind) := by
  induction run with
  | nil => rfl
  | cons step run ih =>
      rw [List.flatMap_cons, ih fun other hother => h other (List.mem_cons_of_mem _ hother)]
      cases hline : step.lineIn? id with
      | none =>
          have hnone : step.gain gain id = [] := by
            rw [Step.gain, hline]
            split <;> first | rfl | contradiction
          rw [hnone, List.filterMap_cons_none hline, List.nil_append]
      | some line =>
          have hinside := hline
          rw [Step.lineIn?] at hinside
          split at hinside
          · rename_i hid
            obtain ⟨question, hquestion, hsame⟩ := Option.map_eq_some_iff.mp hid
            have hkind := h step List.mem_cons_self question hquestion hsame
            have hgain : step.gain gain id = gain kind line := by
              simp only [Step.gain, hquestion, hline, hkind]
            rw [hgain, List.filterMap_cons_some hline, List.flatMap_cons]
          · cases hinside

/-- Of all questions one has the identifier. -/
private theorem filter_id {questions : List Question}
    (hnodup : (questions.map Question.id).Nodup) {question : Question}
    (hmem : question ∈ questions) :
    (questions.filter fun other => other.id = question.id) = [question] := by
  induction questions with
  | nil => cases hmem
  | cons first rest ih =>
      rw [List.map_cons, List.nodup_cons] at hnodup
      obtain ⟨hfirst, hrest⟩ := hnodup
      rcases List.mem_cons.mp hmem with rfl | hmem
      · have hnone : (rest.filter fun other => other.id = question.id) = [] := by
          refine List.filter_eq_nil_iff.mpr fun other hother hsame => hfirst ?_
          rw [← of_decide_eq_true hsame]
          exact List.mem_map_of_mem hother
        simp [hnone]
      · have hother : first.id ≠ question.id := fun hsame =>
          hfirst (hsame ▸ List.mem_map_of_mem hmem)
        simp [hother, ih hrest hmem]

section

variable {source name : Text} {isChecked : Bool} {survey : Survey}
  (h : (compile source name isChecked).result = .ok survey)
include h

/-- A tally of a question of a survey is what the lines inside it add up to. -/
theorem Tally.of_compile {α : Type} {tally : Question → List α}
    {gain : QuestionKind → Line → List α} (htally : Tally tally gain) {question : Question}
    (hmem : question ∈ survey.questions) : tally question
      = ((steps 0 {} (sourceLines source)).filterMap (Step.lineIn? question.id)).flatMap
          (gain question.kind) := by
  have hnodup := nodup_ids_of_compile h
  have hkind : ∀ step ∈ steps 0 {} (sourceLines source), ∀ other,
      step.before.question? = some other → other.id = question.id →
        other.kind = question.kind := by
    intro step hstep other hother hid
    obtain ⟨last, hlast, hsame, hkind⟩ := key_of_mem_steps h hstep hother
    have hone := filter_id hnodup hmem
    have hfound : last ∈ survey.questions.filter fun other => other.id = question.id :=
      List.mem_filter.mpr ⟨hlast, by simp [hsame, hid]⟩
    rw [hone] at hfound
    rw [← hkind, List.mem_singleton.mp hfound]
  have hrun := htally.gather_run question.id (sourceLines source)
  have hfinal := (htally.gather_settle question.id _).trans
    ((htally.gather_unquoted question.id _).trans hrun)
  rw [Content.gather, ← questions_of_compile h, filter_id hnodup hmem, flatMap_gain gain hkind]
    at hfinal
  simpa using hfinal

/-- **Rows are conserved**: the options of each question, and the rows of a matrix, are
those that the lines read inside it stand for, in their order; a line for a row that
adds none labels the last row of a matrix or is noticed once. -/
theorem conserved_of_compile :
    (∀ question ∈ survey.questions, Conserved (steps 0 {} (sourceLines source)) question) ∧
      ∀ step ∈ steps 0 {} (sourceLines source), ∀ question line,
        step.before.question? = some question → step.before.lineOf? step.raw = some line →
          line.kind.isRow = true → step.RowOutcome question line ∧
            step.after.warnings <+: (compile source name isChecked).warnings := by
  refine ⟨fun question hmem => ⟨?_, ?_, ?_⟩, fun step hstep question line hquestion hline hrow => ?_⟩
  · exact tally_options.of_compile h hmem
  · exact tally_rows.of_compile h hmem
  · exact forall_questions_of_compile h Question.Numbered.fresh
      Question.Numbered.develops question hmem
  · refine ⟨Step.rowOutcome (read_of_mem_steps hstep) hquestion hline hrow, ?_⟩
    exact (rel_of_mem_steps (R := fun st st' => st.warnings <+: st'.warnings)
      (fun _ => List.prefix_rfl) List.IsPrefix.trans warnings_read hstep).trans
      (warnings_of_compile h)

end

/-- A breakdown with rows of every kind. -/
def rowSource : Text :=
  "Q: Costs\nBREAKDOWN\n- HEADER: Home\n- Rent\nRANGE: 1-2\n- SEPARATOR\nSUBTOTAL: All".toList

/-- The survey of `rowSource`. -/
def rowSurvey : Survey := (compile rowSource [] true).result.toOption.getD { name := [] }

/-- The first question of `rowSurvey`. -/
def rowQuestion : Question := rowSurvey.questions.headD default

theorem conserved_rowQuestion : rowQuestion.options.map Choice.bare
    = [{ value := "Home".toList, label := "Home".toList, header := some true },
        { value := "Rent".toList, label := "Rent".toList },
        { value := "1".toList, label := "1".toList }, { value := "2".toList, label := "2".toList },
        { value := [], label := [], separator := some true },
        { value := "All".toList, label := "All".toList, subtotalLabel := some "All".toList }] :=
  ((conserved_of_compile
    (show (compile rowSource [] true).result = .ok rowSurvey by rfl)).1 rowQuestion
    (by decide +kernel)).options.trans (by decide +kernel)

end Source
end Questionnaire
