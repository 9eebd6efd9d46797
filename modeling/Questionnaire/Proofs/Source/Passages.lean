import Questionnaire.Proofs.Source.Standing
import Questionnaire.Proofs.Text.Cut
import Questionnaire.Proofs.Text.Visible

/-!
# Free text is conserved

The passages of a survey are what is to be seen of its texts, and where each of
its questions stands among them. Every line that is handled as text adds what
is to be seen of it, a question marker adds its question, and no other line adds
or takes away anything (`passages_takes`). So the passages of a compiled survey
are those of the lines of its source, in order (`passages_of_compile`).
-/

namespace Questionnaire

open Text

/-- What is read when a survey is read for its texts. -/
inductive Passage where
  /-- A question begins. -/
  | question (id : Text)
  /-- Something to be seen on a line of a text or of a question. -/
  | line (seen : Text)
deriving DecidableEq, Repr

/-- The passages of a text. -/
def textPassages (t : Text) : List Passage := (contents t).map .line

/-- The passages of a question. -/
def Question.passages (question : Question) : List Passage :=
  .question question.id :: textPassages question.text

/-- The passages of an item. -/
def Item.passages : Item → List Passage
  | .text value => textPassages value
  | .question asked => asked.passages

/-- The passages of a survey in the order of the document. -/
def Survey.passages (survey : Survey) : List Passage := survey.items.flatMap Item.passages

namespace Source

open Decimal

/-- The passages that a line brings, as the state before it has it: none in quotes, in a
fence what is to be seen of the line, and else that of text or of a question marker. -/
def Step.passages (step : Step) : List Passage :=
  match step.before.lineOf? step.raw with
  | some line =>
    match line.kind with
    | .question =>
      .question ('Q' :: writeNat (step.before.count + 1)) :: (visible line.value).map .line
    | .text => (visible step.raw).map .line
    | _ => []
  | none => if step.before.capture?.isSome then [] else (visible step.raw).map .line

/-! ## The passages of a content -/

namespace Content

/-- The passages of a content, those of the pending text last. -/
def passages (held : Content) : List Passage :=
  held.items.flatMap Item.passages ++ held.question?.toList.flatMap Question.passages
    ++ held.pending.flatMap textPassages

theorem flatMap_textPassages (all : List Text) :
    all.flatMap textPassages = (all.flatMap contents).map Passage.line := by
  rw [List.map_flatMap]
  rfl

/-- The item that pending lines make has their passages. -/
theorem passages_textItem? (pending : List Text) :
    (textItem? pending).toList.flatMap Item.passages = pending.flatMap textPassages := by
  have htrim : (trimLines pending).flatMap contents = pending.flatMap contents := by
    rw [trimLines, contents_dropWhile_reverse, contents_dropWhile]
  rw [flatMap_textPassages, ← htrim, textItem?]
  cases trimLines pending with
  | nil => rfl
  | cons first rest =>
      simp [Item.passages, textPassages, contents_join]

theorem passages_settled (question : Question) :
    question.settled.passages = question.passages := rfl

theorem passages_closeQuestion (held : Content) : held.closeQuestion.passages = held.passages := by
  cases hquestion : held.question? with
  | none => rw [closeQuestion_of_none hquestion]
  | some question =>
      rw [closeQuestion_of_some hquestion]
      simp [passages, hquestion, Item.passages, passages_settled]

theorem passages_settle (held : Content) : held.settle.passages = held.passages := by
  rw [← passages_closeQuestion held]
  simp [settle, passages, passages_textItem?]

theorem passages_unquoted (held : Content) : held.unquoted.passages = held.passages := by
  rw [unquoted]
  cases held.capture? with
  | none => rfl
  | some capture =>
      cases hquestion : held.question? with
      | none => simp [passages, hquestion]
      | some question =>
          have halike := Question.Alike.putAt capture.holder capture.aspect capture.value question
          simp [passages, hquestion, Question.passages, halike.id, halike.text]

end Content

/-! ## One line -/

theorem LineKind.ne_text_of_isDivider {kind : LineKind} (h : kind.isDivider = true) :
    kind ≠ .text := by
  rintro rfl
  cases h

theorem LineKind.ne_question_of_not_isDivider {kind : LineKind} (h : kind.isDivider = false) :
    kind ≠ .question := by
  rintro rfl
  cases h

/-- A line of text has no line feed in it, so all that is to be seen of it is what
is to be seen of one line. -/
private theorem passages_of_readsText {step : Step} (h : step.before.ReadsText step.raw) :
    step.passages = (visible step.raw).map .line := by
  obtain ⟨hcapture, htext⟩ := h
  rw [Step.passages]
  cases hline : step.before.lineOf? step.raw with
  | none => simp [hcapture]
  | some line => simp [htext line hline]

private theorem passages_of_line {step : Step} {line : Line}
    (h : step.before.lineOf? step.raw = some line) (hquestion : line.kind ≠ .question)
    (htext : line.kind ≠ .text) : step.passages = [] := by
  simp [Step.passages, h]

/-- Inside quotes a line brings nothing. -/
private theorem passages_of_capture {step : Step} {capture : Capture}
    (h : step.before.capture? = some capture) : step.passages = [] := by
  simp [Step.passages, State.lineOf?, h]

/-- **Every line adds its passages to those there are.** -/
theorem passages_takes {step : Step} (hfeed : '\n' ∉ step.raw)
    (hstanding : step.before.content.Standing)
    (hread : step.before.read step.number step.raw step.behind = .ok step.after) :
    step.after.content.passages = step.before.content.passages ++ step.passages := by
  have htakes := State.read_takes hread
  generalize step.after.content = next at htakes
  cases htakes with
  | quoted hcapture _ =>
      rw [passages_of_capture hcapture, List.append_nil]
      rfl
  | unquoted hcapture _ =>
      rw [Content.passages_unquoted, passages_of_capture hcapture, List.append_nil]
      rfl
  | continued htext hquestion _ =>
      -- While the question is open nothing is pending behind it.
      have hpending : step.before.pending = [] := hstanding.pending _ hquestion
      have hcontents : contents (trim step.raw) = visible step.raw := by
        rw [contents_of_not_mem (mt mem_of_mem_trim hfeed), visible_trim]
      rw [passages_of_readsText htext]
      simp [Content.passages, hpending, State.content, hquestion, Question.passages, textPassages,
        contents_append, hcontents]
  | said htext =>
      have hcontents : contents (trimRight step.raw) = visible step.raw := by
        rw [contents_of_not_mem (mt mem_of_mem_trimRight hfeed), visible_trimRight]
      have hclose := Content.passages_closeQuestion step.before.content
      rw [passages_of_readsText htext, ← hclose]
      simp [Content.passages, State.content, textPassages, hcontents]
  | divided hline hkind hother =>
      have htext := LineKind.ne_text_of_isDivider hkind
      rw [Content.passages_settle, passages_of_line hline hother htext, List.append_nil]
      rfl
  | @asked line hline hkind =>
      have hvalue : contents line.value = visible line.value :=
        contents_of_not_mem (not_mem_of_questionText?
          ((stands_of_classify (State.lineOf?_eq_some.mp hline).2.2.2).question hkind))
      have hsettle := Content.passages_settle { step.before.content with textOpen := false }
      have hpassages : step.passages = .question ('Q' :: writeNat (step.before.count + 1))
          :: (visible line.value).map .line := by
        simp only [Step.passages, hline, hkind]
      have hbefore : step.before.content.passages
          = ({ step.before.content with textOpen := false } : Content).passages := rfl
      rw [hpassages, hbefore, ← hsettle]
      simp [Content.passages, Content.settle, State.fresh, Question.passages, textPassages, hvalue]
  | spaced hline hkind hquestion =>
      rw [passages_of_line hline (by simp [hkind]) (by simp [hkind])]
      have hblank : textPassages [] = [] := rfl
      simp [Content.passages, State.content, hblank]
  | noted hline hkind htext hquestion content hcontent capture? _ =>
      have hother := LineKind.ne_question_of_not_isDivider hkind
      rw [passages_of_line hline hother htext, List.append_nil]
      rcases hcontent with rfl | rfl
      · rfl
      · exact Content.passages_settle { step.before.content with textOpen := false }
  | @inside line question next _ _ _ hline hkind hother hquestion heffect =>
      obtain ⟨hid, htext, _⟩ := heffect.stays
      have hstays : step.before.question? = some question := hquestion
      rw [passages_of_line hline (LineKind.ne_question_of_not_isDivider hkind) hother,
        List.append_nil]
      simp [Content.passages, State.content, hstays, Question.passages, hid, htext]

/-! ## Whole sources -/

/-- **Free text is conserved**: every line of the source is read, and the survey has
exactly the passages that the lines bring, in their order. -/
theorem passages_of_compile {source name : Text} {isChecked : Bool} {survey : Survey}
    (h : (compile source name isChecked).result = .ok survey) :
    (steps 0 {} (sourceLines source)).map Step.raw = sourceLines source ∧
      survey.passages = (steps 0 {} (sourceLines source)).flatMap Step.passages := by
  have hlines := compileLines_of_compile h
  refine ⟨map_raw_steps (failure?_of_compileLines hlines), ?_⟩
  have hrun := readAll_account (P := fun st => st.content.Standing)
    (fun st => st.content.passages) Step.passages
    (fun step (hmem : step.raw ∈ sourceLines source) hstanding hread => ⟨hstanding.read hread,
      passages_takes (not_mem_of_mem_lines hmem) hstanding hread⟩) 0 Content.standing_empty
  rw [survey_of_compileLines hlines, Survey.passages, State.items_finish]
  -- At the end no question is open and nothing is pending.
  generalize (State.readAll 0 {} (sourceLines source)).1 = last at hrun
  have hsettled := (Content.passages_settle last.content.unquoted).trans
    (Content.passages_unquoted last.content)
  rw [hrun] at hsettled
  simpa [Content.passages, Content.settle, State.content, State.closedItems, Block.items]
    using hsettled

/-- Text between questions, in a fence and behind a hint in quotes. -/
def textSource : Text :=
  "intro\nQ: Why?\n more\nHINT: \"\"\"\nhidden\n\"\"\"\n```\n# code\n```\nQ: How?".toList

/-- The survey of `textSource`. -/
def textSurvey : Survey := (compile textSource [] true).result.toOption.getD { name := [] }

theorem passages_textSurvey : textSurvey.passages
    = [.line "intro".toList, .question "Q1".toList, .line "Why?".toList, .line "more".toList,
        .line "```".toList, .line "# code".toList, .line "```".toList, .question "Q2".toList,
        .line "How?".toList] :=
  (passages_of_compile
    (show (compile textSource [] true).result = .ok textSurvey by rfl)).2.trans (by decide +kernel)

end Source
end Questionnaire
