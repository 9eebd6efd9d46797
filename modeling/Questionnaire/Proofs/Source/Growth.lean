import Questionnaire.Proofs.Source.Taking

/-!
# What becomes of the questions

A line may let the open question develop and may add a question behind it
(`State.Takes.grows`), and so may the end of the source. Whatever happens a
question keeps its identifier and its kind, and the identifiers number the
questions of a source in order, so no two of them have the same. Neither is a
warning taken back.
-/

namespace Questionnaire

open Text Decimal Source

/-- What a line may make of a question. -/
inductive Question.Develops (question : Question) : Question → Prop where
  /-- The question is settled. -/
  | settled : Develops question question.settled
  /-- The question has a longer text. -/
  | text (more : Text) : Develops question { question with text := question.text ++ more }
  /-- The question has other attributes. -/
  | alike {next : Question} (h : question.Alike next) : Develops question next
  /-- A line inside the question has its effect. -/
  | effect {line : Line} {next : Question} {selection? selection?' : Option Selection}
      {capture? : Option Capture} {cause? : Option Cause}
      (h : Effect line question selection? next selection?' capture? cause?) :
      Develops question next

theorem Question.Develops.id {old new : Question} (h : old.Develops new) : new.id = old.id := by
  cases h with
  | settled | text => rfl
  | alike h => exact h.id
  | effect h => exact h.stays.1

theorem Question.Develops.kind {old new : Question} (h : old.Develops new) :
    new.kind = old.kind := by
  cases h with
  | settled => exact State.kind_settled old
  | text => rfl
  | alike h => exact h.kind
  | effect h => exact h.stays.2.2

namespace Source

/-! ## Contents -/

namespace Content

/-- The questions of a content, the open one last. -/
def questions (held : Content) : List Question :=
  held.items.filterMap Item.question? ++ held.question?.toList

theorem questions_textItem? (pending : List Text) :
    (textItem? pending).toList.filterMap Item.question? = [] := by
  rw [textItem?]
  split <;> rfl

theorem questions_closeQuestion (held : Content) : held.closeQuestion.questions
    = held.items.filterMap Item.question? ++ (held.question?.map Question.settled).toList := by
  cases hquestion : held.question? <;> simp [questions, closeQuestion, hquestion, Item.question?]

theorem questions_settle (held : Content) :
    held.settle.questions = held.closeQuestion.questions := by
  simp [settle, questions, questions_textItem?]

/-- The same questions, of which the open one may have developed. -/
def Grows (held next : Content) : Prop :=
  ∃ last? : Option Question, Option.Rel Question.Develops held.question? last? ∧
    next.questions = held.items.filterMap Item.question? ++ last?.toList

namespace Grows

variable {held next : Content}

theorem of_eq (hitems : next.items = held.items) (hquestion : next.question? = held.question?) :
    held.Grows next := by
  refine ⟨held.question?, ?_, by rw [questions, hitems, hquestion]⟩
  cases held.question? with
  | none => exact .none
  | some question => exact .some (.alike (.refl question))

theorem closeQuestion (held : Content) : held.Grows held.closeQuestion := by
  refine ⟨held.question?.map Question.settled, ?_, questions_closeQuestion held⟩
  cases held.question? with
  | none => exact .none
  | some question => exact .some .settled

theorem settle (held : Content) : held.Grows held.settle := by
  obtain ⟨last?, hrel, hquestions⟩ := closeQuestion held
  exact ⟨last?, hrel, (questions_settle held).trans hquestions⟩

/-- The open question has developed. -/
theorem question {old new : Question} (hquestion : held.question? = some old)
    (hitems : next.items = held.items) (hnext : next.question? = some new)
    (h : old.Develops new) : held.Grows next :=
  ⟨some new, hquestion ▸ .some h, by rw [questions, hitems, hnext]⟩

theorem unquoted (held : Content) : held.Grows held.unquoted := by
  rw [Content.unquoted]
  cases held.capture? with
  | none => exact of_eq rfl rfl
  | some capture =>
      cases hquestion : held.question? with
      | none => exact of_eq rfl hquestion.symm
      | some old =>
          exact question hquestion rfl rfl
            (.alike (.putAt capture.holder capture.aspect capture.value old))

/-- What holds of a question whatever becomes of it holds of all. -/
theorem forall_questions (h : held.Grows next) {P : Question → Prop}
    (hdevelops : ∀ {old new : Question}, P old → old.Develops new → P new)
    (hall : ∀ question ∈ held.questions, P question) : ∀ question ∈ next.questions, P question := by
  obtain ⟨last?, hrel, hquestions⟩ := h
  intro question hmem
  rw [hquestions] at hmem
  rcases List.mem_append.mp hmem with hmem | hmem
  · exact hall question (List.mem_append_left _ hmem)
  · obtain rfl := Option.mem_toList.mp hmem
    cases hopen : held.question? with
    | none =>
        rw [hopen] at hrel
        cases hrel
    | some old =>
        rw [hopen] at hrel
        cases hrel with
        | some h =>
            refine hdevelops (hall old ?_) h
            exact List.mem_append_right _ (by rw [hopen]; exact List.mem_singleton_self old)

/-- Every question is still there, with its identifier and its kind. -/
theorem map_key (h : held.Grows next) :
    next.questions.map (fun q => (q.id, q.kind)) = held.questions.map fun q => (q.id, q.kind) := by
  obtain ⟨last?, hrel, hquestions⟩ := h
  rw [hquestions, questions, List.map_append, List.map_append]
  cases hopen : held.question? with
  | none =>
      rw [hopen] at hrel
      cases hrel
      rfl
  | some old =>
      rw [hopen] at hrel
      cases hrel with
      | some h => simp [h.id, h.kind]

end Grows
end Content

/-- **What a line does to the list of questions**: the open one may develop, and a
question marker adds one. -/
theorem State.Takes.grows {number : Nat} {raw : Text} {after : List Text} {st : State}
    {next : Content} (h : st.Takes number raw after next) :
    ((st.lineOf? raw).map Line.kind ≠ some .question ∧ st.content.Grows next ∧
        next.count = st.count) ∨
      ∃ (line : Line) (settled : Content), st.lineOf? raw = some line ∧
        line.kind = .question ∧ st.content.Grows settled ∧
        next.questions = settled.questions ++ [st.fresh line.value after] ∧
        next.question? = some (st.fresh line.value after) ∧ next.count = st.count + 1 := by
  have hquiet : ∀ {other : Content}, ({ st.content with textOpen := false } : Content).Grows other →
      st.content.Grows other := id
  have hother : ∀ {line : Line}, st.lineOf? raw = some line → line.kind ≠ .question →
      (st.lineOf? raw).map Line.kind ≠ some .question := fun hline hkind => by simpa [hline]
  have hdivider : ∀ {line : Line}, st.lineOf? raw = some line → line.kind.isDivider = false →
      (st.lineOf? raw).map Line.kind ≠ some .question := fun hline hkind =>
    hother hline (by rintro heq; rw [heq] at hkind; cases hkind)
  have hquoted : ∀ {capture : Capture}, st.capture? = some capture →
      (st.lineOf? raw).map Line.kind ≠ some .question := fun hcapture => by
    simp [State.lineOf?, hcapture]
  have hsaid : st.ReadsText raw → (st.lineOf? raw).map Line.kind ≠ some .question := by
    intro htext hkind
    obtain ⟨line, hline, hkind⟩ := Option.map_eq_some_iff.mp hkind
    rw [htext.2 line hline] at hkind
    cases hkind
  cases h with
  | quoted hcapture _ => exact .inl ⟨hquoted hcapture, .of_eq rfl rfl, rfl⟩
  | @unquoted capture next hcapture _ =>
      refine .inl ⟨hquoted hcapture,
        Content.Grows.unquoted { st.content with capture? := some next }, ?_⟩
      rfl
  | continued htext hquestion _ =>
      exact .inl ⟨hsaid htext, .question hquestion rfl rfl (.text _), rfl⟩
  | said htext =>
      refine .inl ⟨hsaid htext, Content.Grows.closeQuestion st.content, ?_⟩
      exact Content.count_closeQuestion st.content
  | divided hline _ hkind =>
      exact .inl ⟨hother hline hkind, hquiet (Content.Grows.settle _),
        Content.count_closeQuestion _⟩
  | @asked line hline hkind =>
      refine .inr ⟨line, _, hline, hkind, hquiet (Content.Grows.settle _), ?_, rfl, rfl⟩
      simp [Content.questions, Content.settle]
  | spaced hline hkind _ =>
      exact .inl ⟨hdivider hline (by rw [hkind]; rfl), .of_eq rfl rfl, rfl⟩
  | noted hline hkind _ _ content hcontent _ _ =>
      rcases hcontent with rfl | rfl
      · exact .inl ⟨hdivider hline hkind, .of_eq rfl rfl, rfl⟩
      · exact .inl ⟨hdivider hline hkind, hquiet (Content.Grows.settle _),
          Content.count_closeQuestion _⟩
  | inside hline hkind _ hquestion heffect =>
      exact .inl ⟨hdivider hline hkind, .question hquestion rfl rfl (.effect heffect), rfl⟩

/-! ## Identifiers -/

theorem writeNat_injective {m n : Nat} (h : writeNat m = writeNat n) : m = n := by
  have hdigits := congrArg (fun t => Nat.ofDigitChars 10 t 0) h
  simpa [writeNat, Nat.ofDigitChars_ten_toDigits] using hdigits

/-- The identifiers of the first questions. -/
def firstIds (count : Nat) : List Text :=
  (List.range count).map fun n => 'Q' :: writeNat (n + 1)

theorem nodup_firstIds (count : Nat) : (firstIds count).Nodup := by
  refine List.pairwise_map.mpr (List.nodup_range.imp fun hne h => hne ?_)
  have := writeNat_injective (List.cons.inj h).2
  omega

theorem firstIds_succ (count : Nat) :
    firstIds (count + 1) = firstIds count ++ ['Q' :: writeNat (count + 1)] := by
  simp [firstIds, List.range_succ]

/-- Growing leaves the identifiers what they are. -/
theorem Content.Grows.map_id {held next : Content} (h : held.Grows next) :
    next.questions.map Question.id = held.questions.map Question.id := by
  have hids := congrArg (List.map Prod.fst) h.map_key
  rwa [List.map_map, List.map_map] at hids

/-- **The identifiers number the questions in order.** -/
theorem ids_read {number : Nat} {raw : Text} {after : List Text} {st st' : State}
    (h : st.content.questions.map Question.id = firstIds st.count)
    (hread : st.read number raw after = .ok st') :
    st'.content.questions.map Question.id = firstIds st'.count := by
  rcases (State.read_takes hread).grows with
    ⟨-, hgrows, hcount⟩ | ⟨line, settled, -, -, hgrows, hnew, -, hcount⟩
  · have hsame : st'.count = st.count := hcount
    rw [hgrows.map_id, h, hsame]
  · have hnext : st'.count = st.count + 1 := hcount
    rw [hnew, List.map_append, hgrows.map_id, h, hnext, firstIds_succ]
    rfl

/-- No question is lost, and none changes its identifier or its kind. -/
theorem key_read {number : Nat} {raw : Text} {after : List Text} {st st' : State}
    (hread : st.read number raw after = .ok st') :
    st.content.questions.map (fun q => (q.id, q.kind))
      <+: st'.content.questions.map fun q => (q.id, q.kind) := by
  rcases (State.read_takes hread).grows with
    ⟨-, hgrows, -⟩ | ⟨line, settled, -, -, hgrows, hnew, -, -⟩
  · exact hgrows.map_key ▸ List.prefix_rfl
  · rw [hnew, List.map_append, hgrows.map_key]
    exact List.prefix_append _ _

/-! ## Warnings -/

theorem Content.warnings_settle (held : Content) : held.settle.warnings = held.warnings :=
  warnings_closeQuestion held

/-- No warning is taken back. -/
theorem warnings_read {number : Nat} {raw : Text} {after : List Text} {st st' : State}
    (hread : st.read number raw after = .ok st') : st.warnings <+: st'.warnings := by
  have htakes := State.read_takes hread
  have hwarnings : st'.content.warnings = st'.warnings := rfl
  rw [← hwarnings]
  generalize st'.content = next at htakes
  cases htakes with
  | unquoted _ _ =>
      rw [Content.unquoted]
      exact List.prefix_rfl
  | said _ =>
      show st.warnings <+: st.content.closeQuestion.warnings
      rw [Content.warnings_closeQuestion]
      exact List.prefix_rfl
  | divided _ _ _ | asked _ _ =>
      show st.warnings <+: ({ st.content with textOpen := false } : Content).settle.warnings
      rw [Content.warnings_settle]
      exact List.prefix_rfl
  | noted _ _ _ _ content hcontent _ _ =>
      rcases hcontent with rfl | rfl
      · exact List.prefix_rfl
      · show st.warnings <+: ({ st.content with textOpen := false } : Content).settle.warnings
        rw [Content.warnings_settle]
        exact List.prefix_rfl
  | inside _ _ _ _ _ => exact List.prefix_append _ _
  | quoted _ _ | continued _ _ _ | spaced _ _ _ => exact List.prefix_rfl

theorem State.warnings_finish (st : State) : st.warnings <+: st.finish.warnings := by
  have hclose : ∀ st : State, st.closeBlock.warnings = st.warnings := fun st =>
    (congrArg Content.warnings (State.content_closeBlock st)).trans (Content.warnings_settle _)
  rw [finish]
  split
  · exact hclose st ▸ List.prefix_rfl
  · rename_i capture _
    rw [hclose]
    have hend := congrArg Content.warnings
      (State.content_endCapture (st.warn capture.line .unclosed) capture)
    show st.warnings <+: ((st.warn capture.line .unclosed).endCapture capture).content.warnings
    rw [hend]
    exact List.prefix_append _ _

/-! ## Whole sources -/

/-- The questions of a survey are those of the last state, settled. -/
theorem State.questions_survey_eq (name : Text) (st : State) :
    (st.finish.survey name).questions = st.content.unquoted.settle.questions := by
  rw [Survey.questions_eq_items, items_finish, Content.questions]
  simp [Content.settle]

section

variable {source name : Text} {isChecked : Bool} {survey : Survey}
  (h : (compile source name isChecked).result = .ok survey)
include h

theorem questions_of_compile : survey.questions
    = (State.readAll 0 {} (sourceLines source)).1.content.unquoted.settle.questions := by
  rw [survey_of_compileLines (compileLines_of_compile h), State.questions_survey_eq]

/-- **No two questions of a survey have the same identifier.** -/
theorem nodup_ids_of_compile : (survey.questions.map Question.id).Nodup := by
  have hids : ∀ last : State, last = (State.readAll 0 {} (sourceLines source)).1 →
      last.content.questions.map Question.id = firstIds last.count := by
    rintro _ rfl
    exact State.readAll_invariant (fun _ _ _ _ _ => ids_read) 0 rfl _
  rw [questions_of_compile h, (Content.Grows.settle _).map_id, (Content.Grows.unquoted _).map_id,
    hids _ rfl]
  exact nodup_firstIds _

/-- The question that is open before a line is one of the survey in the end. -/
theorem key_of_mem_steps {step : Step} (hstep : step ∈ steps 0 {} (sourceLines source))
    {question : Question} (hquestion : step.before.question? = some question) :
    ∃ last ∈ survey.questions, last.id = question.id ∧ last.kind = question.kind := by
  have hprefix := rel_of_mem_steps
    (R := fun st st' => st.content.questions.map (fun q => (q.id, q.kind))
      <+: st'.content.questions.map fun q => (q.id, q.kind))
    (fun _ => List.prefix_rfl) List.IsPrefix.trans key_read hstep
  have hmem : (question.id, question.kind)
      ∈ step.before.content.questions.map fun q => (q.id, q.kind) := by
    refine List.mem_map_of_mem (List.mem_append_right _ ?_)
    exact Option.mem_toList.mpr hquestion
  have hlast := hprefix.subset ((key_read (read_of_mem_steps hstep)).subset hmem)
  rw [← (Content.Grows.unquoted _).map_key, ← (Content.Grows.settle _).map_key,
    ← questions_of_compile h] at hlast
  obtain ⟨last, hmem, hkey⟩ := List.mem_map.mp hlast
  exact ⟨last, hmem, congrArg Prod.fst hkey, congrArg Prod.snd hkey⟩

/-- What holds of a fresh question, whatever becomes of it, holds of all questions of
a survey. -/
theorem forall_questions_of_compile {P : Question → Prop}
    (hfresh : ∀ (st : State) (text : Text) (after : List Text), P (st.fresh text after))
    (hdevelops : ∀ {old new : Question}, P old → old.Develops new → P new) :
    ∀ question ∈ survey.questions, P question := by
  have hread : ∀ number raw after (st st' : State), (∀ q ∈ st.content.questions, P q) →
      st.read number raw after = .ok st' → ∀ q ∈ st'.content.questions, P q := by
    intro number raw after st st' hall hread
    rcases (State.read_takes hread).grows with
      ⟨-, hgrows, -⟩ | ⟨line, settled, -, -, hgrows, hnew, -, -⟩
    · exact hgrows.forall_questions hdevelops hall
    · intro question hmem
      rw [hnew] at hmem
      rcases List.mem_append.mp hmem with hmem | hmem
      · exact hgrows.forall_questions hdevelops hall question hmem
      · rw [List.mem_singleton.mp hmem]
        exact hfresh st line.value after
  have hstart : ∀ q ∈ (State.content {}).questions, P q := fun _ hmem => by cases hmem
  have hrun := State.readAll_invariant hread 0 hstart (sourceLines source)
  rw [questions_of_compile h]
  exact (Content.Grows.settle _).forall_questions hdevelops
    ((Content.Grows.unquoted _).forall_questions hdevelops hrun)

/-- The warnings of a source begin with those of its lines. -/
theorem warnings_of_compile : (State.readAll 0 {} (sourceLines source)).1.warnings
    <+: (compile source name isChecked).warnings := by
  have hsame : (compile source name isChecked).warnings
      = (compileLines name (sourceLines source)).warnings := by
    simp only [compile]
    split
    · rfl
    · split <;> rfl
  have hread := failure?_of_compileLines (compileLines_of_compile h)
  rw [hsame, compileLines]
  split
  · rename_i hfailure
    rw [hfailure] at hread
    cases hread
  · rename_i st hst
    rw [hst]
    exact State.warnings_finish st

end

end Source
end Questionnaire
