import Mathlib.Data.List.Nodup
import Questionnaire.Proofs.Source.Opaque
import Questionnaire.Proofs.Source.Rows

/-!
# The identity of questions

Every question marker opens one more question, and from then on the question
stands at its place in the order of the source, whatever is closed around it
(`continues_read`). So the markers number the questions of a survey, and asking
for a number gives the question that its marker opened (`identified_of_compile`).
-/

namespace Questionnaire

open Text Decimal Source

/-! ## One question -/

/-- **The question later on**: what it was still stands at its front. -/
structure Question.Continues (old new : Question) : Prop where
  /-- The identifier stays. -/
  id : new.id = old.id
  /-- The kind stays. -/
  kind : new.kind = old.kind
  /-- The text may become longer. -/
  text : old.text <+: new.text
  /-- Options may be added. -/
  values : old.options.map Choice.value <+: new.options.map Choice.value
  /-- Rows may be added. -/
  rows : old.rows.map Row.bare <+: new.rows.map Row.bare

namespace Question.Continues

theorem refl (question : Question) : question.Continues question :=
  ⟨rfl, rfl, List.prefix_rfl, List.prefix_rfl, List.prefix_rfl⟩

theorem trans {first second third : Question} (h : first.Continues second)
    (h' : second.Continues third) : first.Continues third where
  id := h'.id.trans h.id
  kind := h'.kind.trans h.kind
  text := h.text.trans h'.text
  values := h.values.trans h'.values
  rows := h.rows.trans h'.rows

variable {old new : Question}

theorem alike (h : old.Alike new) : old.Continues new where
  id := h.id
  kind := h.kind
  text := h.text ▸ List.prefix_rfl
  values := h.values ▸ List.prefix_rfl
  rows := h.rows ▸ List.prefix_rfl

theorem effect {line : Line} {selection? selection?' : Option Selection}
    {capture? : Option Capture} {cause? : Option Cause}
    (h : Effect line old selection? new selection?' capture? cause?) : old.Continues new := by
  obtain ⟨hid, htext, hkind⟩ := h.stays
  cases h with
  | sets hnext _ _ => exact alike hnext.alike
  | quotes _ _ _ | ignored _ _ _ _ _ | amendsQuoted _ _ _ _ _ => exact refl old
  | options hadded hsome _ =>
      refine ⟨hid, hkind, htext ▸ List.prefix_rfl, ?_, ?_⟩
      · rw [Question.options_mapOptions _ _ (Line.takesOptions_of_added hadded hsome),
          List.map_append]
        exact List.prefix_append _ _
      · exact Question.rows_mapOptions _ old ▸ List.prefix_rfl
  | row hrow =>
      refine ⟨hid, hkind, htext ▸ List.prefix_rfl, ?_, ?_⟩
      · exact Question.options_mapRows _ old ▸ List.prefix_rfl
      · rw [Question.rows_mapRows _ _ hrow.2, List.map_append]
        exact List.prefix_append _ _
  | labels _ => exact alike (.labels line.value old)
  | amends _ _ _ _ => exact alike (.amend _ _ old)

theorem develops (h : old.Develops new) : old.Continues new := by
  cases h with
  | settled =>
      exact ⟨rfl, State.kind_settled old, List.prefix_rfl,
        State.options_settled old ▸ List.prefix_rfl, State.rows_settled old ▸ List.prefix_rfl⟩
  | text more => exact ⟨rfl, rfl, List.prefix_append _ _, List.prefix_rfl, List.prefix_rfl⟩
  | alike h => exact alike h
  | effect h => exact effect h

end Question.Continues

/-! ## Identifiers of questions and rows -/

/-- The identifiers of a question and of its rows. -/
def Question.ids (question : Question) : List Text := question.id :: question.rows.map Row.id

theorem not_mem_writeNat (n : Nat) : '_' ∉ writeNat n := by
  intro h
  have hdigit : '_'.isDigit = true := Nat.isDigit_of_mem_toDigits (by decide) (by decide) h
  cases hdigit

theorem mem_firstIds {count : Nat} {id : Text} :
    id ∈ firstIds count ↔ ∃ n < count, 'Q' :: writeNat (n + 1) = id := by
  simp [firstIds]

theorem not_mem_of_mem_firstIds {count : Nat} {id : Text} (h : id ∈ firstIds count) :
    '_' ∉ id := by
  obtain ⟨n, -, rfl⟩ := mem_firstIds.mp h
  exact List.not_mem_cons_of_ne_of_not_mem (by decide) (not_mem_writeNat _)

/-- What stands before the underscore tells which question an identifier is of. -/
theorem Question.takeWhile_of_mem_ids {question : Question} (hnumbered : question.Numbered)
    (hid : '_' ∉ question.id) {id : Text} (h : id ∈ question.ids) :
    id.takeWhile (· ≠ '_') = question.id := by
  have hfront : ∀ c ∈ question.id, decide (c ≠ '_') = true := fun c hc =>
    decide_eq_true fun hbar => hid (hbar ▸ hc)
  rcases List.mem_cons.mp h with rfl | h
  · rw [← List.append_nil question.id, List.takeWhile_append_of_pos (by simpa using hfront)]
    simp
  · rw [hnumbered.rows] at h
    obtain ⟨n, -, rfl⟩ := List.mem_map.mp h
    rw [List.takeWhile_append_of_pos hfront]
    simp

theorem Question.nodup_ids {question : Question} (hnumbered : question.Numbered)
    (hid : '_' ∉ question.id) : question.ids.Nodup := by
  refine List.nodup_cons.mpr ⟨?_, ?_⟩
  · rw [hnumbered.rows]
    intro h
    obtain ⟨n, -, hn⟩ := List.mem_map.mp h
    exact hid (hn ▸ List.mem_append_right _ List.mem_cons_self)
  · rw [hnumbered.rows]
    refine List.pairwise_map.mpr (List.nodup_range.imp fun hne h => hne ?_)
    have := writeNat_injective (List.cons.inj (List.append_cancel_left h)).2
    omega

/-- Where the questions are numbered in order, no identifier is given twice. -/
theorem nodup_flatMap_ids {questions : List Question} {count : Nat}
    (hids : questions.map Question.id = firstIds count)
    (hnumbered : ∀ question ∈ questions, question.Numbered) :
    (questions.flatMap Question.ids).Nodup := by
  have hbar : ∀ question ∈ questions, '_' ∉ question.id := fun question hmem =>
    not_mem_of_mem_firstIds (hids ▸ List.mem_map_of_mem hmem)
  have hdistinct : questions.Pairwise fun first second => first.id ≠ second.id :=
    List.pairwise_map.mp (show (questions.map Question.id).Nodup from hids ▸ nodup_firstIds count)
  refine List.nodup_flatMap.mpr
    ⟨fun question hmem => Question.nodup_ids (hnumbered question hmem) (hbar question hmem), ?_⟩
  refine hdistinct.imp_of_mem fun hfirst hsecond hne id hid hid' => hne ?_
  rw [← Question.takeWhile_of_mem_ids (hnumbered _ hfirst) (hbar _ hfirst) hid,
    Question.takeWhile_of_mem_ids (hnumbered _ hsecond) (hbar _ hsecond) hid']

namespace Source

/-! ## All questions -/

theorem Content.Grows.continues {held next : Content} (h : held.Grows next) :
    Stands Question.Continues held.questions next.questions := by
  obtain ⟨last?, hrel, hquestions⟩ := h
  rw [hquestions, questions]
  refine .last .refl _ fun question hquestion => ?_
  rw [hquestion] at hrel
  cases hrel with
  | @some _ new hdevelops => exact ⟨new, rfl, .develops hdevelops⟩

/-- **Every line leaves each question at its place.** -/
theorem continues_read {number : Nat} {raw : Text} {after : List Text} {st st' : State}
    (hread : st.read number raw after = .ok st') :
    Stands Question.Continues st.content.questions st'.content.questions := by
  rcases (State.read_takes hread).grows with
    ⟨-, hgrows, -⟩ | ⟨line, settled, -, -, hgrows, hnew, -, -⟩
  · exact hgrows.continues
  · rw [hnew]
    exact hgrows.continues.trans (.of_append .refl _ _) Question.Continues.trans

/-! ## Counting markers -/

/-- A question marker is counted, and no other line is. -/
theorem Step.count_after {step : Step}
    (hread : step.before.read step.number step.raw step.behind = .ok step.after) :
    step.after.count = step.before.count + if step.IsMarker then 1 else 0 := by
  rcases (State.read_takes hread).grows with
    ⟨hother, -, hcount⟩ | ⟨line, settled, hline, hkind, -, -, -, hcount⟩
  · rw [if_neg (show ¬step.IsMarker from hother)]
    exact hcount
  · rw [if_pos (show step.IsMarker by rw [IsMarker, hline, ← hkind]; rfl)]
    exact hcount

/-- The questions are numbered, and there are as many as there have been markers. -/
def Counted (past : List Step) (st : State) : Prop :=
  st.content.questions.map Question.id = firstIds st.count ∧
    st.count = past.countP fun step => step.IsMarker

theorem Counted.empty : Counted [] {} := ⟨rfl, rfl⟩

theorem Counted.read {past : List Step} {step : Step} (h : Counted past step.before)
    (hread : step.before.read step.number step.raw step.behind = .ok step.after) :
    Counted (past ++ [step]) step.after := by
  refine ⟨ids_read h.1 hread, ?_⟩
  rw [Step.count_after hread, h.2, List.countP_append]
  simp [List.countP_cons]

/-- The question that a marker opens stands behind all questions before it. -/
theorem Step.opens {step : Step} (hmarker : step.IsMarker)
    (hread : step.before.read step.number step.raw step.behind = .ok step.after) :
    ∃ line, step.before.lineOf? step.raw = some line ∧ line.kind = .question ∧
      step.after.question? = some (step.before.fresh line.value step.behind) ∧
      step.after.content.questions[step.before.content.questions.length]?
        = some (step.before.fresh line.value step.behind) := by
  rcases (State.read_takes hread).grows with
    ⟨hother, -, -⟩ | ⟨line, settled, hline, hkind, hgrows, hnew, hopen, -⟩
  · exact absurd hmarker hother
  · refine ⟨line, hline, hkind, hopen, ?_⟩
    have hlength := congrArg List.length hgrows.map_id
    rw [List.length_map, List.length_map] at hlength
    rw [hnew, ← hlength, List.getElem?_concat_length]

/-! ## Whole sources -/

/-- **The questions of a survey are those of the markers of its source.** -/
structure Identified (run : List Step) (survey : Survey) : Prop where
  /-- The identifiers number the questions, of which there is one for each marker. -/
  ids : survey.questions.map Question.id = firstIds (run.countP fun step => step.IsMarker)
  /-- The identifiers of rows number the rows of a question. -/
  rows : ∀ question ∈ survey.questions, question.rows.map Row.id
    = (List.range question.rows.length).map fun n => question.id ++ '_' :: writeNat (n + 1)
  /-- No identifier is given twice. -/
  distinct : (survey.questions.flatMap Question.ids).Nodup
  /-- What is found by a number is what became of the question that the marker of the
  number opened, and it stands at that place of the survey. -/
  found : ∀ (k : Nat) (step : Step), (run.filter fun step => step.IsMarker)[k]? = some step →
    ∃ opened question, step.after.question? = some opened ∧
      (∃ line, step.before.lineOf? step.raw = some line ∧ line.kind = .question ∧
        opened = step.before.fresh line.value step.behind) ∧
      survey.question? ('Q' :: writeNat (k + 1)) = some question ∧
      survey.questions[k]? = some question ∧ opened.Continues question

/-- An element that a filter keeps, with what stands before it and behind it. -/
theorem exists_split_of_getElem?_filter {α : Type} {p : α → Bool} {all : List α} {k : Nat} {x : α}
    (h : (all.filter p)[k]? = some x) :
    p x = true ∧ ∃ earlier later, all = earlier ++ x :: later ∧ earlier.countP p = k := by
  induction all generalizing k with
  | nil => cases h
  | cons y all ih =>
      by_cases hy : p y = true
      · rw [List.filter_cons_of_pos hy] at h
        cases k with
        | zero =>
            obtain rfl : y = x := Option.some.inj h
            exact ⟨hy, [], all, rfl, rfl⟩
        | succ k =>
            obtain ⟨hx, earlier, later, rfl, hcount⟩ := ih (k := k) h
            exact ⟨hx, y :: earlier, later, rfl, by rw [List.countP_cons_of_pos hy, hcount]⟩
      · rw [List.filter_cons_of_neg hy] at h
        obtain ⟨hx, earlier, later, rfl, hcount⟩ := ih h
        exact ⟨hx, y :: earlier, later, rfl, by rw [List.countP_cons_of_neg hy, hcount]⟩

/-- Where no identifier is given twice, the one at a place finds the question there. -/
theorem question?_of_getElem? {survey : Survey} (hnodup : (survey.questions.map Question.id).Nodup)
    {k : Nat} {question : Question} (h : survey.questions[k]? = some question) :
    survey.question? question.id = some question := by
  obtain ⟨hk, rfl⟩ := List.getElem?_eq_some_iff.mp h
  refine List.find?_eq_some_iff_getElem.mpr ⟨by simp, k, hk, rfl, fun j hj => ?_⟩
  have hne := List.pairwise_iff_getElem.mp (List.pairwise_map.mp hnodup) j k (by omega) hk hj
  simpa using hne

/-- **The identity of questions.** The questions of a survey are numbered in the order
of the question markers of its source, its rows within their question, and asking for
a number gives the very question that the marker opened. -/
theorem identified_of_compile {source name : Text} {isChecked : Bool} {survey : Survey}
    (h : (compile source name isChecked).result = .ok survey) :
    Identified (steps 0 {} (sourceLines source)) survey := by
  have hids : survey.questions.map Question.id
      = firstIds ((steps 0 {} (sourceLines source)).countP fun step => step.IsMarker) := by
    obtain ⟨hids, hcount⟩ : Counted (steps 0 {} (sourceLines source))
        (State.readAll 0 {} (sourceLines source)).1 :=
      readAll_history (P := Counted) (fun _ _ => Counted.read) 0 .empty _
    rw [questions_of_compile h, (Content.Grows.settle _).map_id, (Content.Grows.unquoted _).map_id,
      hids, hcount]
  have hnumbered : ∀ question ∈ survey.questions, question.Numbered :=
    forall_questions_of_compile h Question.Numbered.fresh Question.Numbered.develops
  refine ⟨hids, fun question hmem => (hnumbered question hmem).rows,
    nodup_flatMap_ids hids hnumbered, fun k step hstep => ?_⟩
  obtain ⟨hmarker, earlier, later, hrun, hcount⟩ := exists_split_of_getElem?_filter hstep
  have hread := read_of_steps hrun
  obtain ⟨line, hline, hkind, hopen, hplace⟩ := Step.opens (of_decide_eq_true hmarker) hread
  -- As many questions stand before it as there are markers before its own.
  obtain ⟨hbefore, hmarkers⟩ : Counted earlier step.before := (steps_invariant
    (P := fun past st _ => Counted past st) (fun _ _ => Counted.read) [] .empty hrun).1
  have hlength : step.before.content.questions.length = k := by
    have hlength := congrArg List.length hbefore
    rwa [List.length_map, firstIds, List.length_map, List.length_range, hmarkers, hcount]
      at hlength
  -- From its marker to the end of the source it stays at this place.
  have hmem : step ∈ steps 0 {} (sourceLines source) := hrun ▸ by simp
  have hrest := rel_of_mem_steps
    (R := fun st st' => Stands Question.Continues st.content.questions st'.content.questions)
    (fun st => .refl .refl _) (fun h h' => h.trans h' Question.Continues.trans) continues_read hmem
  have hend := (hrest.trans (Content.Grows.unquoted _).continues Question.Continues.trans).trans
    (Content.Grows.settle _).continues Question.Continues.trans
  obtain ⟨question, hquestion, hcontinues⟩ := hend _ _ hplace
  rw [hlength, ← questions_of_compile h] at hquestion
  have hid : question.id = 'Q' :: writeNat (k + 1) := by
    rw [hcontinues.id, ← hcount, ← hmarkers]
    rfl
  refine ⟨_, question, hopen, ⟨line, hline, hkind, rfl⟩, ?_, hquestion, hcontinues⟩
  rw [← hid]
  exact question?_of_getElem? (nodup_ids_of_compile h) hquestion

/-- A matrix and a number on two pages. -/
def numberedSource : Text :=
  "Q: Rate\nMATRIX\n- Q: Speed\n- Q: Price\n# Next\nQ: Years\nNUMBER".toList

/-- The survey of `numberedSource`. -/
def numberedSurvey : Survey := (compile numberedSource [] true).result.toOption.getD { name := [] }

theorem identified_numberedSurvey :
    Identified (steps 0 {} (sourceLines numberedSource)) numberedSurvey ∧
      numberedSurvey.questions.flatMap Question.ids
        = ["Q1".toList, "Q1_1".toList, "Q1_2".toList, "Q2".toList] :=
  ⟨identified_of_compile
    (show (compile numberedSource [] true).result = .ok numberedSurvey by rfl), by decide +kernel⟩

end Source
end Questionnaire
