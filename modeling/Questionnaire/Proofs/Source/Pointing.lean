import Questionnaire.Proofs.Source.Attributes
import Questionnaire.Proofs.Source.Cursor
import Questionnaire.Proofs.Source.Fences

/-!
# The pointers point to the last rows

A cursor that points to the last option and to the last row of the open question still
does so behind any line, and the line does to its state what it does to the state
(`read_pointed`). Of what the line changes it is enough to know that it is there: the
open question for most lines, a row of the selected kind for a modifier, and what the
open quotes belong to.
-/

namespace Questionnaire

open Text Decimal Source

/-- The identifier of a question, with the numbers of its options and of its rows. -/
def Question.extent (question : Question) : Text × Nat × Nat :=
  (question.id, question.options.length, question.rows.length)

theorem Question.extent_mapOptions {change : List Choice → List Choice}
    (h : ∀ items, (change items).length = items.length) (question : Question) :
    ({ question with body := question.body.mapOptions change } : Question).extent
      = question.extent := by
  cases hbody : question.body <;>
    simp [extent, options, rows, hbody, Body.mapOptions, Body.options, Body.rows, h]

theorem Question.extent_mapRows {change : List Row → List Row}
    (h : ∀ items, (change items).length = items.length) (question : Question) :
    ({ question with body := question.body.mapRows change } : Question).extent
      = question.extent := by
  cases hbody : question.body <;>
    simp [extent, options, rows, hbody, Body.mapRows, Body.options, Body.rows, h]

theorem Question.Alike.extent {old new : Question} (h : old.Alike new) :
    new.extent = old.extent := by
  have hoptions := congrArg List.length h.options
  have hrows := congrArg List.length h.rows
  rw [List.length_map, List.length_map] at hoptions hrows
  rw [Question.extent, h.id, hoptions, hrows, Question.extent]

theorem Question.named_eq {choice : Choice} (h : isSet choice.separator = false)
    (question : Question) : question.named choice = choice := by
  rw [named, h]
  rfl

theorem Body.mapOptions_congr {body : Body} {change other : List Choice → List Choice}
    (h : change body.options = other body.options) :
    body.mapOptions change = body.mapOptions other := by
  cases body <;> simp_all [mapOptions, options]

theorem Body.mapRows_congr {body : Body} {change other : List Row → List Row}
    (h : change body.rows = other body.rows) : body.mapRows change = body.mapRows other := by
  cases body <;> simp_all [mapRows, rows]

namespace Source

theorem exists_getLast? {α : Type} {items : List α} (h : items ≠ []) :
    ∃ last, items.getLast? = some last :=
  Option.ne_none_iff_exists'.mp (mt List.getLast?_eq_none_iff.mp h)

/-! ## Pointers to the last rows -/

/-- The pointer to the last of so many items of a question. -/
def Pointer.toLast? (id : Text) : Nat → Option Pointer
  | 0 => none
  | count + 1 => some ⟨id, count⟩

/-- The cursor in the state that points to the last option and to the last row of the open
question. -/
def State.pointed (st : State) : Cursor where
  state := st
  option? := st.question?.bind fun question => Pointer.toLast? question.id question.options.length
  row? := st.question?.bind fun question => Pointer.toLast? question.id question.rows.length

/-- What the cursor comes to where the state comes to a result. -/
def pointedResult : Except Fault State → Except Halt Cursor
  | .error fault => .error (.fault fault)
  | .ok next => .ok next.pointed

@[simp] theorem need_some_bind {α β : Type} (x : α) (f : α → Except Halt β) :
    (need (some x) >>= f) = f x := rfl

namespace State

variable {st st' : State} {question : Question}

@[simp] theorem state_pointed (st : State) : st.pointed.state = st := rfl

theorem pointed_eq (h : st.question? = some question) : st.pointed =
    ⟨st, Pointer.toLast? question.id question.options.length,
      Pointer.toLast? question.id question.rows.length⟩ := by
  simp [pointed, h]

/-- A pointer to the last item finds it. -/
theorem exists_toLast? {α : Type} (items : Question → List α) {last : α}
    (hquestion : st.question? = some question) (hlast : (items question).getLast? = some last) :
    ∃ pointer, Pointer.toLast? question.id (items question).length = some pointer ∧
      pointer.target? items st = some last ∧
      pointer.position = (items question).length - 1 := by
  obtain ⟨front, hitems⟩ := List.getLast?_eq_some_iff.mp hlast
  refine ⟨⟨question.id, front.length⟩, ?_, ?_, ?_⟩
  · simp [hitems, Pointer.toLast?]
  · simp [Pointer.target?, hquestion, hitems]
  · simp [hitems]

/-- As long as the open question has as many rows the pointers stay. -/
theorem move_pointed
    (h : st'.question?.map Question.extent = st.question?.map Question.extent) :
    st.pointed.move st' = st'.pointed := by
  cases hold : st.question? <;> cases hnew : st'.question? <;>
    simp_all [Question.extent, pointed, Cursor.move]

theorem move_pointed_of_eq (h : st'.question? = st.question?) :
    st.pointed.move st' = st'.pointed :=
  move_pointed (by rw [h])

/-- A question that is opened has no rows yet. -/
theorem move_pointed_of_none (h : st.question? = none)
    (hfresh : ∀ question, st'.question? = some question →
      question.options = [] ∧ question.rows = []) :
    st.pointed.move st' = st'.pointed := by
  cases hnew : st'.question? with
  | none => exact move_pointed_of_eq (hnew.trans h.symm)
  | some question =>
      obtain ⟨hoptions, hrows⟩ := hfresh question hnew
      simp [pointed, Cursor.move, h, hnew, hoptions, hrows, Pointer.toLast?]

theorem leave_pointed (st : State) : st.pointed.leave = st.closeQuestion.pointed := by
  rw [Cursor.leave, state_pointed]
  cases h : st.question? with
  | none => simp [closeQuestion, h]
  | some question => simp [pointed, closeQuestion, h]

/-! ## Values -/

theorem mapBody_congr {change other : Body → Body} (hquestion : st.question? = some question)
    (h : change question.body = other question.body) : st.mapBody change = st.mapBody other := by
  simp [mapBody, mapQuestion, hquestion, h]

theorem move_mapQuestion {change : Question → Question} (hquestion : st.question? = some question)
    (h : (change question).extent = question.extent) :
    st.pointed.move (st.mapQuestion change) = (st.mapQuestion change).pointed :=
  move_pointed (by simp [mapQuestion, hquestion, h])

theorem changeOption_pointed (hquestion : st.question? = some question)
    (hsome : question.options ≠ []) (change : Choice → Choice) :
    st.pointed.changeOption change = .ok (st.mapOption change).pointed := by
  obtain ⟨last, hlast⟩ := exists_getLast? hsome
  obtain ⟨pointer, hpointer, htarget, hposition⟩ :=
    exists_toLast? Question.options hquestion hlast
  have hoption : st.pointed.option? = some pointer := by simpa [pointed, hquestion] using hpointer
  have hset : st.mapBody (Body.mapOptions (·.set pointer.position (change last)))
      = st.mapOption change := by
    refine mapBody_congr hquestion (Body.mapOptions_congr ?_)
    rw [hposition]
    exact (changeLast_eq_set change hlast).symm
  have hmove : st.pointed.move (st.mapOption change) = (st.mapOption change).pointed :=
    move_mapQuestion hquestion (Question.extent_mapOptions (length_changeLast change) question)
  simp only [Cursor.changeOption, hoption, state_pointed, need_some_bind, htarget, hset, hmove]
  rfl

theorem changeRow_pointed (hquestion : st.question? = some question) (hsome : question.rows ≠ [])
    (change : Row → Row) :
    st.pointed.changeRow change = .ok (st.mapRow change).pointed := by
  obtain ⟨last, hlast⟩ := exists_getLast? hsome
  obtain ⟨pointer, hpointer, htarget, hposition⟩ :=
    exists_toLast? Question.rows hquestion hlast
  have hrow : st.pointed.row? = some pointer := by simpa [pointed, hquestion] using hpointer
  have hset : st.mapBody (Body.mapRows (·.set pointer.position (change last)))
      = st.mapRow change := by
    refine mapBody_congr hquestion (Body.mapRows_congr ?_)
    rw [hposition]
    exact (changeLast_eq_set change hlast).symm
  have hmove : st.pointed.move (st.mapRow change) = (st.mapRow change).pointed :=
    move_mapQuestion hquestion (Question.extent_mapRows (length_changeLast change) question)
  simp only [Cursor.changeRow, hrow, state_pointed, need_some_bind, htarget, hset, hmove]
  rfl

/-- What is written to something that is there is written where the pointers point. -/
theorem write_pointed {holder : Holder} (h : st.Holds holder) (aspect : Aspect) (value : Text) :
    st.pointed.write holder aspect value = .ok (st.write holder aspect value).pointed := by
  have hmove : st.pointed.move (st.write holder aspect value)
      = (st.write holder aspect value).pointed := by
    refine move_pointed ?_
    rw [question?_write, Option.map_map]
    refine Option.map_congr fun question _ => ?_
    exact (Question.Alike.putAt holder aspect value question).extent
  cases holder with
  | block => exact congrArg Except.ok hmove
  | page =>
      obtain ⟨page, hpage⟩ := Option.isSome_iff_exists.mp h
      simp only [Cursor.write, state_pointed, hpage, need_some_bind, hmove]
      rfl
  | heading =>
      obtain ⟨part, hpart⟩ := Option.isSome_iff_exists.mp h
      simp only [Cursor.write, state_pointed, hpart, need_some_bind, hmove]
      rfl
  | question =>
      obtain ⟨question, hquestion⟩ := h
      have hsome : st.question? = some question := hquestion
      simp only [Cursor.write, state_pointed, hsome, need_some_bind, hmove]
      rfl
  | option =>
      obtain ⟨question, hquestion, hhas⟩ := h
      rw [write_option]
      exact changeOption_pointed hquestion hhas (Choice.put aspect value)
  | row =>
      obtain ⟨question, hquestion, hhas⟩ := h
      rw [write_row]
      exact changeRow_pointed hquestion hhas (Row.put aspect value)

theorem assign_pointed {holder : Holder} (h : st.Holds holder) (aspect : Aspect) (line : Nat)
    (value : Text) : st.pointed.assign holder aspect line value
      = .ok (st.assign holder aspect line value).pointed := by
  cases hquotes : after? quotes value with
  | none =>
      simpa only [Cursor.assign, State.assign, hquotes] using write_pointed h aspect value
  | some rest =>
      by_cases hend : hasEnd quotes rest = true
      · simpa only [Cursor.assign, State.assign, hquotes, hend, if_true]
          using write_pointed h aspect _
      · have hsame : (st.assign holder aspect line value).question? = st.question? := by
          simp [State.assign, hquotes, hend]
        simp only [Cursor.assign, hquotes, hend]
        exact congrArg Except.ok (move_pointed_of_eq hsame)

theorem endCapture_pointed {capture : Capture} (h : st.Holds capture.holder) :
    st.pointed.endCapture capture = .ok (st.endCapture capture).pointed := by
  rw [Cursor.endCapture, write_pointed h]
  exact congrArg Except.ok (move_pointed_of_eq rfl)

theorem readQuoted_pointed {capture : Capture} (h : st.Holds capture.holder) (raw : Text) :
    st.pointed.readQuoted capture raw = .ok (st.readQuoted capture raw).pointed := by
  by_cases hend : hasEnd quotes (trim raw) = true
  · simp only [Cursor.readQuoted, State.readQuoted, hend, if_true]
    refine endCapture_pointed ?_
    split <;> exact h
  · simp only [Cursor.readQuoted, hend]
    refine congrArg Except.ok (move_pointed_of_eq ?_)
    simp [State.readQuoted, hend]

/-! ## Lines with a meaning anywhere -/

theorem closeQuestion_of_none (h : st.question? = none) : st.closeQuestion = st := by
  rw [closeQuestion, h]

@[simp] theorem closeQuestion_closeQuestion (st : State) :
    st.closeQuestion.closeQuestion = st.closeQuestion :=
  closeQuestion_of_none (question?_closeQuestion st)

theorem readText_pointed (raw : Text) (st : State) :
    st.pointed.readText raw = (st.readText raw).pointed := by
  by_cases hopen : (st.question?.isSome && st.textOpen && !st.isFenced) = true
  · obtain ⟨question, hquestion⟩ : ∃ question, st.question? = some question := by
      refine Option.isSome_iff_exists.mp ?_
      simp only [Bool.and_eq_true] at hopen
      exact hopen.1.1
    simp only [Cursor.readText, State.readText, state_pointed, hopen, if_true]
    exact move_mapQuestion hquestion rfl
  · have hread : st.readText raw
        = { st.closeQuestion with pending := st.closeQuestion.pending ++ [trimRight raw] } := by
      rw [readText, if_neg hopen]
    rw [Cursor.readText, state_pointed, if_neg hopen, leave_pointed, state_pointed,
      readText_of_none _ (question?_closeQuestion st), hread]
    exact move_pointed_of_eq rfl

theorem readTooltip_pointed (line : Nat) (value : Text) (st : State) :
    st.pointed.readTooltip line value = .ok (st.readTooltip line value).pointed := by
  rw [Cursor.readTooltip, State.readTooltip, state_pointed]
  split
  · rename_i hquestion
    have hholds : st.Holds .question := Option.isSome_iff_exists.mp hquestion
    exact assign_pointed hholds .tooltip line value
  · split
    · rename_i hcontent
      have hmove : st.pointed.move st.closeText = st.closeText.pointed :=
        move_pointed_of_eq (question?_closeText st)
      have hholds : st.closeText.Holds .heading := isSome_part?_closeText hcontent
      rw [hmove]
      exact assign_pointed hholds .tooltip line value
    · have hmove : st.pointed.move st.ensurePage = st.ensurePage.pointed := move_pointed_of_eq rfl
      have hholds : st.ensurePage.Holds .page := rfl
      rw [hmove]
      exact assign_pointed hholds .tooltip line value

/-! ## Rows -/

theorem question?_addOptions (hquestion : st.question? = some question) (added : List Choice) :
    (st.addOptions added).question?
      = some { question with body := question.body.mapOptions (· ++ added) } := by
  simp [addOptions, mapBody, mapQuestion, hquestion]

theorem addOptions_addOptions (added more : List Choice) (st : State) :
    (st.addOptions added).addOptions more = st.addOptions (added ++ more) := by
  cases hquestion : st.question? with
  | none => simp [addOptions, mapBody, mapQuestion, hquestion]
  | some question =>
      cases hbody : question.body <;>
        simp [addOptions, mapBody, mapQuestion, hquestion, hbody, Body.mapOptions]

theorem addOption_pointed (hquestion : st.question? = some question)
    (htakes : question.kind.takesOptions = true) (choice : Choice) :
    st.pointed.addOption choice = .ok (st.addOptions [question.named choice]).pointed := by
  rw [pointed_eq (question?_addOptions hquestion _), Question.options_mapOptions _ _ htakes,
    Question.rows_mapOptions, List.length_append]
  simp only [Cursor.addOption, hquestion, need_some_bind, pointed_eq hquestion]
  rfl

/-- Options that are added one by one are added together; only the first of them may be called by
its position. -/
theorem foldlM_addOption (hquestion : st.question? = some question)
    (htakes : question.kind.takesOptions = true) (first : Choice) {rest : List Choice}
    (hrest : ∀ choice ∈ rest, isSet choice.separator = false) :
    (first :: rest).foldlM Cursor.addOption st.pointed
      = .ok (st.addOptions ((first :: rest).map question.named)).pointed := by
  induction rest generalizing st question first with
  | nil =>
      rw [List.foldlM_cons, addOption_pointed hquestion htakes]
      rfl
  | cons second rest ih =>
      have hadded := question?_addOptions hquestion [question.named first]
      -- What is not a separator is named alike in both questions.
      have hnamed : ∀ other : Question, (second :: rest).map other.named = second :: rest :=
        fun other => (List.map_congr_left fun choice hmem =>
          Question.named_eq (hrest choice hmem) other).trans (List.map_id' _)
      rw [List.foldlM_cons, addOption_pointed hquestion htakes]
      refine (ih hadded ((Question.kind_mapOptions _ question).symm ▸ htakes) second
        fun choice hmem => hrest choice (List.mem_cons_of_mem _ hmem)).trans ?_
      rw [addOptions_addOptions, hnamed, List.map_cons, hnamed]
      rfl

/-- Of the options of a line only the first may be a separator. -/
theorem isSet_of_mem_tail_choices {line : Line} {kind : QuestionKind} {choice : Choice}
    (h : choice ∈ (line.choices kind).tail) : isSet choice.separator = false := by
  cases hkind : line.kind with
  | range first last =>
      have hmem := List.mem_of_mem_tail h
      simp only [Line.choices, hkind] at hmem
      split at hmem
      · obtain ⟨n, -, rfl⟩ := List.mem_map.mp hmem
        rfl
      · cases hmem
  | _ =>
      simp only [Line.choices, hkind] at h
      first
        | cases h
        | (split at h <;> cases h)

/-- The options that a line stands for are the ones that it adds. -/
theorem readInside_of_choices {line : Line} (h : line.choices question.kind ≠ []) (number : Nat)
    (st : State) : st.readInside number line question
      = st.addOptions ((line.choices question.kind).map question.named) := by
  have htakes := Line.takesOptions_of_choices h
  have hbody := question.takesOptions_eq.trans htakes
  -- But for options and ranges the lines are rows of breakdowns only.
  have hbreakdown : line.kind ≠ .option → (∀ first last, line.kind ≠ .range first last) →
      question.kind = .breakdown := by
    intro hoption hrange
    by_contra hother
    refine h ?_
    cases hkind : line.kind <;> simp_all [Line.choices]
  cases hkind : line.kind with
  | option =>
      simp [readInside, hkind, readOption, hbody, Line.choices, htakes, Question.named, isSet]
  | range first last =>
      simp [readInside, hkind, readRange, hbody, Line.choices, htakes, Question.named, isSet,
        Function.comp_def]
  | rowHeader =>
      have hkind' := hbreakdown (by simp [hkind]) (by simp [hkind])
      simp [readInside, hkind, readHeader_eq, hkind', Line.choices, Question.named, isSet]
  | rowSeparator =>
      have hkind' := hbreakdown (by simp [hkind]) (by simp [hkind])
      simp [readInside, hkind, readSeparator_eq, hkind', Line.choices, Question.named, isSet]
  | rowSubtotal | subtotal =>
      have hkind' := hbreakdown (by simp [hkind]) (by simp [hkind])
      simp [readInside, hkind, readSubtotal_eq, hkind', Line.choices, Question.named, isSet]
  | _ => simp [Line.choices, hkind] at h

/-- Whether a line stands for options or for none, the last option is pointed to behind it. -/
theorem readOptions_pointed {line : Line} (hquestion : st.question? = some question)
    (hcapture : st.capture? = none) (hproper : line.kind.IsProper) (hrow : line.kind ≠ .matrixRow)
    (number : Nat) : st.pointed.readOptions number line question
      = .ok (st.readInside number line question).pointed := by
  rw [Cursor.readOptions]
  split
  · rename_i hnone
    refine congrArg Except.ok (move_pointed ?_)
    have haffects : Affects number line question st (st.readInside number line question) :=
      Affects.readInside hquestion hcapture hproper
    obtain ⟨next, selection?, capture?, cause?, heffect, hnext⟩ := haffects
    rw [state_pointed, hnext, hquestion]
    rcases heffect.alike_or_makes with ⟨halike, -⟩ | ⟨added, hadded, hsome, -⟩ | ⟨hmatrix, -⟩
    · exact congrArg some halike.extent
    · exact absurd (List.map_eq_nil_iff.mp (hadded.trans hnone)) hsome
    · exact absurd hmatrix.1 hrow
  · rename_i choices hsome
    obtain ⟨first, rest, hchoices⟩ := List.exists_cons_of_ne_nil hsome
    have hrest : ∀ choice ∈ rest, isSet choice.separator = false := fun choice hmem =>
      isSet_of_mem_tail_choices (by rw [hchoices]; exact hmem)
    rw [readInside_of_choices hsome, hchoices]
    exact foldlM_addOption hquestion (Line.takesOptions_of_choices hsome) first hrest

theorem readMatrixRow_pointed (hquestion : st.question? = some question) (number : Nat)
    (value : Text) : st.pointed.readMatrixRow number value question
      = (st.readMatrixRow number value question).pointed := by
  rw [Cursor.readMatrixRow, state_pointed, readMatrixRow_eq]
  split
  · rename_i hmatrix
    have hnext : ∀ rows, { st.mapBody (Body.mapRows (· ++ rows)) with
        selection? := some .row }.question?
          = some { question with body := question.body.mapRows (· ++ rows) } := by
      simp [mapBody, mapQuestion, hquestion]
    rw [pointed_eq (hnext _), Question.options_mapRows, Question.rows_mapRows _ _ hmatrix,
      List.length_append, pointed_eq hquestion]
    rfl
  · exact move_pointed_of_eq rfl

/-! ## Modifiers -/

section

variable {row : Row}

theorem readModifier_row (hselection : st.selection? = some .row)
    (hrow : question.rows.getLast? = some row) (change : Modifier) (line : Nat) (value : Text) :
    st.readModifier change line value question = st.modifyRow change line value row := by
  simp [readModifier, hselection, hrow]

theorem readModifier_option (hselection : st.selection? = some .option)
    (hsome : question.options ≠ []) (change : Modifier) (line : Nat) (value : Text) :
    st.readModifier change line value question = st.modifyOption change line value question := by
  simp [readModifier, hselection, hsome]

theorem readColumn_row (hselection : st.selection? = some .row)
    (hrow : question.rows.getLast? = some row) (column line : Nat) (value : Text) :
    st.readColumn column line question = st.modifyRow .column line value row := by
  simp [readColumn, modifyRow, hselection, hrow]

theorem readColumn_option (hselection : st.selection? = some .option)
    (hsome : question.options ≠ []) (column line : Nat) :
    st.readColumn column line question
      = if question.isBreakdown then st.mapOption fun c => { c with column := some column }
        else st.warn line (.onlyBreakdown .column question.id) := by
  simp [readColumn, hselection, hsome]

end

section

variable (hquestion : st.question? = some question)
include hquestion

/-- The selected row is the one that modifiers change. -/
theorem current?_pointed {selection : Selection} (hhas : question.Has selection)
    (hselection : st.selection? = some selection) : st.pointed.current? = some selection := by
  have hlast : ∀ {α : Type} {items : List α}, items ≠ [] →
      (Pointer.toLast? question.id items.length).isSome = true := by
    rintro α (- | ⟨first, rest⟩) hsome
    · exact absurd rfl hsome
    · rfl
  rw [Cursor.current?, pointed_eq hquestion, hselection]
  cases selection with
  | option => simp [hlast hhas]
  | row => simp [hlast hhas]

theorem modifyRow_pointed {row : Row} (hrow : question.rows.getLast? = some row)
    (change : Modifier) (line : Nat) (value : Text) : st.pointed.modifyRow change line value
      = .ok (st.modifyRow change line value row).pointed := by
  have hsome : question.rows ≠ [] := by
    rintro hnil
    rw [hnil] at hrow
    cases hrow
  have hholds : st.Holds .row := ⟨question, hquestion, hsome⟩
  have hother : ∀ other, (do
      let pointer ← need st.pointed.row?
      let row ← need (pointer.target? Question.rows st)
      return st.pointed.move (st.warn line (.notForRow other row.id)))
        = .ok (st.warn line (.notForRow other row.id)).pointed := by
    intro other
    obtain ⟨pointer, hpointer, htarget, -⟩ := exists_toLast? Question.rows hquestion hrow
    have hpointed : st.pointed.row? = some pointer := by rw [pointed_eq hquestion, hpointer]
    simp only [hpointed, need_some_bind, htarget]
    exact congrArg Except.ok (move_pointed_of_eq rfl)
  cases change with
  | showIf => exact assign_pointed hholds .showIf line value
  | hint => exact assign_pointed hholds .hint line value
  | tooltip => exact assign_pointed hholds .tooltip line value
  | varName => exact changeRow_pointed hquestion hsome _
  | subtract => exact changeRow_pointed hquestion hsome _
  | value => exact changeRow_pointed hquestion hsome _
  | _ => exact hother _

/-- An amount is changed in a breakdown only. -/
private theorem amount_pointed (hsome : question.options ≠ []) (amount : Choice → Choice)
    (line : Nat) (cause : Cause) :
    (if question.isBreakdown then st.pointed.changeOption amount
      else return st.pointed.move (st.warn line cause))
      = .ok (if question.isBreakdown then st.mapOption amount else st.warn line cause).pointed := by
  split
  · exact changeOption_pointed hquestion hsome amount
  · exact congrArg Except.ok (move_pointed_of_eq rfl)

theorem modifyOption_pointed (hsome : question.options ≠ []) (change : Modifier) (line : Nat)
    (value : Text) :
    st.pointed.modifyOption change (modifyAmount change value) line value question
      = .ok (st.modifyOption change line value question).pointed := by
  have hholds : st.Holds .option := ⟨question, hquestion, hsome⟩
  have hamount := amount_pointed hquestion hsome (modifyAmount change value) line
    (.onlyBreakdown change question.id)
  cases change with
  | showIf => exact assign_pointed hholds .showIf line value
  | hint => exact assign_pointed hholds .hint line value
  | tooltip => exact assign_pointed hholds .tooltip line value
  | text => exact changeOption_pointed hquestion hsome _
  | _ => exact hamount

theorem readModifier_pointed {selection : Selection} (hhas : question.Has selection)
    (hselection : st.selection? = some selection) (change : Modifier) (line : Nat) (value : Text) :
    st.pointed.readModifier change (modifyAmount change value) line value question
      = .ok (st.readModifier change line value question).pointed := by
  rw [Cursor.readModifier, current?_pointed hquestion hhas hselection]
  cases selection with
  | row =>
      obtain ⟨row, hrow⟩ := exists_getLast? hhas
      rw [readModifier_row hselection hrow]
      exact modifyRow_pointed hquestion hrow change line value
  | option =>
      rw [readModifier_option hselection hhas]
      exact modifyOption_pointed hquestion hhas change line value

theorem readColumn_pointed {selection : Selection} (hhas : question.Has selection)
    (hselection : st.selection? = some selection) (column line : Nat) (value : Text) :
    st.pointed.readModifier .column (fun choice => { choice with column := some (column : Int) })
        line value question
      = .ok (st.readColumn column line question).pointed := by
  rw [Cursor.readModifier, current?_pointed hquestion hhas hselection]
  cases selection with
  | row =>
      obtain ⟨row, hrow⟩ := exists_getLast? hhas
      rw [readColumn_row hselection hrow column line value]
      exact modifyRow_pointed hquestion hrow .column line value
  | option =>
      rw [readColumn_option hselection hhas]
      exact amount_pointed hquestion hhas (fun choice => { choice with column := some column }) line
        (.onlyBreakdown .column question.id)

end

/-! ## Any line -/

theorem readInside_pointed {line : Line} (hquestion : st.question? = some question)
    (hcapture : st.capture? = none) (hproper : line.kind.IsProper)
    (hselected : line.kind.isModifier = true →
      ∃ selection, st.selection? = some selection ∧ question.Has selection) (number : Nat) :
    st.pointed.readInside number line question
      = .ok (st.readInside number line question).pointed := by
  cases hkind : line.kind with
  | hint =>
      have hholds : st.Holds .question := ⟨question, hquestion⟩
      simp only [Cursor.readInside, State.readInside, hkind]
      exact assign_pointed hholds .hint number line.value
  | matrixRow =>
      simp only [Cursor.readInside, State.readInside, hkind]
      exact congrArg Except.ok (readMatrixRow_pointed hquestion number line.value)
  | modifier change =>
      obtain ⟨selection, hselection, hhas⟩ := hselected (by rw [hkind]; rfl)
      simp only [Cursor.readInside, State.readInside, hkind]
      exact readModifier_pointed hquestion hhas hselection change number line.value
  | column column =>
      obtain ⟨selection, hselection, hhas⟩ := hselected (by rw [hkind]; rfl)
      simp only [Cursor.readInside, State.readInside, hkind]
      exact readColumn_pointed hquestion hhas hselection column number line.value
  | _ =>
      have hread := readOptions_pointed hquestion hcapture hproper (by simp [hkind]) number
      simp only [Cursor.readInside, hkind]
      exact hread

/-- A modifier stands where there is a row that it changes. -/
theorem exists_selection {line : Line} {raw : Text} (hstanding : st.content.Standing)
    (hquestion : st.question? = some question) (hline : st.lineOf? raw = some line)
    (hmodifier : line.kind.isModifier = true) :
    ∃ selection, st.selection? = some selection ∧ question.Has selection := by
  obtain ⟨selection, hselection⟩ := selection?_of_isModifier hline hmodifier
  obtain ⟨other, hother, hhas⟩ := hstanding.selected selection hselection
  obtain rfl := Option.some.inj (hquestion.symm.trans hother)
  exact ⟨selection, hselection, hhas⟩

/-- What a condition is written to is there. -/
theorem holds_showIfHolder (st : State) : st.Holds st.showIfHolder := by
  rw [showIfHolder]
  split
  · rename_i hquestion
    exact Option.isSome_iff_exists.mp hquestion
  · split
    · rename_i htitle
      obtain ⟨title, htitle⟩ := Option.isSome_iff_exists.mp htitle
      obtain ⟨part, hpart, -⟩ := Option.bind_eq_some_iff.mp htitle
      exact Option.isSome_iff_exists.mpr ⟨part, hpart⟩
    · split
      · assumption
      · trivial

@[simp] theorem closeSection_closeQuestion (st : State) :
    st.closeQuestion.closeSection = st.closeSection := by
  rw [closeSection, closeSection, closeQuestion_closeQuestion]

@[simp] theorem closePage_closeQuestion (st : State) :
    st.closeQuestion.closePage = st.closePage := by
  rw [closePage, closePage, closeSection_closeQuestion]

/-- A line that settles the question does the same where it is closed already. -/
theorem readLine_closeQuestion {line : Line} (hdivider : line.kind.isDivider = true) (number : Nat)
    (raw : Text) (after : List Text) (st : State) :
    st.quiet.closeQuestion.readLine number line raw after = st.readLine number line raw after := by
  have hquiet : { st.quiet.closeQuestion with textOpen := false } = st.quiet.closeQuestion := by
    cases hquestion : st.quiet.question? with
    | none => rw [closeQuestion_of_none hquestion]; rfl
    | some question => rw [closeQuestion_of_some hquestion]
  have hquiet' : { st with textOpen := false } = st.quiet := rfl
  cases hkind : line.kind with
  | page | block | heading | question | computation _ =>
      simp only [readLine, hkind, hquiet, hquiet', closeBlock, readQuestion, readComputation,
        closePage_closeQuestion, closeSection_closeQuestion, closeQuestion_closeQuestion]
  | _ =>
      rw [hkind] at hdivider
      cases hdivider

/-- Behind a line that settles the question there are no rows yet. -/
theorem rows_readLine {line : Line} (hdivider : line.kind.isDivider = true) (number : Nat)
    (raw : Text) (after : List Text) (h : (st.readLine number line raw after).question?
      = some question) : question.options = [] ∧ question.rows = [] := by
  cases hkind : line.kind with
  | question =>
      simp only [readLine, hkind, readQuestion, Option.some.injEq] at h
      rw [← h]
      simp only [Question.options, Question.rows]
      cases kindAhead after <;> exact ⟨rfl, rfl⟩
  | page | block | heading =>
      simp [readLine, hkind, closeBlock, ensurePage] at h
  | computation computed =>
      simp only [readLine, hkind, readComputation] at h
      split at h <;> simp at h
  | _ =>
      rw [hkind] at hdivider
      cases hdivider

/-- A line that settles the question leaves nothing to point to. -/
theorem divided_pointed {line : Line} (hdivider : line.kind.isDivider = true) (number : Nat)
    (raw : Text) (after : List Text) (st : State) :
    st.quiet.pointed.leave.move (st.quiet.pointed.leave.state.readLine number line raw after)
      = (st.readLine number line raw after).pointed := by
  rw [leave_pointed, state_pointed, readLine_closeQuestion hdivider]
  exact move_pointed_of_none (question?_closeQuestion _) fun _ =>
    rows_readLine hdivider number raw after

/-- A line inside a question finds it, and a modifier the selected row. -/
theorem inside_pointed {line : Line} {raw : Text} (hline : st.lineOf? raw = some line)
    (hstanding : st.content.Standing) (hinside : line.kind.isInside = true) (number : Nat)
    (after : List Text) : (do
      let question ← need st.quiet.question?
      st.quiet.pointed.readInside number line question)
        = .ok (st.readLine number line raw after).pointed := by
  obtain ⟨hcapture, -, -, hclassify⟩ := lineOf?_eq_some.mp hline
  obtain ⟨question, hquestion⟩ := question?_of_isInside hline hinside
  have hselected := exists_selection hstanding hquestion hline
  have hopen : st.quiet.question? = some question := hquestion
  rw [readLine_inside hquestion hinside, hopen, need_some_bind]
  exact readInside_pointed hopen hcapture (isProper_of_classify hclassify) hselected number

theorem readLine_pointed {line : Line} {raw : Text} (hline : st.lineOf? raw = some line)
    (hstanding : st.content.Standing) (number : Nat) (after : List Text) :
    st.pointed.readLine number line raw after
      = .ok (st.readLine number line raw after).pointed := by
  have hmove : st.pointed.move st.quiet = st.quiet.pointed := move_pointed_of_eq rfl
  have hother : st.quiet.readLine number line raw after = st.readLine number line raw after →
      (st.readLine number line raw after).question? = st.quiet.question? →
      st.quiet.pointed.move (st.quiet.readLine number line raw after)
        = (st.readLine number line raw after).pointed := by
    intro hsame hquestion
    rw [hsame]
    exact move_pointed_of_eq hquestion
  cases hkind : line.kind with
  | text =>
      simp only [Cursor.readLine, readLine, hkind]
      exact congrArg Except.ok (readText_pointed raw st)
  | showIf =>
      simp only [Cursor.readLine, readLine, hkind, state_pointed, hmove]
      exact assign_pointed (holds_showIfHolder _) .showIf number line.value
  | tooltip =>
      simp only [Cursor.readLine, readLine, hkind, state_pointed, hmove]
      exact readTooltip_pointed number line.value st.quiet
  | blank =>
      simp only [Cursor.readLine, hkind, state_pointed, hmove]
      refine congrArg Except.ok (hother (by simp only [readLine, hkind]; rfl) ?_)
      simp only [readLine, hkind, readBlank]
      split <;> rfl
  | navigation keyword level =>
      simp only [Cursor.readLine, hkind, state_pointed, hmove]
      refine congrArg Except.ok (hother (by simp only [readLine, hkind]; rfl) ?_)
      simp only [readLine, hkind, readLevel]
      split <;> rfl
  | page | block | heading | question | computation _ =>
      simp only [Cursor.readLine, hkind, state_pointed, hmove]
      exact congrArg Except.ok (divided_pointed (by rw [hkind]; rfl) number raw after st)
  | _ =>
      simp only [Cursor.readLine, hkind, state_pointed, hmove]
      exact inside_pointed hline hstanding (by rw [hkind]; rfl) number after

/-- **A line does to the cursor that points to the last rows what it does to the state**, if
what the line changes is there. -/
theorem read_pointed (hstanding : st.content.Standing) (hshelters : st.Shelters) (number : Nat)
    (raw : Text) (after : List Text) :
    st.pointed.read number raw after = pointedResult (st.read number raw after) := by
  cases hcapture : st.capture? with
  | some capture =>
      rw [read_of_capture raw hcapture]
      simp only [Cursor.read, state_pointed, hcapture]
      have hholds := (serves_of_standing hstanding hshelters raw).captured _ hcapture
      exact readQuoted_pointed hholds raw
  | none =>
      by_cases hfence : hasStart fence (trim raw) = true
      · rw [read_of_fence hcapture hfence]
        simp only [Cursor.read, state_pointed, hcapture, hfence, if_true]
        refine congrArg Except.ok (Eq.trans ?_ (readText_pointed raw _))
        exact congrArg (Cursor.readText raw) (move_pointed_of_eq rfl)
      · rw [Bool.not_eq_true] at hfence
        cases hfenced : st.isFenced with
        | true =>
            rw [read_of_isFenced hcapture hfence hfenced]
            simp only [Cursor.read, state_pointed, hcapture, hfence, hfenced, if_true]
            exact congrArg Except.ok (readText_pointed raw st)
        | false =>
            rw [read_of_classify hcapture hfence hfenced]
            simp only [Cursor.read, state_pointed, hcapture, hfence, hfenced]
            cases hclassify : classify st.context raw with
            | error fault => rfl
            | ok line =>
                exact readLine_pointed (lineOf?_eq_some.mpr ⟨hcapture, hfence, hfenced, hclassify⟩)
                  hstanding number after

/-- At the end the value of open quotes is written where the pointers point. -/
theorem finish_pointed (hstanding : st.content.Standing) (hshelters : st.Shelters) :
    st.pointed.finish = .ok st.finish := by
  cases hcapture : st.capture? with
  | none => simp only [Cursor.finish, finish, state_pointed, hcapture]; rfl
  | some capture =>
      have hholds := (serves_of_standing hstanding hshelters []).captured _ hcapture
      have hwarned : (st.warn capture.line .unclosed).Holds capture.holder := hholds
      have hmove : st.pointed.move (st.warn capture.line .unclosed)
          = (st.warn capture.line .unclosed).pointed := move_pointed_of_eq rfl
      simp only [Cursor.finish, finish, state_pointed, hcapture, hmove, endCapture_pointed hwarned]
      rfl

end State
end Source
end Questionnaire
