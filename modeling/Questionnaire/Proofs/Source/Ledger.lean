import Mathlib.Data.List.Forall2
import Questionnaire.Proofs.Source.Rows

/-!
# The ledger of a breakdown

What the rows of a breakdown are is said by the lines read inside it alone: a
line for rows posts them, and a modifier changes what was posted last (`post`).
The options of a breakdown are the postings of these lines in order, whatever
else the lines say about them (`records_of_compile`).
-/

namespace Questionnaire

open Text Decimal Source

/-! ## Postings -/

/-- What a row of a breakdown is by the line that makes it. -/
inductive Role where
  | amount
  | heading
  | separator
  | subtotal
deriving DecidableEq, Repr

/-- A row of a breakdown as its lines write it. -/
structure Posting where
  /-- What the row is. -/
  role : Role
  /-- The name of its cell; a subtotal is labelled with it. -/
  name : Text
  /-- Whether a modifier has its amount subtracted. -/
  isSubtracted : Bool := false
  /-- Whether a modifier excludes it. -/
  isExcluded : Bool := false
  /-- The formula that a modifier gives it. -/
  custom : Option Text := none
deriving DecidableEq, Repr

/-- The option is the row that was posted. -/
structure Posting.Records (posting : Posting) (choice : Choice) : Prop where
  name : choice.value = posting.name
  header : isSet choice.header = decide (posting.role = .heading)
  separator : isSet choice.separator = decide (posting.role = .separator)
  subtotal : choice.subtotalLabel = if posting.role = .subtotal then some posting.name else none
  subtract : isSet choice.subtract = posting.isSubtracted
  exclude : isSet choice.exclude = posting.isExcluded
  custom : choice.custom = posting.custom

/-- The options of a breakdown are the rows that were posted. -/
def Question.Records (postings : List Posting) (question : Question) : Prop :=
  question.kind = .breakdown → List.Forall₂ Posting.Records postings question.options

namespace Source

/-- The postings with what one more line inside the question says. -/
def post (postings : List Posting) (line : Line) : List Posting :=
  match line.kind with
  | .option => postings ++ [{ role := .amount, name := line.value }]
  | .range first last =>
    postings ++ (numbers first last).map fun n => { role := .amount, name := writeInt n }
  | .rowHeader => postings ++ [{ role := .heading, name := line.value }]
  | .rowSeparator =>
    postings ++ [{ role := .separator, name := "separator-".toList ++ writeNat postings.length }]
  | .rowSubtotal => postings ++ [{ role := .subtotal, name := line.value }]
  | .subtotal => postings ++ [{ role := .subtotal, name := line.value }]
  | .modifier .subtract => changeLast (fun posting => { posting with isSubtracted := true }) postings
  | .modifier .exclude => changeLast (fun posting => { posting with isExcluded := true }) postings
  | .modifier .custom =>
    changeLast (fun posting => { posting with custom := some line.value }) postings
  | _ => postings

/-- The postings of the lines of a question in order. -/
def ledger (lines : List Line) : List Posting := lines.foldl post []

/-- A line that does not concern rows posts nothing. -/
theorem post_of_not_isOfRows {line : Line} (h : line.kind.isOfRows = false)
    (postings : List Posting) : post postings line = postings := by
  obtain ⟨kind, value⟩ := line
  cases kind <;> first | rfl | cases h

end Source

/-! ## Questions that record a ledger -/

theorem Question.Records.of_same {postings : List Posting} {old new : Question}
    (h : old.Records postings) (hkind : new.kind = old.kind)
    (hoptions : new.options = old.options) : new.Records postings := by
  intro hbreakdown
  rw [hoptions]
  exact h (hkind ▸ hbreakdown)

theorem Question.Records.sameRows {postings : List Posting} {old new : Question}
    (h : old.Records postings) (hsame : old.SameRows new) : new.Records postings :=
  h.of_same hsame.kind hsame.options

theorem Question.Records.settled {postings : List Posting} {question : Question}
    (h : question.Records postings) : question.settled.Records postings :=
  h.of_same (State.kind_settled question) (State.options_settled question)

/-- The last posting and the last option change together. -/
theorem Posting.forall₂_changeLast {amend : Posting → Posting} {change : Choice → Choice}
    (hchange : ∀ posting choice, Posting.Records posting choice →
      Posting.Records (amend posting) (change choice))
    {postings : List Posting} {options : List Choice}
    (h : List.Forall₂ Posting.Records postings options) :
    List.Forall₂ Posting.Records (changeLast amend postings) (changeLast change options) := by
  induction h with
  | nil => exact .nil
  | cons hfirst hrest ih =>
      cases hrest with
      | nil => exact .cons (hchange _ _ hfirst) .nil
      | cons _ _ =>
          rw [changeLast_cons_cons, changeLast_cons_cons]
          exact .cons hfirst ih

namespace Question.Records

variable {postings : List Posting} {question : Question}

/-- The last option changes as the last posting does. -/
theorem mapOption (h : question.Records postings) {amend : Posting → Posting}
    {change : Choice → Choice} (hchange : ∀ posting choice, Posting.Records posting choice →
      Posting.Records (amend posting) (change choice)) :
    { question with body := question.body.mapOptions (changeLast change) }.Records
      (changeLast amend postings) := by
  intro hkind
  have hold : question.kind = .breakdown := (kind_mapOptions _ _).symm.trans hkind
  rw [options_mapOptions _ _ (by rw [hold]; rfl)]
  exact Posting.forall₂_changeLast hchange (h hold)

/-- A change of the last option that concerns no posting. -/
theorem passOption (h : question.Records postings) {change : Choice → Choice}
    (hchange : ∀ posting choice, Posting.Records posting choice →
      Posting.Records posting (change choice)) :
    { question with body := question.body.mapOptions (changeLast change) }.Records postings := by
  have hsame : changeLast (fun posting => posting) postings = postings := by
    simpa using map_changeLast (f := fun posting => posting) (fun _ => rfl) postings
  exact hsame ▸ h.mapOption hchange

/-- Options are added as they are posted. -/
theorem addOptions (h : question.Records postings) {posted : List Posting} {added : List Choice}
    (hadded : List.Forall₂ Posting.Records posted added) :
    { question with body := question.body.mapOptions (· ++ added) }.Records
      (postings ++ posted) := by
  intro hkind
  have hold : question.kind = .breakdown := (kind_mapOptions _ _).symm.trans hkind
  rw [options_mapOptions _ _ (by rw [hold]; rfl)]
  exact List.rel_append (h hold) hadded

/-- What may be written over several lines concerns no posting. -/
theorem putAt (h : question.Records postings) (holder : Holder) (aspect : Aspect) (value : Text) :
    (question.putAt holder aspect value).Records postings := by
  cases holder with
  | question => exact h.sameRows (.put aspect value question)
  | option =>
      refine h.passOption fun posting choice h => ?_
      cases aspect <;>
        exact ⟨h.name, h.header, h.separator, h.subtotal, h.subtract, h.exclude, h.custom⟩
  | row => exact h.of_same (kind_mapRows _ _) (options_mapRows _ _)
  | _ => exact h

end Question.Records

/-- No modifier inside a breakdown changes a row of a matrix. -/
theorem Question.selectedRow?_of_breakdown (question : Question) (h : question.kind = .breakdown)
    (selection? : Option Selection) :
    (if selection? = some .row then question.rows.getLast? else none) = none := by
  have hrows : question.rows = [] := by
    rw [kind] at h
    rw [rows]
    cases hbody : question.body with
    | matrix _ _ _ =>
        rw [hbody] at h
        cases h
    | _ => rfl
  rw [hrows]
  split <;> rfl

namespace Source

/-! ## Lines inside a breakdown -/

namespace State

/-- A question is open and records the postings. -/
def Records (postings : List Posting) (st : State) : Prop :=
  ∃ question, st.question? = some question ∧ question.Records postings

namespace Records

variable {postings : List Posting} {st : State}

theorem mapQuestion (h : st.Records postings) {change : Question → Question} {next : List Posting}
    (hchange : ∀ question : Question, st.question? = some question →
      question.Records postings → (change question).Records next) :
    (st.mapQuestion change).Records next := by
  obtain ⟨question, hquestion, hrecords⟩ := h
  refine ⟨change question, ?_, hchange question hquestion hrecords⟩
  rw [State.mapQuestion, hquestion, Option.map_some]

theorem write (h : st.Records postings) (holder : Holder) (aspect : Aspect) (value : Text) :
    (st.write holder aspect value).Records postings := by
  obtain ⟨question, hquestion, hrecords⟩ := h
  refine ⟨question.putAt holder aspect value, ?_, hrecords.putAt holder aspect value⟩
  rw [question?_write, hquestion, Option.map_some]

theorem assign (h : st.Records postings) (holder : Holder) (aspect : Aspect) (line : Nat)
    (value : Text) : (st.assign holder aspect line value).Records postings := by
  rcases assign_cases holder aspect line value st with ⟨text, heq⟩ | ⟨capture, _, heq⟩
  · rw [heq]
    exact h.write holder aspect text
  · rw [heq]
    exact h

theorem addOptions (h : st.Records postings) {posted : List Posting} {added : List Choice}
    (hadded : List.Forall₂ Posting.Records posted added) :
    (st.addOptions added).Records (postings ++ posted) :=
  h.mapQuestion fun _ _ hrecords => hrecords.addOptions hadded

theorem mapOption (h : st.Records postings) {amend : Posting → Posting} {change : Choice → Choice}
    (hchange : ∀ posting choice, Posting.Records posting choice →
      Posting.Records (amend posting) (change choice)) :
    (st.mapOption change).Records (changeLast amend postings) :=
  h.mapQuestion fun _ _ hrecords => hrecords.mapOption hchange

theorem passOption (h : st.Records postings) {change : Choice → Choice}
    (hchange : ∀ posting choice, Posting.Records posting choice →
      Posting.Records posting (change choice)) : (st.mapOption change).Records postings :=
  h.mapQuestion fun _ _ hrecords => hrecords.passOption hchange

end Records

/-- What a modifier changes of a row of a breakdown is what it posts. -/
private theorem Records.modifyAmount {postings : List Posting} {st : State}
    (h : st.Records postings) (change : Modifier) (value : Text) :
    (st.mapOption (modifyAmount change value)).Records
      (post postings ⟨.modifier change, value⟩) := by
  cases change with
  | subtract =>
      exact h.mapOption fun posting choice h =>
        ⟨h.name, h.header, h.separator, h.subtotal, rfl, h.exclude, h.custom⟩
  | exclude =>
      exact h.mapOption fun posting choice h =>
        ⟨h.name, h.header, h.separator, h.subtotal, h.subtract, rfl, h.custom⟩
  | custom =>
      exact h.mapOption fun posting choice h =>
        ⟨h.name, h.header, h.separator, h.subtotal, h.subtract, h.exclude, rfl⟩
  | _ =>
      exact h.passOption fun posting choice h =>
        ⟨h.name, h.header, h.separator, h.subtotal, h.subtract, h.exclude, h.custom⟩

section

variable {postings : List Posting} {st : State} {question : Question}
  (hquestion : st.question? = some question) (hbreakdown : question.kind = .breakdown)
  (h : st.Records postings)
include hquestion hbreakdown h

private theorem forall₂_options : List.Forall₂ Posting.Records postings question.options := by
  obtain ⟨other, hother, hrecords⟩ := h
  obtain rfl := Option.some.inj (hquestion.symm.trans hother)
  exact hrecords hbreakdown

private theorem records_readModifier (change : Modifier) (number : Nat) (value : Text) :
    (st.readModifier change number value question).Records
      (post postings ⟨.modifier change, value⟩) := by
  have hrow := question.selectedRow?_of_breakdown hbreakdown st.selection?
  have hopen : question.isBreakdown = true := by simp [Question.isBreakdown, hbreakdown]
  simp only [readModifier, hrow]
  split
  · rename_i hempty
    -- Where there are no options nothing has been posted.
    have hoptions := forall₂_options hquestion hbreakdown h
    rw [List.isEmpty_iff.mp hempty, List.forall₂_nil_right_iff] at hoptions
    subst hoptions
    cases change <;> exact h
  · cases change with
    | showIf => exact h.assign .option .showIf number value
    | hint => exact h.assign .option .hint number value
    | tooltip => exact h.assign .option .tooltip number value
    | text =>
        exact h.passOption fun posting choice h =>
          ⟨h.name, h.header, h.separator, h.subtotal, h.subtract, h.exclude, h.custom⟩
    | _ =>
        simp only [modifyOption, hopen, if_true]
        exact h.modifyAmount _ value

omit hquestion in
private theorem records_readColumn (column number : Nat) :
    (st.readColumn column number question).Records postings := by
  have hrow := question.selectedRow?_of_breakdown hbreakdown st.selection?
  have hopen : question.isBreakdown = true := by simp [Question.isBreakdown, hbreakdown]
  simp only [readColumn, hrow, hopen, if_true]
  split
  · exact h
  · exact h.passOption fun posting choice h =>
      ⟨h.name, h.header, h.separator, h.subtotal, h.subtract, h.exclude, h.custom⟩

/-- **A line inside a breakdown is recorded as it is posted.** -/
theorem records_readInside (number : Nat) (line : Line) :
    (st.readInside number line question).Records (post postings line) := by
  have hkind : question.body.kind = .breakdown := hbreakdown
  have htakes : question.body.takesOptions = true := by rw [question.takesOptions_eq, hbreakdown]; rfl
  have hlength := (forall₂_options hquestion hbreakdown h).length_eq
  -- One option for one posting.
  have hadds : ∀ {posting : Posting} {choice : Choice}, Posting.Records posting choice →
      (st.addOptions [choice]).Records (postings ++ [posting]) := fun hrecords =>
    h.addOptions (.cons hrecords .nil)
  obtain ⟨kind, value⟩ := line
  cases kind with
  | hint => exact h.assign .question .hint number value
  | varName => exact h.mapQuestion fun _ _ hrecords => hrecords.sameRows ⟨rfl, rfl, rfl, rfl, rfl⟩
  | input word =>
      show (st.readInput word number question).Records postings
      have hkind' : question.kind ≠ .matrix := by simp [hbreakdown]
      rw [readInput_eq word number hquestion, if_neg hkind']
      split <;> exact h
  | unitBefore =>
      show (st.readUnit true number value question).Records postings
      rw [readUnit_eq true number value hquestion, if_pos (.inr hbreakdown)]
      exact h.mapQuestion fun _ _ hrecords => hrecords.sameRows (.withUnit true value _)
  | unitAfter =>
      show (st.readUnit false number value question).Records postings
      rw [readUnit_eq false number value hquestion, if_pos (.inr hbreakdown)]
      exact h.mapQuestion fun _ _ hrecords => hrecords.sameRows (.withUnit false value _)
  | total =>
      show (st.readTotal number value question).Records postings
      rw [readTotal_eq number value hquestion, if_pos hbreakdown]
      exact h.mapQuestion fun _ _ hrecords => hrecords.sameRows (.withTotal value _)
  | subtotal | rowSubtotal =>
      show (st.readSubtotal number value question).Records _
      rw [readSubtotal_eq, if_neg (by simp [hbreakdown]), if_pos hbreakdown]
      exact hadds ⟨rfl, rfl, rfl, rfl, rfl, rfl, rfl⟩
  | range first last =>
      show (st.readRange first last number question).Records _
      rw [readRange, if_pos htakes]
      refine h.addOptions ?_
      rw [List.forall₂_map_left_iff, List.forall₂_map_right_iff, List.forall₂_same]
      exact fun n _ => ⟨rfl, rfl, rfl, rfl, rfl, rfl, rfl⟩
  | option =>
      show (st.readOption number value question).Records _
      rw [readOption, if_pos htakes]
      exact hadds ⟨rfl, rfl, rfl, rfl, rfl, rfl, rfl⟩
  | matrixRow =>
      show (st.readMatrixRow number value question).Records postings
      rw [readMatrixRow_eq, if_neg (by simp [hbreakdown])]
      exact h
  | modifier change => exact records_readModifier hquestion hbreakdown h change number value
  | column column => exact records_readColumn hbreakdown h column number
  | rowHeader =>
      show (st.readHeader number value question).Records _
      rw [readHeader_eq, if_pos hbreakdown]
      exact hadds ⟨rfl, rfl, rfl, rfl, rfl, rfl, rfl⟩
  | rowSeparator =>
      show (st.readSeparator number question).Records _
      rw [readSeparator_eq, if_pos hbreakdown, ← hlength]
      exact hadds ⟨rfl, rfl, rfl, rfl, rfl, rfl, rfl⟩
  | _ => exact h

end

/-- Inside a question that is no breakdown there is nothing to record. -/
private theorem Records.of_effect {next : List Posting} {number : Nat} {line : Line}
    {st st' : State} {question : Question} (hother : question.kind ≠ .breakdown)
    (h : Affects number line question st st') : st'.Records next := by
  obtain ⟨changed, _, _, _, heffect, rfl⟩ := h
  exact ⟨changed, rfl, fun hkind => absurd (heffect.stays.2.2.symm.trans hkind) hother⟩

/-- **A line that is read with a question open is recorded as it is posted**, unless it
is text or closes the question. -/
theorem records_read {postings : List Posting} {st st' : State} {number : Nat} {raw : Text}
    {after : List Text} {line : Line} (h : st.Records postings)
    (hline : st.lineOf? raw = some line) (hdivider : line.kind.isDivider = false)
    (htext : line.kind ≠ .text) (hread : st.read number raw after = .ok st') :
    st'.Records (post postings line) := by
  obtain rfl := Except.ok.inj ((read_of_lineOf? hline number after).symm.trans hread)
  obtain ⟨question, hquestion, hrecords⟩ := h
  have h : st.quiet.Records postings := ⟨question, hquestion, hrecords⟩
  have hopen : st.quiet.question? = some question := hquestion
  have hinside : (st.quiet.readInside number line question).Records (post postings line) := by
    by_cases hbreakdown : question.kind = .breakdown
    · exact records_readInside hopen hbreakdown h number line
    · exact Records.of_effect hbreakdown (Affects.readInside hopen (lineOf?_eq_some.mp hline).1
        (isProper_of_classify (lineOf?_eq_some.mp hline).2.2.2))
  have hpassed : line.kind.isOfRows = false → post postings line = postings := fun hother =>
    post_of_not_isOfRows hother postings
  cases hkind : line.kind with
  | text => exact absurd hkind htext
  | page | block | heading | question | computation _ =>
      rw [hkind] at hdivider
      cases hdivider
  | blank =>
      rw [hpassed (by rw [hkind]; rfl)]
      simp only [readLine, hkind, readBlank]
      rw [if_neg (by simp [hquestion])]
      exact h
  | navigation keyword level =>
      rw [hpassed (by rw [hkind]; rfl)]
      simp only [readLine, hkind, readLevel]
      split <;> exact h
  | showIf =>
      rw [hpassed (by rw [hkind]; rfl)]
      simp only [readLine, hkind]
      exact h.assign _ _ _ _
  | tooltip =>
      rw [hpassed (by rw [hkind]; rfl)]
      simp only [readLine, hkind, readTooltip]
      rw [if_pos (by simp [hquestion])]
      exact h.assign _ _ _ _
  | _ =>
      simp only [readLine, hkind]
      split
      · rename_i hnone
        cases hnone.symm.trans hopen
      · rename_i other hother
        obtain rfl := Option.some.inj (hother.symm.trans hopen)
        exact hinside

end State

/-! ## A run -/

/-- Inside the question the line of a step is what it was read as. -/
theorem Step.lineIn?_of_open {step : Step} {question : Question}
    (h : step.before.question? = some question) :
    step.lineIn? question.id = step.before.lineOf? step.raw := by
  rw [lineIn?, if_pos (by rw [h]; rfl)]

/-- A line that stands in no question or in another one is not read inside it. -/
theorem Step.lineIn?_of_other {step : Step} {id : Text}
    (h : ∀ question, step.before.question? = some question → question.id ≠ id) :
    step.lineIn? id = none := by
  rw [lineIn?, if_neg]
  intro hsome
  obtain ⟨question, hquestion, hid⟩ := Option.map_eq_some_iff.mp hsome
  exact h question hquestion hid

/-- What is known of the questions behind the steps of a run. -/
structure Recorded (past : List Step) (held : Content) : Prop where
  /-- The questions are numbered. -/
  ids : held.questions.map Question.id = firstIds held.count
  /-- No line was read inside a question that is still to come. -/
  opened : ∀ step ∈ past, ∀ question, step.before.question? = some question →
    question.id ∈ firstIds held.count
  /-- Every question records the lines that were read inside it. -/
  records : ∀ question ∈ held.questions,
    question.Records (ledger (past.filterMap (Step.lineIn? question.id)))

namespace Recorded

variable {past : List Step} {step : Step}

theorem id_mem (h : Recorded past step.before.content) {question : Question}
    (hquestion : step.before.question? = some question) :
    question.id ∈ firstIds step.before.count := by
  have hmem : question ∈ step.before.content.questions :=
    List.mem_append_right _ (Option.mem_toList.mpr hquestion)
  exact h.ids ▸ List.mem_map_of_mem hmem

/-- The closed questions record what they did, and the open one what the line adds. -/
private theorem of_last (h : Recorded past step.before.content) {next : Content}
    (last? : Option Question) (hquestions : next.questions
      = step.before.content.items.filterMap Item.question? ++ last?.toList)
    (hlast : ∀ last, last? = some last → ∃ question, step.before.question? = some question ∧
      last.id = question.id ∧ ∀ postings, question.Records postings →
        last.Records ((step.before.lineOf? step.raw).toList.foldl post postings)) :
    ∀ question ∈ next.questions,
      question.Records (ledger ((past ++ [step]).filterMap (Step.lineIn? question.id))) := by
  intro question hmem
  rw [hquestions] at hmem
  rw [List.filterMap_append]
  rcases List.mem_append.mp hmem with hmem | hmem
  · have hother : step.lineIn? question.id = none := by
      refine Step.lineIn?_of_other fun other hother hid => ?_
      have hnodup := nodup_firstIds step.before.content.count
      rw [← h.ids, Content.questions, List.map_append, List.nodup_append] at hnodup
      exact hnodup.2.2 _ (List.mem_map_of_mem hmem) _
        (List.mem_map_of_mem (Option.mem_toList.mpr hother)) hid.symm
    rw [List.filterMap_cons_none hother, List.filterMap_nil, List.append_nil]
    exact h.records question (List.mem_append_left _ hmem)
  · obtain ⟨old, hold, hid, hrecords⟩ := hlast question (Option.mem_toList.mp hmem)
    have holds := h.records old (List.mem_append_right _ (Option.mem_toList.mpr hold))
    have hsame : [step].filterMap (Step.lineIn? old.id)
        = (step.before.lineOf? step.raw).toList := by
      rw [← Step.lineIn?_of_open hold]
      cases hline : step.lineIn? old.id <;> simp [hline]
    rw [hid, hsame, ledger, List.foldl_append]
    exact hrecords _ holds

/-- A question that begins has no line yet. -/
private theorem of_fresh (h : Recorded past step.before.content) (text : Text) (after : List Text) :
    (step.before.fresh text after).Records (ledger ((past ++ [step]).filterMap
      (Step.lineIn? (step.before.fresh text after).id))) := by
  have hnew : (step.before.fresh text after).id ∉ firstIds step.before.count := by
    have hnodup := nodup_firstIds (step.before.count + 1)
    rw [firstIds_succ, List.nodup_append] at hnodup
    exact fun hmem => hnodup.2.2 _ hmem _ List.mem_cons_self rfl
  have hnone : (past ++ [step]).filterMap (Step.lineIn? (step.before.fresh text after).id) = [] := by
    refine List.filterMap_eq_nil_iff.mpr fun other hother => Step.lineIn?_of_other ?_
    intro question hquestion hid
    rcases List.mem_append.mp hother with hother | hother
    · exact hnew (hid ▸ h.opened other hother question hquestion)
    · obtain rfl := List.mem_singleton.mp hother
      exact hnew (hid ▸ h.id_mem hquestion)
  intro _
  rw [hnone, State.options_fresh]
  exact .nil

/-- **Every line is recorded in the question that it is read in.** -/
theorem read (h : Recorded past step.before.content)
    (hread : step.before.read step.number step.raw step.behind = .ok step.after) :
    Recorded (past ++ [step]) step.after.content := by
  have hgrows : ∀ id ∈ firstIds step.before.count, id ∈ firstIds step.after.count := by
    have hcount : step.before.count ≤ step.after.count := by
      rcases (State.read_takes hread).grows with ⟨_, _, hsame⟩ | ⟨_, _, _, _, _, _, _, hmore⟩
      · exact Nat.le_of_eq hsame.symm
      · have hnext : step.after.count = step.before.count + 1 := hmore
        omega
    intro id hid
    obtain ⟨n, hn, rfl⟩ := List.mem_map.mp hid
    have hless := Nat.lt_of_lt_of_le (List.mem_range.mp hn) hcount
    exact List.mem_map.mpr ⟨n, List.mem_range.mpr hless, rfl⟩
  refine ⟨ids_read h.ids hread, fun other hother question hquestion => hgrows _ ?_, ?_⟩
  · rcases List.mem_append.mp hother with hother | hother
    · exact h.opened other hother question hquestion
    · obtain rfl := List.mem_singleton.mp hother
      exact h.id_mem hquestion
  -- A line that does not concern rows posts nothing.
  have hpassed : (∀ line, step.before.lineOf? step.raw = some line → line.kind.isOfRows = false) →
      ∀ postings, (step.before.lineOf? step.raw).toList.foldl post postings = postings := by
    intro hother postings
    cases hline : step.before.lineOf? step.raw with
    | none => rfl
    | some line => exact post_of_not_isOfRows (hother line hline) postings
  have htakes := State.read_takes hread
  generalize hnext : step.after.content = next at htakes
  -- The open question, settled or not, where the line posts nothing.
  have hsettled : ∀ {change : Question → Question}, (∀ question, (change question).id = question.id) →
      (∀ {postings} {question : Question}, question.Records postings →
        (change question).Records postings) →
      (∀ line, step.before.lineOf? step.raw = some line → line.kind.isOfRows = false) →
      ∀ last, step.before.question?.map change = some last →
        ∃ question, step.before.question? = some question ∧ last.id = question.id ∧
          ∀ postings, question.Records postings →
            last.Records ((step.before.lineOf? step.raw).toList.foldl post postings) := by
    intro change hid hchange hother last hlast
    obtain ⟨question, hquestion, rfl⟩ := Option.map_eq_some_iff.mp hlast
    refine ⟨question, hquestion, hid question, fun postings hrecords => ?_⟩
    rw [hpassed hother]
    exact hchange hrecords
  cases htakes with
  | quoted hcapture _ =>
      refine h.of_last (step.before.question?.map fun question => question) ?_
        (hsettled (fun _ => rfl) (fun hrecords => hrecords) (by simp [State.lineOf?, hcapture]))
      rw [Option.map_id']
      rfl
  | @unquoted _ capture hcapture _ =>
      exact h.of_last _ rfl (hsettled
        (fun question =>
          (Question.Alike.putAt capture.holder capture.aspect capture.value question).id)
        (fun hrecords => hrecords.putAt _ _ _) (by simp [State.lineOf?, hcapture]))
  | @continued question htext hquestion _ =>
      refine h.of_last (step.before.question?.map
        fun question => { question with text := question.text ++ '\n' :: trim step.raw }) ?_
        (hsettled (fun _ => rfl) (fun hrecords => hrecords.of_same rfl rfl)
          fun line hline => by rw [htext.2 line hline]; rfl)
      rw [hquestion]
      rfl
  | said htext =>
      exact h.of_last _ (Content.questions_closeQuestion step.before.content)
        (hsettled (fun _ => rfl) Question.Records.settled
          fun line hline => by rw [htext.2 line hline]; rfl)
  | divided hline hdivider _ =>
      refine h.of_last _ ((Content.questions_settle _).trans (Content.questions_closeQuestion _))
        (hsettled (fun _ => rfl) Question.Records.settled fun other hother => ?_)
      obtain rfl := Option.some.inj (hline.symm.trans hother)
      exact LineKind.isOfRows_of_isDivider hdivider
  | @asked line hline hkind =>
      have hold := h.of_last _
        ((Content.questions_settle { step.before.content with textOpen := false }).trans
          (Content.questions_closeQuestion _))
        (hsettled (fun _ => rfl) Question.Records.settled fun other hother => by
          obtain rfl := Option.some.inj (hline.symm.trans hother)
          rw [hkind]
          rfl)
      intro question hmem
      have hquestions : question
          ∈ ({ step.before.content with textOpen := false } : Content).settle.questions
          ++ [step.before.fresh line.value step.behind] := by
        simpa [Content.questions, Content.settle] using hmem
      rcases List.mem_append.mp hquestions with hmem | hmem
      · exact hold question hmem
      · rw [List.mem_singleton.mp hmem]
        exact h.of_fresh line.value step.behind
  | spaced hline hkind hquestion =>
      refine h.of_last step.before.question? rfl fun last hlast => ?_
      rw [hquestion] at hlast
      cases hlast
  | noted hline _ _ hquestion content hcontent capture? _ =>
      refine h.of_last none ?_ fun last hlast => by cases hlast
      have hitems : step.before.content.questions
          = step.before.content.items.filterMap Item.question? := by
        show _ ++ step.before.question?.toList = _
        rw [hquestion, Option.toList_none, List.append_nil]
      rw [Option.toList_none, List.append_nil, ← hitems]
      rcases hcontent with rfl | rfl
      · rfl
      · refine (Content.questions_settle { step.before.content with textOpen := false }).trans ?_
        rw [Content.closeQuestion_of_none hquestion]
        rfl
  | @inside line question changed _ _ _ hline hdivider htext hquestion heffect =>
      refine h.of_last (some changed) rfl fun last hlast => ?_
      obtain rfl := Option.some.inj hlast
      refine ⟨question, hquestion, heffect.stays.1, fun postings hrecords => ?_⟩
      obtain ⟨after, hafter, hnew⟩ :=
        State.records_read ⟨question, hquestion, hrecords⟩ hline hdivider htext hread
      have hchanged : step.after.question? = some changed := congrArg Content.question? hnext
      obtain rfl := Option.some.inj (hchanged.symm.trans hafter)
      rw [hline]
      exact hnew

/-- What is known at the end of a run. -/
theorem of_readAll (lines : List Text) :
    Recorded (steps 0 {} lines) (State.readAll 0 {} lines).1.content := by
  have hstart : Recorded [] (State.content {}) :=
    ⟨rfl, fun _ hmem => (by cases hmem), fun _ hmem => (by cases hmem)⟩
  have hrun := readAll_history (P := fun past st => Recorded past st.content)
    (fun past step h hread => h.read hread) 0 hstart lines
  rwa [List.nil_append] at hrun

end Recorded

/-- **The options of a breakdown are the rows that its lines post**, in order. -/
theorem records_of_compile {source name : Text} {isChecked : Bool} {survey : Survey}
    (h : (compile source name isChecked).result = .ok survey) {question : Question}
    (hmem : question ∈ survey.questions) : question.Records
      (ledger ((steps 0 {} (sourceLines source)).filterMap (Step.lineIn? question.id))) := by
  have hrun := (Recorded.of_readAll (sourceLines source)).records
  rw [questions_of_compile h, Content.questions_settle, Content.questions_closeQuestion] at hmem
  generalize (State.readAll 0 {} (sourceLines source)).1.content = held at hrun hmem
  rcases List.mem_append.mp hmem with hmem | hmem
  · -- Closing quotes leaves the items what they are.
    refine hrun question (List.mem_append_left _ ?_)
    rw [Content.unquoted] at hmem
    split at hmem <;> exact hmem
  · obtain ⟨asked, hasked, rfl⟩ := Option.map_eq_some_iff.mp (Option.mem_toList.mp hmem)
    refine Question.Records.settled ?_
    rw [Content.unquoted] at hasked
    split at hasked
    · exact hrun asked (List.mem_append_right _ (Option.mem_toList.mpr hasked))
    · rename_i capture _
      obtain ⟨old, hold, rfl⟩ := Option.map_eq_some_iff.mp hasked
      have hsame := (Question.Alike.putAt capture.holder capture.aspect capture.value old).id
      have hrecords := hrun old (List.mem_append_right _ (Option.mem_toList.mpr hold))
      show (old.putAt _ _ _).Records (ledger (List.filterMap (Step.lineIn? (old.putAt _ _ _).id) _))
      rw [hsame]
      exact hrecords.putAt _ _ _

end Source
end Questionnaire
