import Questionnaire.Proofs.Source.Growth

/-!
# Questions fit their kinds

Each kind of line below a question marker has its own handler, and what a handler adds
is something that questions of the kind can have. So whatever the lines are and in
whatever order, the options and the input of the open question fit its kind
(`OpenFits.readInside`), and so do those of all questions (`Content.Fits.read`). A
question that is closed is settled too.
-/

namespace Questionnaire

open Text Decimal Source

/-! ## Options -/

/-- The option has nothing that only the rows of a breakdown have. -/
structure Choice.IsPlain (choice : Choice) : Prop where
  /-- It is not bound to a variable. -/
  varName : choice.varName = none
  /-- It is not subtracted from the total. -/
  subtract : choice.subtract = none
  /-- It is not left out of the total. -/
  exclude : choice.exclude = none
  /-- It is not a heading. -/
  header : choice.header = none
  /-- It is not a separator. -/
  separator : choice.separator = none
  /-- It is not a subtotal. -/
  subtotalLabel : choice.subtotalLabel = none
  /-- It has no formula. -/
  custom : choice.custom = none
  /-- It stands in no column. -/
  column : choice.column = none
  /-- It has no unit before it. -/
  unitBefore : choice.unitBefore = none
  /-- It has no unit after it. -/
  unitAfter : choice.unitAfter = none
  /-- It is not filled in at first. -/
  prefill : choice.prefill = none

/-- The option may stand in a question of the kind. -/
structure Choice.Fits (kind : QuestionKind) (choice : Choice) : Prop where
  /-- Only rows of a breakdown have what those can have. -/
  plain : kind ≠ .breakdown → choice.IsPlain
  /-- Columns are positive. -/
  column : ∀ column, choice.column = some column → 0 < column

namespace Choice.Fits

variable {kind : QuestionKind} {choice : Choice}

/-- An option as its own line makes it. -/
theorem fresh (kind : QuestionKind) (value label : Text) :
    ({ value, label } : Choice).Fits kind :=
  ⟨fun _ => ⟨rfl, rfl, rfl, rfl, rfl, rfl, rfl, rfl, rfl, rfl, rfl⟩, nofun⟩

/-- A row of a breakdown that stands in no column. -/
theorem row (hcolumn : choice.column = none) : choice.Fits .breakdown :=
  ⟨fun h => absurd rfl h, fun column h => by rw [hcolumn] at h; cases h⟩

theorem put (h : choice.Fits kind) (aspect : Aspect) (value : Text) :
    (choice.put aspect value).Fits kind := by
  cases aspect <;> exact ⟨fun hkind => { h.plain hkind with }, h.column⟩

theorem allowOther (h : choice.Fits kind) :
    ({ choice with allowsOther := some true } : Choice).Fits kind :=
  ⟨fun hkind => { h.plain hkind with }, h.column⟩

/-- The modifiers of a row of a breakdown leave its column what it is. -/
theorem modifyAmount (h : choice.Fits .breakdown) (change : Modifier) (value : Text) :
    (State.modifyAmount change value choice).Fits .breakdown := by
  refine ⟨fun hkind => absurd rfl hkind, ?_⟩
  cases change <;> exact h.column

end Choice.Fits

/-! ## Bodies -/

namespace Body

theorem settled_settled (body : Body) : body.settled.settled = body.settled := by
  cases body <;> rfl

/-- The input of a matrix that was given. -/
def input? : Body → Option Text
  | .matrix _ _ input => input
  | _ => none

/-- **What lines leave to be true of a body**: its options and its input fit its kind. -/
structure Fits (body : Body) : Prop where
  /-- The options may stand in a question of the kind. -/
  options : ∀ choice ∈ body.options, choice.Fits body.kind
  /-- The input comes from an input word. -/
  input : ∀ input, body.input? = some input →
    ∃ word : InputWord, word.matrixInput? = some input

namespace Fits

variable {body next : Body}

theorem ofKind (kind : QuestionKind) : (Body.ofKind kind).Fits := by
  constructor
  · intro choice h
    cases kind <;> cases h
  · intro input h
    cases kind <;> cases h

/-- Only the kind, the options and the input are looked at. -/
theorem same (h : body.Fits) (hkind : next.kind = body.kind)
    (hoptions : next.options = body.options) (hinput : next.input? = body.input?) : next.Fits where
  options := by rw [hkind, hoptions]; exact h.options
  input := by rw [hinput]; exact h.input

theorem settled (h : body.Fits) : body.settled.Fits := by
  refine h.same ?_ ?_ ?_ <;> cases body <;> rfl

theorem withUnit (h : body.Fits) (isBefore : Bool) (value : Text) :
    (body.withUnit isBefore value).Fits := by
  refine h.same ?_ ?_ ?_ <;> cases body <;> cases isBefore <;> rfl

theorem withTotal (h : body.Fits) (value : Text) : (body.withTotal value).Fits := by
  refine h.same ?_ ?_ ?_ <;> cases body <;> rfl

theorem withInput (h : body.Fits) {word : InputWord} {input : Text}
    (hword : word.matrixInput? = some input) : (body.withInput input).Fits := by
  cases body with
  | matrix rows options old =>
      refine ⟨h.options, fun given hgiven => ⟨word, ?_⟩⟩
      rw [hword]
      exact hgiven
  | _ => exact h

theorem mapRows (h : body.Fits) (change : List Row → List Row) : (body.mapRows change).Fits := by
  refine h.same ?_ ?_ ?_ <;> cases body <;> rfl

theorem mapOptions (h : body.Fits) {change : List Choice → List Choice}
    (hchange : ∀ choice ∈ change body.options, choice.Fits body.kind) :
    (body.mapOptions change).Fits := by
  cases body with
  | choice | matrix | breakdown => exact ⟨hchange, h.input⟩
  | text | number => exact h

/-- Modifiers change the last option. -/
theorem changeLast (h : body.Fits) {change : Choice → Choice}
    (hchange : ∀ choice, choice.Fits body.kind → (change choice).Fits body.kind) :
    (body.mapOptions (Source.changeLast change)).Fits := by
  refine h.mapOptions fun choice hmem => ?_
  rcases mem_changeLast hmem with hold | ⟨last, hlast, rfl⟩
  · exact h.options choice hold
  · exact hchange last (h.options last hlast)

end Fits
end Body

/-- Conditions, hints and tooltips go with every kind. -/
theorem Body.Fits.putAt {question : Question} (h : question.body.Fits) (holder : Holder)
    (aspect : Aspect) (value : Text) : (question.putAt holder aspect value).body.Fits := by
  cases holder with
  | question => cases aspect <;> exact h
  | option => exact h.changeLast fun _ hchoice => hchoice.put aspect value
  | row => exact h.mapRows _
  | _ => exact h

namespace Source

/-! ## The handlers of lines -/

/-- **A column that is read is positive.** -/
theorem pos_of_columnOf {value : Text} {column : Nat} (h : columnOf value = .ok column) :
    0 < column := by
  simp only [columnOf] at h
  split at h
  · cases h
  · split at h
    · cases h
    · split at h
      · cases h
      · cases h
        omega

theorem pos_of_classify {context : Context} {raw : Text} {line : Line}
    (h : classify context raw = .ok line) (column : Nat) (hkind : line.kind = .column column) :
    0 < column := by
  have hvalued := classify_valued context raw
  rw [h] at hvalued
  generalize hresult : (Except.ok line : Except Fault Line) = result at hvalued
  cases hvalued with
  | plain hformed _ =>
      cases hresult
      rw [hkind] at hformed
      cases hformed
  | column _ _ =>
      obtain ⟨found, hfound, rfl⟩ := Except.map_eq_ok hresult.symm
      cases hkind
      exact pos_of_columnOf hfound
  | range _ _ | computation _ | navigation _ _ =>
      obtain ⟨_, _, rfl⟩ := Except.map_eq_ok hresult.symm
      cases hkind

namespace State

/-- The open question fits its kind. -/
def OpenFits (st : State) : Prop :=
  ∀ question, st.question? = some question → question.body.Fits

namespace OpenFits

variable {st st' : State} {question : Question}

theorem of_eq (h : st.OpenFits) (hsame : st'.question? = st.question?) : st'.OpenFits :=
  fun question hquestion => h question (hsame ▸ hquestion)

theorem write (h : st.OpenFits) (holder : Holder) (aspect : Aspect) (value : Text) :
    (st.write holder aspect value).OpenFits := by
  intro next hnext
  rw [question?_write] at hnext
  obtain ⟨question, hquestion, rfl⟩ := Option.map_eq_some_iff.mp hnext
  exact (h question hquestion).putAt holder aspect value

theorem assign (h : st.OpenFits) (holder : Holder) (aspect : Aspect) (line : Nat)
    (value : Text) : (st.assign holder aspect line value).OpenFits := by
  rcases assign_cases holder aspect line value st with ⟨text, heq⟩ | ⟨capture, -, heq⟩
  · rw [heq]
    exact h.write holder aspect text
  · rw [heq]
    exact h.of_eq rfl

section

variable (h : st.OpenFits) (hquestion : st.question? = some question)
include h hquestion

theorem mapBody {change : Body → Body}
    (hchange : question.body.Fits → (change question.body).Fits) :
    (st.mapBody change).OpenFits := by
  intro next hnext
  obtain ⟨old, hold, rfl⟩ := Option.map_eq_some_iff.mp hnext
  obtain rfl := Option.some.inj (hquestion.symm.trans hold)
  exact hchange (h question hquestion)

theorem mapOption {change : Choice → Choice}
    (hchange : ∀ choice, choice.Fits question.kind → (change choice).Fits question.kind) :
    (st.mapOption change).OpenFits :=
  h.mapBody hquestion fun hfits => hfits.changeLast hchange

theorem mapRow (change : Row → Row) : (st.mapRow change).OpenFits :=
  h.mapBody hquestion fun hfits => hfits.mapRows _

theorem addOptions {added : List Choice} (hadded : ∀ choice ∈ added, choice.Fits question.kind) :
    (st.addOptions added).OpenFits := by
  refine (h.mapBody hquestion fun hfits => hfits.mapOptions ?_).of_eq rfl
  intro choice hmem
  rcases List.mem_append.mp hmem with hmem | hmem
  · exact hfits.options choice hmem
  · exact hadded choice hmem

/-- A row of a breakdown is added, or the line is passed over. -/
theorem addRow {added : Choice} (hcolumn : added.column = none) (line : Nat) (cause : Cause) :
    (if question.kind = .breakdown then st.addOptions [added]
      else st.warn line cause).OpenFits := by
  split
  · rename_i hkind
    refine h.addOptions hquestion fun choice hmem => ?_
    rw [List.mem_singleton.mp hmem, hkind]
    exact .row hcolumn
  · exact h.of_eq rfl

theorem readUnit (isBefore : Bool) (line : Nat) (value : Text) :
    (st.readUnit isBefore line value question).OpenFits := by
  rw [readUnit_eq isBefore line value hquestion]
  split
  · exact h.mapBody hquestion fun hfits => hfits.withUnit isBefore value
  · exact h.of_eq rfl

theorem readTotal (line : Nat) (value : Text) : (st.readTotal line value question).OpenFits := by
  rw [readTotal_eq line value hquestion]
  split
  · exact h.mapBody hquestion fun hfits => hfits.withTotal value
  · exact h.of_eq rfl

theorem readInput (word : InputWord) (line : Nat) :
    (st.readInput word line question).OpenFits := by
  rw [readInput_eq word line hquestion]
  split
  · exact h
  · split
    · rename_i input hinput
      obtain ⟨-, hword⟩ := Option.ite_none_right_eq_some.mp hinput
      exact h.mapBody hquestion fun hfits => hfits.withInput hword
    · exact h.of_eq rfl

theorem readSubtotal (line : Nat) (value : Text) :
    (st.readSubtotal line value question).OpenFits := by
  rw [readSubtotal_eq]
  split
  · exact h.mapRow hquestion _
  · exact h.addRow hquestion rfl line _

theorem readRange (first last : Int) (line : Nat) :
    (st.readRange first last line question).OpenFits := by
  rw [State.readRange]
  split
  · refine h.addOptions hquestion fun choice hmem => ?_
    obtain ⟨n, -, rfl⟩ := List.mem_map.mp hmem
    exact .fresh _ _ _
  · exact h.of_eq rfl

theorem readOption (line : Nat) (value : Text) :
    (st.readOption line value question).OpenFits := by
  rw [State.readOption]
  split
  · refine h.addOptions hquestion fun choice hmem => ?_
    rw [List.mem_singleton.mp hmem]
    exact .fresh _ _ _
  · exact h.of_eq rfl

theorem readMatrixRow (line : Nat) (value : Text) :
    (st.readMatrixRow line value question).OpenFits := by
  rw [readMatrixRow_eq]
  split
  · exact (h.mapBody hquestion fun hfits => hfits.mapRows _).of_eq rfl
  · exact h.of_eq rfl

theorem readHeader (line : Nat) (value : Text) :
    (st.readHeader line value question).OpenFits := by
  rw [readHeader_eq]
  exact h.addRow hquestion rfl line _

theorem readSeparator (line : Nat) : (st.readSeparator line question).OpenFits := by
  rw [readSeparator_eq]
  exact h.addRow hquestion rfl line _

theorem modifyRow (change : Modifier) (line : Nat) (value : Text) (row : Row) :
    (st.modifyRow change line value row).OpenFits := by
  cases change with
  | showIf | hint | tooltip => exact h.assign _ _ line value
  | varName | subtract | value => exact h.mapRow hquestion _
  | _ => exact h.of_eq rfl

/-- What only the rows of a breakdown have is set in a breakdown only. -/
theorem onBreakdown {change : Choice → Choice}
    (hchange : ∀ choice, choice.Fits .breakdown → (change choice).Fits .breakdown) (line : Nat)
    (cause : Cause) :
    (if question.isBreakdown then st.mapOption change else st.warn line cause).OpenFits := by
  split
  · rename_i hkind
    have hbreakdown : question.kind = .breakdown := of_decide_eq_true hkind
    exact h.mapOption hquestion (hbreakdown ▸ hchange)
  · exact h.of_eq rfl

theorem modifyOption (change : Modifier) (line : Nat) (value : Text) :
    (st.modifyOption change line value question).OpenFits := by
  have hamount := h.onBreakdown hquestion
    (fun _ hchoice => hchoice.modifyAmount change value) line (.onlyBreakdown change question.id)
  cases change with
  | showIf | hint | tooltip => exact h.assign _ _ line value
  | text => exact h.mapOption hquestion fun _ hchoice => hchoice.allowOther
  | _ => exact hamount

theorem readModifier (change : Modifier) (line : Nat) (value : Text) :
    (st.readModifier change line value question).OpenFits := by
  rw [State.readModifier]
  split
  · exact h.modifyRow hquestion change line value _
  · split
    · exact h.of_eq rfl
    · exact h.modifyOption hquestion change line value

theorem readColumn {column : Nat} (hcolumn : 0 < column) (line : Nat) :
    (st.readColumn column line question).OpenFits := by
  rw [State.readColumn]
  split
  · exact h.of_eq rfl
  · split
    · exact h.of_eq rfl
    · refine h.onBreakdown hquestion (fun choice _ => ⟨fun hkind => absurd rfl hkind, ?_⟩) line _
      intro given hgiven
      obtain rfl := Option.some.inj hgiven
      exact Int.natCast_pos.mpr hcolumn

theorem readInside (number : Nat) {line : Line}
    (hcolumn : ∀ column, line.kind = .column column → 0 < column) :
    (st.readInside number line question).OpenFits := by
  obtain ⟨kind, value⟩ := line
  cases kind with
  | hint => exact h.assign _ _ number value
  | varName =>
      intro next hnext
      obtain ⟨old, hold, rfl⟩ := Option.map_eq_some_iff.mp hnext
      exact h old hold
  | input word => exact h.readInput hquestion word number
  | unitBefore => exact h.readUnit hquestion true number value
  | unitAfter => exact h.readUnit hquestion false number value
  | total => exact h.readTotal hquestion number value
  | subtotal | rowSubtotal => exact h.readSubtotal hquestion number value
  | range first last => exact h.readRange hquestion first last number
  | option => exact h.readOption hquestion number value
  | matrixRow => exact h.readMatrixRow hquestion number value
  | modifier change => exact h.readModifier hquestion change number value
  | column column => exact h.readColumn hquestion (hcolumn column rfl) number
  | rowHeader => exact h.readHeader hquestion number value
  | rowSeparator => exact h.readSeparator hquestion number
  | _ => exact h

end

/-- A line that neither ends the question nor is text. -/
theorem readLine (h : st.OpenFits) {raw : Text} {line : Line}
    (hline : st.lineOf? raw = some line) (hkind : line.kind.isDivider = false)
    (htext : line.kind ≠ .text) (number : Nat) (after : List Text) :
    (st.readLine number line raw after).OpenFits := by
  have hquiet : st.quiet.OpenFits := h
  have hpaged : st.quiet.ensurePage.OpenFits := h
  have hcolumn := pos_of_classify (lineOf?_eq_some.mp hline).2.2.2
  cases hread : line.kind with
  | text => exact absurd hread htext
  | page | block | heading | question | computation _ =>
      rw [hread] at hkind
      cases hkind
  | blank =>
      simp only [State.readLine, hread, readBlank]
      split <;> exact hquiet
  | navigation keyword level =>
      simp only [State.readLine, hread, readLevel]
      split <;> exact hquiet
  | showIf =>
      simp only [State.readLine, hread]
      exact hquiet.assign _ _ number line.value
  | tooltip =>
      simp only [State.readLine, hread, readTooltip]
      split
      · exact hquiet.assign _ _ number line.value
      · split
        · exact (hquiet.of_eq (question?_closeText _)).assign _ _ number line.value
        · exact hpaged.assign _ _ number line.value
  | _ =>
      simp only [State.readLine, hread]
      split
      · exact hquiet
      · rename_i question hquestion
        exact hquiet.readInside hquestion number hcolumn

end OpenFits
end State

/-! ## All questions -/

/-- **What holds of all questions under way**: each fits its kind, and those that are
closed are settled. -/
structure Content.Fits (held : Content) : Prop where
  /-- The closed questions. -/
  closed : ∀ question ∈ held.items.filterMap Item.question?,
    question.body.Fits ∧ question.body.settled = question.body
  /-- The open question. -/
  opened : ∀ question, held.question? = some question → question.body.Fits

namespace Content.Fits

variable {held next : Content}

theorem empty : (State.content {}).Fits where
  closed := fun _ hmem => absurd hmem List.not_mem_nil
  opened := fun _ hopen => by cases hopen

/-- The open question is another one. -/
theorem setQuestion (h : held.Fits) (hitems : next.items = held.items)
    (hopened : ∀ question, next.question? = some question → question.body.Fits) : next.Fits :=
  ⟨hitems ▸ h.closed, hopened⟩

theorem same (h : held.Fits) (hitems : next.items = held.items)
    (hquestion : next.question? = held.question?) : next.Fits :=
  h.setQuestion hitems (hquestion ▸ h.opened)

theorem closeQuestion (h : held.Fits) : held.closeQuestion.Fits := by
  refine ⟨fun question hmem => ?_, fun question hquestion => ?_⟩
  · rw [items_closeQuestion, List.filterMap_append] at hmem
    rcases List.mem_append.mp hmem with hmem | hmem
    · exact h.closed question hmem
    · cases hopen : held.question? with
      | none => simp [hopen] at hmem
      | some old =>
          obtain rfl : question = old.settled := by simpa [hopen, Item.question?] using hmem
          exact ⟨(h.opened old hopen).settled, Body.settled_settled old.body⟩
  · rw [question?_closeQuestion] at hquestion
    cases hquestion

theorem settle (h : held.Fits) : held.settle.Fits := by
  refine ⟨fun question hmem => h.closeQuestion.closed question ?_, h.closeQuestion.opened⟩
  rw [Content.settle, List.filterMap_append, questions_textItem?, List.append_nil] at hmem
  exact hmem

theorem unquoted (h : held.Fits) : held.unquoted.Fits := by
  rw [Content.unquoted]
  split
  · exact h
  · refine h.setQuestion rfl fun question hquestion => ?_
    obtain ⟨old, hold, rfl⟩ := Option.map_eq_some_iff.mp hquestion
    exact (h.opened old hold).putAt _ _ _

/-- **Every line leaves all questions fit for their kinds.** -/
theorem read {number : Nat} {raw : Text} {after : List Text} {st st' : State}
    (h : st.content.Fits) (hread : st.read number raw after = .ok st') : st'.content.Fits := by
  have hquiet : ({ st.content with textOpen := false } : Content).Fits := h.same rfl rfl
  have htakes := State.read_takes hread
  generalize hnext : st'.content = next at htakes
  cases htakes with
  | quoted _ _ => exact h.same rfl rfl
  | @unquoted _ capture _ _ =>
      have hquoted : ({ st.content with capture? := some capture } : Content).Fits := h.same rfl rfl
      exact hquoted.unquoted
  | @continued old _ hquestion _ =>
      refine h.setQuestion rfl fun question hsome => ?_
      have hfits : old.body.Fits := h.opened old hquestion
      obtain rfl := Option.some.inj hsome
      exact hfits
  | said _ => exact h.closeQuestion.same rfl rfl
  | divided _ _ _ => exact hquiet.settle
  | asked _ _ =>
      refine hquiet.settle.setQuestion rfl fun question hsome => ?_
      obtain rfl := Option.some.inj hsome
      exact .ofKind _
  | spaced _ _ _ => exact h.same rfl rfl
  | noted _ _ _ _ content hcontent _ _ =>
      rcases hcontent with rfl | rfl
      · exact hquiet.same rfl rfl
      · exact hquiet.settle.same rfl rfl
  | inside hline hkind htext _ _ =>
      rw [State.read_of_lineOf? hline] at hread
      obtain rfl := Except.ok.inj hread
      refine h.setQuestion rfl ?_
      rw [← hnext]
      exact State.OpenFits.readLine h.opened hline hkind htext number after

end Content.Fits

end Source
end Questionnaire
