import Questionnaire.Proofs.Source.Parallel

/-!
# Lines read into two states

What a line does depends on the open question by no more than its outline: its
identifier, its kind, how many options it has and what its rows are called. So
each reader of a line does the same to two states that are one attribute apart
(`Apart.read`), and so does the reading of any number of lines (`Apart.readAll`).
-/

namespace Questionnaire

open Source

/-! ## Bodies -/

/-- The body with a unit, if it can have one. -/
def Body.withUnit (isBefore : Bool) (value : Text) : Body → Body
  | .number before after =>
    if isBefore then .number (some value) after else .number before (some value)
  | .breakdown options before after label column =>
    if isBefore then .breakdown options (some value) after label column
    else .breakdown options before (some value) label column
  | other => other

/-- The body with a label for its total, if it has one. -/
def Body.withTotal (value : Text) : Body → Body
  | .breakdown options before after _ column => .breakdown options before after (some value) column
  | other => other

/-- The body with an input for its cells, if it has any. -/
def Body.withInput (input : Text) : Body → Body
  | .matrix rows options _ => .matrix rows options (some input)
  | other => other

namespace Body.Apart

variable {edit : Edit} {holder : Holder} {body body' : Body}

theorem withUnit (isBefore : Bool) (value : Text) (h : Body.Apart edit holder body body') :
    Body.Apart edit holder (body.withUnit isBefore value) (body'.withUnit isBefore value) := by
  cases h with
  | choice many h => exact .choice many h
  | matrix rows h input => exact .matrix rows h input
  | breakdown h before after label column => cases isBefore <;> exact .breakdown h _ _ label column
  | rows h options input => exact .rows h options input

theorem withTotal (value : Text) (h : Body.Apart edit holder body body') :
    Body.Apart edit holder (body.withTotal value) (body'.withTotal value) := by
  cases h with
  | choice many h => exact .choice many h
  | matrix rows h input => exact .matrix rows h input
  | breakdown h before after label column => exact .breakdown h before after (some value) column
  | rows h options input => exact .rows h options input

theorem withInput (input : Text) (h : Body.Apart edit holder body body') :
    Body.Apart edit holder (body.withInput input) (body'.withInput input) := by
  cases h with
  | choice many h => exact .choice many h
  | matrix rows h _ => exact .matrix rows h (some input)
  | breakdown h before after label column => exact .breakdown h before after label column
  | rows h options _ => exact .rows h options (some input)

end Body.Apart

namespace Source.State

open Text Decimal

/-! ## Readers and the outline of the question -/

variable {st : State} {question : Question}

theorem readUnit_eq (isBefore : Bool) (line : Nat) (value : Text)
    (h : st.question? = some question) : st.readUnit isBefore line value question
      = if question.kind = .number ∨ question.kind = .breakdown then
          st.mapBody (Body.withUnit isBefore value)
        else st.warn line (.unfit (if isBefore then "PREFIX".toList else "SUFFIX".toList)
          question.id question.kind) := by
  rw [readUnit]
  cases hbody : question.body with
  -- Choices and texts are two kinds each, so `simp` needs the flag to be given.
  | choice many options => cases many <;> simp only [Question.kind, hbody, Body.kind] <;> rfl
  | text long => cases long <;> simp only [Question.kind, hbody, Body.kind] <;> rfl
  | matrix rows options input => simp only [Question.kind, hbody, Body.kind]; rfl
  | _ => simp [Question.kind, hbody, Body.kind, mapBody, mapQuestion, h, Body.withUnit]

theorem readTotal_eq (line : Nat) (value : Text) (h : st.question? = some question) :
    st.readTotal line value question
      = if question.kind = .breakdown then st.mapBody (Body.withTotal value)
        else st.warn line (.unfit "TOTAL".toList question.id question.kind) := by
  rw [readTotal]
  cases hbody : question.body with
  | choice many options => cases many <;> simp [Question.kind, hbody, Body.kind]
  | text long => cases long <;> simp [Question.kind, hbody, Body.kind]
  | _ => simp [Question.kind, hbody, Body.kind, mapBody, mapQuestion, h, Body.withTotal]

theorem readSubtotal_eq (line : Nat) (value : Text) (question : Question) (st : State) :
    st.readSubtotal line value question
      = if question.kind = .matrix ∧ question.rows ≠ [] then
          st.mapRow fun row => { row with subtotalLabel := some value }
        else if question.kind = .breakdown then
          st.addOptions [{ value, label := value, subtotalLabel := some value }]
        else st.warn line (.unfit "SUBTOTAL".toList question.id question.kind) := by
  rw [readSubtotal]
  cases hbody : question.body with
  | choice many options => cases many <;> simp [Question.kind, hbody, Body.kind]
  | text long => cases long <;> simp [Question.kind, hbody, Body.kind]
  | matrix rows options input =>
      cases rows <;> simp [Question.kind, Question.rows, hbody, Body.kind, Body.rows]
  | _ => simp [Question.kind, hbody, Body.kind]

theorem readInput_eq (word : InputWord) (line : Nat) (h : st.question? = some question) :
    st.readInput word line question
      = if question.kind = word.kind then st
        else match if question.kind = .matrix then word.matrixInput? else none with
          | some input => st.mapBody (Body.withInput input)
          | none => st.warn line (.settled word question.id question.kind) := by
  rw [readInput]
  split
  · rfl
  · cases hbody : question.body with
    | choice many options => cases many <;> simp [Question.kind, hbody, Body.kind]
    | text long => cases long <;> simp [Question.kind, hbody, Body.kind]
    | matrix rows options input =>
        cases word.matrixInput? <;>
          simp [Question.kind, hbody, Body.kind, mapBody, mapQuestion, h, Body.withInput]
    | _ => simp [Question.kind, hbody, Body.kind]

theorem readMatrixRow_eq (line : Nat) (value : Text) (question : Question) (st : State) :
    st.readMatrixRow line value question
      = if question.kind = .matrix then
          { st.mapBody (Body.mapRows (· ++ [({
              id := question.id ++ '_' :: writeNat (question.rows.length + 1)
              text := value } : Row)])) with selection? := some .row }
        else st.warn line (.unfit "Matrix row".toList question.id question.kind) := by
  rw [readMatrixRow]
  cases hbody : question.body with
  | choice many options => cases many <;> simp [Question.kind, hbody, Body.kind]
  | text long => cases long <;> simp [Question.kind, hbody, Body.kind]
  | _ => simp [Question.kind, Question.rows, hbody, Body.kind, Body.rows]

theorem readHeader_eq (line : Nat) (value : Text) (question : Question) (st : State) :
    st.readHeader line value question
      = if question.kind = .breakdown then
          st.addOptions [{ value, label := value, header := some true }]
        else st.warn line (.notBreakdown "HEADER".toList question.id) := by
  rw [readHeader]
  cases hbody : question.body with
  | choice many options => cases many <;> simp [Question.kind, hbody, Body.kind]
  | text long => cases long <;> simp [Question.kind, hbody, Body.kind]
  | _ => simp [Question.kind, hbody, Body.kind]

theorem readSeparator_eq (line : Nat) (question : Question) (st : State) :
    st.readSeparator line question
      = if question.kind = .breakdown then
          st.addOptions [{ value := "separator-".toList ++ writeNat question.options.length
                           label := [], separator := some true }]
        else st.warn line (.notBreakdown "SEPARATOR".toList question.id) := by
  rw [readSeparator]
  cases hbody : question.body with
  | choice many options => cases many <;> simp [Question.kind, hbody, Body.kind]
  | text long => cases long <;> simp [Question.kind, hbody, Body.kind]
  | _ => simp [Question.kind, Question.options, hbody, Body.kind, Body.options]

/-! ## The cases of a line -/

theorem read_of_capture {number : Nat} (raw : Text) {after : List Text} {capture : Capture}
    (h : st.capture? = some capture) :
    st.read number raw after = .ok (st.readQuoted capture raw) := by
  rw [read, h]

theorem read_of_fence {number : Nat} {raw : Text} {after : List Text} (h : st.capture? = none)
    (hfence : hasStart fence (trim raw) = true) :
    st.read number raw after = .ok ({ st with isFenced := !st.isFenced }.readText raw) := by
  simp only [read, h, hfence, if_true]

theorem read_of_isFenced {number : Nat} {raw : Text} {after : List Text} (h : st.capture? = none)
    (hfence : hasStart fence (trim raw) = false) (hfenced : st.isFenced = true) :
    st.read number raw after = .ok (st.readText raw) := by
  simp [read, h, hfence, hfenced]

theorem read_of_classify {number : Nat} {raw : Text} {after : List Text} (h : st.capture? = none)
    (hfence : hasStart fence (trim raw) = false) (hfenced : st.isFenced = false) :
    st.read number raw after
      = (classify st.context raw).map fun line => st.readLine number line raw after := by
  simp [read, h, hfence, hfenced]

/-! ## Writing an attribute -/

theorem write_block (aspect : Aspect) (value : Text) (st : State) :
    st.write .block aspect value = { st with block := st.block.put aspect value } := by
  cases aspect <;> rfl

theorem write_page (aspect : Aspect) (value : Text) (st : State) :
    st.write .page aspect value = { st with page? := st.page?.map (Page.put aspect value) } := by
  cases aspect with
  | hint => exact congrArg (fun page? => { st with page? }) Option.map_id'.symm
      -- Pages have no hint.
  | _ => rfl

theorem write_heading (aspect : Aspect) (value : Text) (st : State) :
    st.write .heading aspect value
      = { st with part? := st.part?.map (Section.put aspect value) } := by
  cases aspect with
  | hint => exact congrArg (fun part? => { st with part? }) Option.map_id'.symm
  | _ => rfl

theorem write_question (aspect : Aspect) (value : Text) (st : State) :
    st.write .question aspect value = st.mapQuestion (Question.put aspect value) := by
  cases aspect <;> rfl

theorem write_option (aspect : Aspect) (value : Text) (st : State) :
    st.write .option aspect value = st.mapOption (Choice.put aspect value) := by
  cases aspect <;> rfl

theorem write_row (aspect : Aspect) (value : Text) (st : State) :
    st.write .row aspect value = st.mapRow (Row.put aspect value) := by
  cases aspect <;> rfl

/-- The last element with two values written. -/
private theorem changeLast_written {α : Type} {put : Aspect → Text → α → α} (edit : Edit)
    (items : List α) : OneApart (WrittenApart put edit)
      (changeLast (put edit.aspect edit.old) items)
      (changeLast (put edit.aspect edit.new) items) := by
  simp only [changeLast]
  cases items.getLast? with
  | none => exact .same items
  | some last => exact OneApart.concat _ (.written last)

/-- **Two values written in the same place** leave states that are apart there. -/
theorem Apart.ofWrite (holder : Holder) (edit : Edit) (st : State) :
    Apart edit holder (st.write holder edit.aspect edit.old)
      (st.write holder edit.aspect edit.new) := by
  -- Options and rows are written through the body of the open question, if there is one.
  have hbody : ∀ {holder : Holder} {change change' : Body → Body},
      (∀ body, change body = change' body ∨ Body.Apart edit holder (change body) (change' body)) →
        Apart edit holder (st.mapBody change) (st.mapBody change') := by
    intro holder change change' h
    cases hquestion : st.question? with
    | none =>
        simp only [State.mapBody, State.mapQuestion, hquestion]
        exact .same _
    | some question =>
        simp only [State.mapBody, State.mapQuestion, hquestion, Option.map_some]
        rcases h question.body with hsame | hapart
        · rw [hsame]
          exact .same _
        · exact .question st (.body question hapart)
  cases holder with
  | block =>
      rw [write_block, write_block]
      exact .block st (.own (.written st.block))
  | page =>
      rw [write_page, write_page]
      cases st.page? with
      | none => exact .same _
      | some page => exact .page st (.own (.written page))
  | heading =>
      rw [write_heading, write_heading]
      cases st.part? with
      | none => exact .same _
      | some part => exact .part st (.own (.written part))
  | question =>
      rw [write_question, write_question, State.mapQuestion, State.mapQuestion]
      cases st.question? with
      | none => exact .same _
      | some question => exact .question st (.own (.written question))
  | option =>
      rw [write_option, write_option]
      refine hbody fun body => ?_
      cases body with
      | choice many options => exact .inr (.choice many (changeLast_written edit options))
      | matrix rows options input =>
          exact .inr (.matrix rows (changeLast_written edit options) input)
      | breakdown options before after label column =>
          exact .inr (.breakdown (changeLast_written edit options) before after label column)
      | _ => exact .inl rfl
  | row =>
      rw [write_row, write_row]
      refine hbody fun body => ?_
      cases body with
      | matrix rows options input =>
          exact .inr (.rows (changeLast_written edit rows) options input)
      | _ => exact .inl rfl

namespace Apart

variable {edit : Edit} {holder : Holder} {st st' : State}

theorem mapOption {change : Choice → Choice}
    (hchange : ∀ aspect value choice,
      change (Choice.put aspect value choice) = (change choice).put aspect value)
    (h : Apart edit holder st st') :
    Apart edit holder (st.mapOption change) (st'.mapOption change) :=
  h.mapBody fun _ _ h => h.mapOptions fun _ _ h => h.changeLast fun _ _ h => h.map hchange

theorem mapRow {change : Row → Row}
    (hchange : ∀ aspect value row,
      change (Row.put aspect value row) = (change row).put aspect value)
    (h : Apart edit holder st st') :
    Apart edit holder (st.mapRow change) (st'.mapRow change) :=
  h.mapBody fun _ _ h => h.mapRows fun _ _ h => h.changeLast fun _ _ h => h.map hchange

theorem addOptions (h : Apart edit holder st st') (options : List Choice) :
    Apart edit holder (st.addOptions options) (st'.addOptions options) :=
  (h.mapBody fun _ _ h => h.mapOptions fun _ _ h => h.append_right options).change
    (fun st => { st with selection? := some .option }) fun _ _ => rfl

theorem write (h : Apart edit holder st st') (owner : Holder) (other : Aspect) (text : Text) :
    Apart edit holder (st.write owner other text) (st'.write owner other text) := by
  cases owner with
  | block =>
      rw [write_block, write_block]
      exact h.mapBlock fun _ _ h => h.put other text
  | page =>
      rw [write_page, write_page]
      exact h.mapPage fun _ _ h => h.put other text
  | heading =>
      rw [write_heading, write_heading]
      exact h.mapPart fun _ _ h => h.put other text
  | question =>
      rw [write_question, write_question]
      exact h.mapQuestion fun _ _ h => h.put other text
  | option =>
      rw [write_option, write_option]
      exact h.mapBody fun _ _ h => h.mapOptions fun _ _ h => h.changeLast fun _ _ h =>
        h.write Choice.writes_put other text
  | row =>
      rw [write_row, write_row]
      exact h.mapBody fun _ _ h => h.mapRows fun _ _ h => h.changeLast fun _ _ h =>
        h.write Row.writes_put other text

theorem setCapture (h : Apart edit holder st st') (capture? : Option Capture) :
    Apart edit holder { st with capture? := capture? } { st' with capture? := capture? } :=
  h.change (fun st => { st with capture? := capture? }) fun _ _ => rfl

theorem assign (h : Apart edit holder st st') (owner : Holder) (other : Aspect) (line : Nat)
    (value : Text) :
    Apart edit holder (st.assign owner other line value) (st'.assign owner other line value) := by
  rw [State.assign, State.assign]
  split
  · exact h.write owner other value
  · split
    · exact h.write owner other _
    · exact h.setCapture _

theorem endCapture (h : Apart edit holder st st') (capture : Capture) :
    Apart edit holder (st.endCapture capture) (st'.endCapture capture) :=
  (h.write capture.holder capture.aspect capture.value).setCapture none

theorem readQuoted (h : Apart edit holder st st') (capture : Capture) (raw : Text) :
    Apart edit holder (st.readQuoted capture raw) (st'.readQuoted capture raw) := by
  rw [State.readQuoted, State.readQuoted]
  split
  · exact h.endCapture _
  · exact h.setCapture _

/-! ## Lines inside a question -/

variable {question question' : Question}

theorem readUnit (h : Apart edit holder st st') (hsame : question.SameOutline question')
    (hst : st.question? = some question) (hst' : st'.question? = some question')
    (isBefore : Bool) (line : Nat) (value : Text) :
    Apart edit holder (st.readUnit isBefore line value question)
      (st'.readUnit isBefore line value question') := by
  rw [readUnit_eq _ _ _ hst, readUnit_eq _ _ _ hst', ← hsame.id, ← hsame.kind]
  split
  · exact h.mapBody fun _ _ h => h.withUnit isBefore value
  · exact h.warn _ _

theorem readTotal (h : Apart edit holder st st') (hsame : question.SameOutline question')
    (hst : st.question? = some question) (hst' : st'.question? = some question') (line : Nat)
    (value : Text) : Apart edit holder (st.readTotal line value question)
      (st'.readTotal line value question') := by
  rw [readTotal_eq _ _ hst, readTotal_eq _ _ hst', ← hsame.id, ← hsame.kind]
  split
  · exact h.mapBody fun _ _ h => h.withTotal value
  · exact h.warn _ _

theorem readSubtotal (h : Apart edit holder st st') (hsame : question.SameOutline question')
    (line : Nat) (value : Text) : Apart edit holder (st.readSubtotal line value question)
      (st'.readSubtotal line value question') := by
  have hrows : question.rows = [] ↔ question'.rows = [] := by
    rw [← List.map_eq_nil_iff (f := Row.id), hsame.rows, List.map_eq_nil_iff]
  rw [readSubtotal_eq, readSubtotal_eq, ← hsame.id, ← hsame.kind]
  simp only [ne_eq, hrows]
  split
  · exact h.mapRow fun aspect _ _ => by cases aspect <;> rfl
  · split
    · exact h.addOptions _
    · exact h.warn _ _

theorem readRange (h : Apart edit holder st st') (hsame : question.SameOutline question')
    (first last : Int) (line : Nat) : Apart edit holder (st.readRange first last line question)
      (st'.readRange first last line question') := by
  rw [State.readRange, State.readRange, ← hsame.takesOptions, ← hsame.id, ← hsame.kind]
  split
  · exact h.addOptions _
  · exact h.warn _ _

theorem readInput (h : Apart edit holder st st') (hsame : question.SameOutline question')
    (hst : st.question? = some question) (hst' : st'.question? = some question')
    (word : InputWord) (line : Nat) : Apart edit holder (st.readInput word line question)
      (st'.readInput word line question') := by
  rw [readInput_eq _ _ hst, readInput_eq _ _ hst', ← hsame.id, ← hsame.kind]
  split
  · exact h
  · split
    · exact h.mapBody fun _ _ h => h.withInput _
    · exact h.warn _ _

theorem readOption (h : Apart edit holder st st') (hsame : question.SameOutline question')
    (line : Nat) (value : Text) : Apart edit holder (st.readOption line value question)
      (st'.readOption line value question') := by
  rw [State.readOption, State.readOption, ← hsame.takesOptions, ← hsame.id, ← hsame.kind]
  split
  · exact h.addOptions _
  · exact h.warn _ _

theorem readMatrixRow (h : Apart edit holder st st') (hsame : question.SameOutline question')
    (line : Nat) (value : Text) : Apart edit holder (st.readMatrixRow line value question)
      (st'.readMatrixRow line value question') := by
  have hrows : question.rows.length = question'.rows.length := by
    simpa using congrArg List.length hsame.rows
  rw [readMatrixRow_eq, readMatrixRow_eq, ← hsame.id, ← hsame.kind, ← hrows]
  split
  · exact (h.mapBody fun _ _ h => h.mapRows fun _ _ h => h.append_right _).change
      (fun st => { st with selection? := some .row }) fun _ _ => rfl
  · exact h.warn _ _

theorem readHeader (h : Apart edit holder st st') (hsame : question.SameOutline question')
    (line : Nat) (value : Text) : Apart edit holder (st.readHeader line value question)
      (st'.readHeader line value question') := by
  rw [readHeader_eq, readHeader_eq, ← hsame.id, ← hsame.kind]
  split
  · exact h.addOptions _
  · exact h.warn _ _

theorem readSeparator (h : Apart edit holder st st') (hsame : question.SameOutline question')
    (line : Nat) : Apart edit holder (st.readSeparator line question)
      (st'.readSeparator line question') := by
  rw [readSeparator_eq, readSeparator_eq, ← hsame.id, ← hsame.kind, ← hsame.options]
  split
  · exact h.addOptions _
  · exact h.warn _ _

theorem modifyRow (h : Apart edit holder st st') {row row' : Row} (hrow : row.id = row'.id)
    (change : Modifier) (line : Nat) (value : Text) :
    Apart edit holder (st.modifyRow change line value row)
      (st'.modifyRow change line value row') := by
  cases change with
  | showIf => exact h.assign .row .showIf line value
  | hint => exact h.assign .row .hint line value
  | tooltip => exact h.assign .row .tooltip line value
  | varName => exact h.mapRow fun aspect _ _ => by cases aspect <;> rfl
  | subtract => exact h.mapRow fun aspect _ _ => by cases aspect <;> rfl
  | value => exact h.mapRow fun aspect _ _ => by cases aspect <;> rfl
  | _ =>
      simp only [State.modifyRow, hrow]
      exact h.warn _ _

/-- No modifier of an amount is one of the attributes that may be written over
several lines. -/
private theorem modifyAmount_put (change : Modifier) (value text : Text) (aspect : Aspect)
    (choice : Choice) : modifyAmount change text (choice.put aspect value)
      = (modifyAmount change text choice).put aspect value := by
  cases aspect <;> cases change <;> rfl

theorem modifyOption (h : Apart edit holder st st') (hsame : question.SameOutline question')
    (change : Modifier) (line : Nat) (value : Text) :
    Apart edit holder (st.modifyOption change line value question)
      (st'.modifyOption change line value question') := by
  -- What only breakdowns have is refused by kind, and the kind is the same.
  have hamount : Apart edit holder
      (if question.isBreakdown then st.mapOption (modifyAmount change value)
        else st.warn line (.onlyBreakdown change question.id))
      (if question'.isBreakdown then st'.mapOption (modifyAmount change value)
        else st'.warn line (.onlyBreakdown change question'.id)) := by
    rw [Question.isBreakdown, Question.isBreakdown, ← hsame.kind, ← hsame.id]
    split
    · exact h.mapOption fun aspect _ _ => modifyAmount_put change _ value aspect _
    · exact h.warn _ _
  cases change with
  | showIf => exact h.assign .option .showIf line value
  | hint => exact h.assign .option .hint line value
  | tooltip => exact h.assign .option .tooltip line value
  | text => exact h.mapOption fun aspect _ _ => by cases aspect <;> rfl
  | _ => exact hamount

/-- The row that a modifier changes is called the same. -/
private theorem getLast?_rows (hsame : question.SameOutline question') :
    (question.rows.getLast? = none ∧ question'.rows.getLast? = none) ∨ ∃ row row',
      question.rows.getLast? = some row ∧ question'.rows.getLast? = some row' ∧
        row.id = row'.id := by
  have hlast := congrArg List.getLast? hsame.rows
  rw [List.getLast?_map, List.getLast?_map] at hlast
  cases hrow : question.rows.getLast? with
  | none =>
      rw [hrow] at hlast
      exact .inl ⟨rfl, Option.map_eq_none_iff.mp hlast.symm⟩
  | some row =>
      rw [hrow] at hlast
      obtain ⟨row', hrow', hid⟩ := Option.map_eq_some_iff.mp hlast.symm
      exact .inr ⟨row, row', rfl, hrow', hid.symm⟩

private theorem isEmpty_options (hsame : question.SameOutline question') :
    question.options.isEmpty = question'.options.isEmpty := by
  rw [Bool.eq_iff_iff, List.isEmpty_iff_length_eq_zero, List.isEmpty_iff_length_eq_zero,
    hsame.options]

theorem readModifier (h : Apart edit holder st st') (hsame : question.SameOutline question')
    (change : Modifier) (line : Nat) (value : Text) :
    Apart edit holder (st.readModifier change line value question)
      (st'.readModifier change line value question') := by
  have hoption : Apart edit holder
      (if question.options.isEmpty then st.warn line (.noRow change)
        else st.modifyOption change line value question)
      (if question'.options.isEmpty then st'.warn line (.noRow change)
        else st'.modifyOption change line value question') := by
    rw [← isEmpty_options hsame]
    split
    · exact h.warn _ _
    · exact h.modifyOption hsame change line value
  rw [State.readModifier, State.readModifier, ← h.selection?_eq]
  -- With no row read the modifier goes on to the options, whatever is selected.
  by_cases hselection : st.selection? = some .row
  · rcases getLast?_rows hsame with ⟨hrow, hrow'⟩ | ⟨row, row', hrow, hrow', hid⟩
    · simpa only [hselection, if_true, hrow, hrow'] using hoption
    · simpa only [hselection, if_true, hrow, hrow'] using h.modifyRow hid change line value
  · simpa only [hselection, if_false] using hoption

theorem readColumn (h : Apart edit holder st st') (hsame : question.SameOutline question')
    (column : Nat) (line : Nat) : Apart edit holder (st.readColumn column line question)
      (st'.readColumn column line question') := by
  have hoption : Apart edit holder
      (if question.options.isEmpty then st.warn line (.noRow .column)
        else if question.isBreakdown then st.mapOption fun c => { c with column := some column }
        else st.warn line (.onlyBreakdown .column question.id))
      (if question'.options.isEmpty then st'.warn line (.noRow .column)
        else if question'.isBreakdown then st'.mapOption fun c => { c with column := some column }
        else st'.warn line (.onlyBreakdown .column question'.id)) := by
    rw [Question.isBreakdown, Question.isBreakdown, ← isEmpty_options hsame, ← hsame.kind,
      ← hsame.id]
    split
    · exact h.warn _ _
    · split
      · exact h.mapOption fun aspect _ _ => by cases aspect <;> rfl
      · exact h.warn _ _
  rw [State.readColumn, State.readColumn, ← h.selection?_eq]
  by_cases hselection : st.selection? = some .row
  · rcases getLast?_rows hsame with ⟨hrow, hrow'⟩ | ⟨row, row', hrow, hrow', hid⟩
    · simpa only [hselection, if_true, hrow, hrow'] using hoption
    · simpa only [hselection, if_true, hrow, hrow', hid] using h.warn line (.notForRow .column _)
  · simpa only [hselection, if_false] using hoption

/-- **A line inside a question** does the same to both. -/
theorem readInside (h : Apart edit holder st st') (hsame : question.SameOutline question')
    (hst : st.question? = some question) (hst' : st'.question? = some question')
    (number : Nat) (line : Line) : Apart edit holder (st.readInside number line question)
      (st'.readInside number line question') := by
  rw [State.readInside, State.readInside]
  split
  · exact h.assign _ _ _ _
  · exact h.mapQuestion fun _ _ h => h.setVarName _
  · exact h.readInput hsame hst hst' _ _
  · exact h.readUnit hsame hst hst' _ _ _
  · exact h.readUnit hsame hst hst' _ _ _
  · exact h.readTotal hsame hst hst' _ _
  · exact h.readSubtotal hsame _ _
  · exact h.readSubtotal hsame _ _
  · exact h.readRange hsame _ _ _
  · exact h.readOption hsame _ _
  · exact h.readMatrixRow hsame _ _
  · exact h.readModifier hsame _ _ _
  · exact h.readColumn hsame _ _
  · exact h.readHeader hsame _ _
  · exact h.readSeparator hsame _
  · exact h

/-! ## Any line -/

theorem quiet (h : Apart edit holder st st') :
    Apart edit holder { st with textOpen := false } { st' with textOpen := false } :=
  h.change (fun st => { st with textOpen := false }) fun _ _ => rfl

theorem readText (h : Apart edit holder st st') (raw : Text) :
    Apart edit holder (st.readText raw) (st'.readText raw) := by
  rw [State.readText, State.readText, ← h.isSome_question?, ← h.textOpen_eq, ← h.isFenced_eq]
  split
  · exact h.mapQuestion fun _ _ h => h.addText _
  · exact h.closeQuestion.change
      (fun st => { st with pending := st.pending ++ [trimRight raw] }) fun _ _ => rfl

theorem readBlank (h : Apart edit holder st st') :
    Apart edit holder st.readBlank st'.readBlank := by
  have hnone : st.question?.isNone = st'.question?.isNone := by
    rw [← Option.not_isSome, h.isSome_question?, Option.not_isSome]
  rw [State.readBlank, State.readBlank, ← hnone, ← h.pending_eq]
  split
  · exact h.change (fun other => { other with pending := st.pending ++ [[]] }) fun _ _ => rfl
  · exact h

theorem readQuestion (h : Apart edit holder st st') (text : Text) (after : List Text) :
    Apart edit holder (st.readQuestion text after) (st'.readQuestion text after) := by
  have hclosed := h.closeQuestion.closeText.ensurePage
  rw [State.readQuestion, State.readQuestion, ← hclosed.count_eq]
  generalize st.closeQuestion.closeText.ensurePage = t at hclosed ⊢
  exact (hclosed.ensurePart.setQuestion _).change
    (fun other => { other with count := t.count + 1, textOpen := true }) fun _ _ => rfl

/-- The title of the page that is open, or the one of a page that would be
opened. -/
private theorem title_getD (h : Apart edit holder st st') :
    (st.page?.getD {}).title = (st'.page?.getD {}).title := by
  rcases h.page?_cases with hsame | ⟨base, page, page', hpage, hst, hst'⟩
  · rw [hsame]
  · rw [hst, hst']
    exact hpage.title_eq

theorem readLevel (h : Apart edit holder st st') (level : Nat) :
    Apart edit holder (st.readLevel level) (st'.readLevel level) := by
  have htitle := title_getD h.ensurePage
  by_cases hlisted : st.isListed = true
  · rw [State.readLevel, State.readLevel, if_pos hlisted, if_pos (h.isListed_eq ▸ hlisted)]
    exact h.change (fun st => { st with
      entries := changeLast (fun entry => { entry with level := level }) st.entries })
      fun _ _ => rfl
  · rw [State.readLevel, State.readLevel, if_neg hlisted, if_neg (h.isListed_eq ▸ hlisted)]
    simp only [← htitle]
    exact h.ensurePage.change (fun other => { other with
      entries := other.entries ++ [{ name := (st.ensurePage.page?.getD {}).title, level := level }]
      isListed := true }) fun _ _ => rfl

theorem readComputation (h : Apart edit holder st st') (computed : Text × Text) :
    Apart edit holder (st.readComputation computed) (st'.readComputation computed) := by
  have hclosed := h.closeQuestion.closeText
  rw [State.readComputation, State.readComputation]
  generalize st.closeQuestion.closeText = t at hclosed ⊢
  generalize st'.closeQuestion.closeText = t' at hclosed ⊢
  have hnone : t.page? = none → t'.page? = none → Apart edit holder
      { t with block := { t.block with
          computations := t.block.computations ++ [⟨computed.1, computed.2⟩] } }
      { t' with block := { t'.block with
          computations := t'.block.computations ++ [⟨computed.1, computed.2⟩] } } :=
    fun _ _ => hclosed.mapBlock fun _ _ h => h.addComputation _
  have hsome := hclosed.mapPage fun _ _ h => h.addComputation ⟨computed.1, computed.2⟩
  -- A page takes the computation before the block does, differing or not.
  rcases hclosed.page?_cases with hsame | ⟨base, page, page', hpage, hst, hst'⟩
  · cases hpage : t.page? with
    | none =>
        have hpage' := hsame.symm.trans hpage
        simpa only [hpage, hpage'] using hnone hpage hpage'
    | some page =>
        have hpage' := hsame.symm.trans hpage
        simpa only [hpage, hpage', Option.map_some] using hsome
  · subst hst hst'
    exact .page base (hpage.addComputation _)

theorem showIfHolder_eq (h : Apart edit holder st st') :
    st.showIfHolder = st'.showIfHolder := by
  have hpart : (st.part?.bind Section.title) = st'.part?.bind Section.title := by
    rcases h.part?_cases with hsame | ⟨base, part, part', hpart, hst, hst'⟩
    · rw [hsame]
    · rw [hst, hst']
      exact hpart.title_eq
  have hpage : st.page?.isSome = st'.page?.isSome := by
    cases h <;> rfl
  rw [State.showIfHolder, State.showIfHolder, h.isSome_question?, hpart, hpage]

theorem sectionHasContent_eq (h : Apart edit holder st st') :
    st.sectionHasContent = st'.sectionHasContent := by
  rw [State.sectionHasContent, State.sectionHasContent, ← h.pending_eq]
  rcases h.part?_cases with hsame | ⟨base, part, part', hpart, hst, hst'⟩
  · rw [hsame]
  · rw [congrArg State.part? hst, congrArg State.part? hst']
    simp only [hpart.title_eq, hpart.isEmpty_items]

theorem readTooltip (h : Apart edit holder st st') (line : Nat) (value : Text) :
    Apart edit holder (st.readTooltip line value) (st'.readTooltip line value) := by
  rw [State.readTooltip, State.readTooltip, ← h.isSome_question?, ← h.sectionHasContent_eq]
  split
  · exact h.assign _ _ _ _
  · split
    · exact h.closeText.assign _ _ _ _
    · exact h.ensurePage.assign _ _ _ _

theorem readShowIf (h : Apart edit holder st st') (line : Nat) (value : Text) :
    Apart edit holder (st.readShowIf line value) (st'.readShowIf line value) := by
  rw [State.readShowIf, State.readShowIf, ← h.showIfHolder_eq]
  exact h.assign _ _ _ _

theorem readLine (h : Apart edit holder st st') (number : Nat) (line : Line) (raw : Text)
    (after : List Text) :
    Apart edit holder (st.readLine number line raw after)
      (st'.readLine number line raw after) := by
  have hquiet := h.quiet
  rw [State.readLine, State.readLine]
  split
  · exact h.readText raw
  · exact hquiet.readBlank
  · exact hquiet.closePage.setPage _
  · exact (hquiet.closeBlock.setBlock { name := line.value }).change
      (fun st => { st with isImplicit := false }) fun _ _ => rfl
  · exact hquiet.closeSection.ensurePage.setPart _
  · exact hquiet.readQuestion _ _
  · exact hquiet.readLevel _
  · exact hquiet.readComputation _
  · exact hquiet.readShowIf _ _
  · exact hquiet.readTooltip _ _
  · rcases h.question?_cases with ⟨hst, hst'⟩ | ⟨question, question', hst, hst', hsame⟩
    · simpa only [hst, hst'] using hquiet
    · simpa only [hst, hst'] using hquiet.readInside hsame hst hst' number line

/-- **One line read into two states that are apart**: it can be read into both or
into neither, and leaves them as far apart as they were. -/
theorem read (h : Apart edit holder st st') (number : Nat) (raw : Text) (after : List Text) :
    (∃ fault, st.read number raw after = .error fault ∧ st'.read number raw after = .error fault) ∨
      ∃ next next', st.read number raw after = .ok next ∧ st'.read number raw after = .ok next' ∧
        Apart edit holder next next' := by
  cases hcapture : st.capture? with
  | some capture =>
      rw [read_of_capture raw hcapture, read_of_capture raw (h.capture?_eq ▸ hcapture)]
      exact .inr ⟨_, _, rfl, rfl, h.readQuoted capture raw⟩
  | none =>
      have hcapture' : st'.capture? = none := h.capture?_eq ▸ hcapture
      by_cases hfence : hasStart fence (trim raw) = true
      · rw [read_of_fence hcapture hfence, read_of_fence hcapture' hfence, ← h.isFenced_eq]
        exact .inr ⟨_, _, rfl, rfl,
          (h.change (fun other => { other with isFenced := !st.isFenced })
            fun _ _ => rfl).readText raw⟩
      · rw [Bool.not_eq_true] at hfence
        cases hfenced : st.isFenced with
        | true =>
            rw [read_of_isFenced hcapture hfence hfenced,
              read_of_isFenced hcapture' hfence (h.isFenced_eq ▸ hfenced)]
            exact .inr ⟨_, _, rfl, rfl, h.readText raw⟩
        | false =>
            rw [read_of_classify hcapture hfence hfenced,
              read_of_classify hcapture' hfence (h.isFenced_eq ▸ hfenced), ← h.context_eq]
            cases classify st.context raw with
            | error fault => exact .inl ⟨fault, rfl, rfl⟩
            | ok line => exact .inr ⟨_, _, rfl, rfl, h.readLine number line raw after⟩

/-! ## Whole sources -/

/-- **Any lines read into two states that are apart**: the same line fails, if any
does, and the states that are reached are as far apart as they were. -/
theorem readAll (h : Apart edit holder st st') (done : Nat) (lines : List Text) :
    (State.readAll done st lines).2 = (State.readAll done st' lines).2 ∧
      Apart edit holder (State.readAll done st lines).1 (State.readAll done st' lines).1 := by
  induction lines generalizing done st st' with
  | nil => exact ⟨rfl, h⟩
  | cons raw rest ih =>
      rw [State.readAll, State.readAll]
      -- A line that fails in one state fails in the other, and both readings end there.
      rcases h.read (done + 1) raw rest with ⟨fault, hst, hst'⟩ | ⟨next, next', hst, hst', hnext⟩
      · rw [hst, hst']
        exact ⟨rfl, h⟩
      · rw [hst, hst']
        exact ih hnext (done + 1)

theorem finish (h : Apart edit holder st st') :
    Apart edit holder st.finish st'.finish := by
  rw [State.finish, State.finish, ← h.capture?_eq]
  split
  · exact h.closeBlock
  · exact ((h.warn _ _).endCapture _).closeBlock

/-- The surveys are apart as the states are. -/
theorem survey (h : Apart edit holder st st') (name : Text) :
    (st.survey name).Apart edit holder (st'.survey name) := by
  cases h with
  | blocks st h => exact ⟨rfl, rfl, h⟩
  | _ => exact ⟨rfl, rfl, .same _⟩

end Apart

end Source.State
end Questionnaire
