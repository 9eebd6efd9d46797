import Questionnaire.Proofs.Source.Content
import Questionnaire.Proofs.Source.Values

/-!
# What modifiers write

A modifier writes an attribute to its row, or what it stands for, or a column
(`Line.amendment?`); what that is does not depend on the row, but not every row takes
it (`Amendment.suits`). An attribute is written at once unless it opens quotes that go
on in the next line (`assign_of_inlineValue?`, `assign_of_quotes`).
-/

namespace Questionnaire

open Text Source

namespace Source

/-! ## Amendments -/

/-- What is written for a selected row belongs to it. -/
def Selection.holder : Selection → Holder
  | .option => .option
  | .row => .row

theorem Selection.holder_injective {a b : Selection} (h : a.holder = b.holder) : a = b := by
  cases a <;> cases b <;> first | rfl | cases h

/-- The attribute that a modifier gives to a row, if it is one of an attribute. -/
def Modifier.aspect? : Modifier → Option Aspect
  | .showIf => some .showIf
  | .hint => some .hint
  | .tooltip => some .tooltip
  | _ => none

/-- What is written to a row. -/
inductive Amendment where
  /-- An attribute. -/
  | aspect (aspect : Aspect) (value : Text)
  /-- What a modifier stands for that gives no attribute. -/
  | entry (change : Modifier) (value : Text)
  /-- A column. -/
  | column (column : Nat)
deriving DecidableEq, Repr

/-- Whether the selected row of a question of the kind takes what is written. An attribute belongs
to any row; most of the rest belongs to the rows of a breakdown, which are options. -/
def Amendment.suits (selection : Selection) (kind : QuestionKind) : Amendment → Bool
  | .aspect _ _ => true
  | .column _ => selection = .option && kind = .breakdown
  | .entry change _ =>
    match selection with
    | .option => change = .text || kind = .breakdown
    | .row => change = .varName || change = .subtract || change = .value

/-- The value of an attribute that stands behind its keyword, unless it opens quotes that go on in
the next line. -/
def inlineValue? (value : Text) : Option Text :=
  match after? quotes value with
  | none => some value
  | some rest =>
    if hasEnd quotes rest then some (trim (rest.take (rest.length - quotes.length))) else none

/-- The attribute that the line gives to a row. -/
def Line.aspect? (line : Line) : Option Aspect :=
  match line.kind with
  | .modifier change => change.aspect?
  | _ => none

/-- What a modifier writes to its row; nothing yet where it opens quotes. -/
def Line.amendment? (line : Line) : Option Amendment :=
  match line.kind with
  | .column column => some (.column column)
  -- A column is one with its number.
  | .modifier .column => none
  | .modifier change =>
    match change.aspect? with
    | some aspect => (inlineValue? line.value).map (Amendment.aspect aspect)
    | none => some (.entry change line.value)
  | _ => none

theorem Line.aspect?_of_modifier {line : Line} {change : Modifier}
    (hkind : line.kind = .modifier change) : line.aspect? = change.aspect? := by
  rw [aspect?, hkind]

/-- A modifier of an attribute writes the attribute once its value is complete. -/
theorem Line.amendment?_of_aspect? {line : Line} {aspect : Aspect}
    (h : line.aspect? = some aspect) :
    line.amendment? = (inlineValue? line.value).map (Amendment.aspect aspect) := by
  obtain ⟨kind, value⟩ := line
  cases kind with
  | modifier change =>
      cases change with
      | showIf | hint | tooltip => rw [← Option.some.inj h]; rfl
      | _ => cases h
  | _ => cases h

/-- Any other modifier but a column stands for itself. -/
theorem Line.amendment?_of_entry {line : Line} {change : Modifier}
    (hkind : line.kind = .modifier change) (haspect : change.aspect? = none)
    (hcolumn : change ≠ .column) : line.amendment? = some (.entry change line.value) := by
  rw [amendment?, hkind]
  cases change with
  | showIf | hint | tooltip => cases haspect
  | column => exact absurd rfl hcolumn
  | _ => rfl

end Source

/-- The option with what is written to it. -/
def Choice.amend (amendment : Amendment) (choice : Choice) : Choice :=
  match amendment with
  | .aspect aspect value => choice.put aspect value
  | .column column => { choice with column := some column }
  | .entry .text _ => { choice with allowsOther := some true }
  | .entry change value => State.modifyAmount change value choice

theorem Choice.amend_entry {change : Modifier} (h : change ≠ .text) {value : Text} :
    Choice.amend (.entry change value) = State.modifyAmount change value := by
  funext choice
  cases change <;> first | rfl | exact absurd rfl h

/-- The row with what is written to it, which has few entries. -/
def Row.amend (amendment : Amendment) (row : Row) : Row :=
  match amendment with
  | .aspect aspect value => row.put aspect value
  | .entry .varName value => { row with varName := some value }
  | .entry .subtract _ => { row with subtract := some true }
  | .entry .value value => { row with value := some value }
  | _ => row

/-- The question with the last row of the kind amended, and no other one. -/
def Question.amend (selection : Selection) (amendment : Amendment) (question : Question) :
    Question :=
  match selection with
  | .option =>
    { question with body := question.body.mapOptions (changeLast (Choice.amend amendment)) }
  | .row => { question with body := question.body.mapRows (changeLast (Row.amend amendment)) }

theorem Question.amend_aspect (selection : Selection) (aspect : Aspect) (value : Text)
    (question : Question) : question.amend selection (.aspect aspect value)
      = question.putAt selection.holder aspect value := by
  cases selection <;> rfl

/-! ## Attributes and their quotes -/

namespace Source.State

variable {value text : Text}

/-- An attribute is written at once. -/
theorem assign_of_inlineValue? (h : inlineValue? value = some text) (holder : Holder)
    (aspect : Aspect) (line : Nat) (st : State) :
    st.assign holder aspect line value = st.write holder aspect text := by
  simp only [inlineValue?] at h
  simp only [assign]
  cases hquotes : after? quotes value with
  | none =>
      rw [hquotes] at h
      rw [Option.some.inj h]
  | some rest =>
      simp only [hquotes, Option.ite_none_right_eq_some, Option.some.injEq] at h
      simp only [h]
      rfl

/-- Quotes are opened for an attribute. -/
theorem assign_of_quotes (h : inlineValue? value = none) (holder : Holder) (aspect : Aspect)
    (line : Nat) (st : State) : ∃ lines, st.assign holder aspect line value
      = { st with capture? := some ⟨holder, aspect, line, lines⟩ } := by
  simp only [inlineValue?] at h
  simp only [assign]
  cases hquotes : after? quotes value with
  | none =>
      rw [hquotes] at h
      cases h
  | some rest =>
      simp only [hquotes, ite_eq_right_iff, reduceCtorEq, imp_false] at h
      simp only [if_neg h]
      exact ⟨_, rfl⟩

/-- An attribute is written, or quotes are opened for it. -/
theorem assign_cases (holder : Holder) (aspect : Aspect) (line : Nat) (value : Text)
    (st : State) : (∃ text, st.assign holder aspect line value = st.write holder aspect text) ∨
      ∃ capture : Capture, capture.holder = holder ∧
        st.assign holder aspect line value = { st with capture? := some capture } := by
  cases hinline : inlineValue? value with
  | some text => exact .inl ⟨text, assign_of_inlineValue? hinline holder aspect line st⟩
  | none =>
      obtain ⟨lines, heq⟩ := assign_of_quotes hinline holder aspect line st
      exact .inr ⟨_, rfl, heq⟩

/-- What quotes are opened for. -/
theorem of_capture?_assign {st : State} {holder : Holder} {aspect : Aspect} {line : Nat}
    {value : Text} {capture : Capture} (hnone : st.capture? = none)
    (h : (st.assign holder aspect line value).capture? = some capture) :
    capture.holder = holder ∧ capture.aspect = aspect ∧
      st.assign holder aspect line value = { st with capture? := some capture } := by
  cases hinline : inlineValue? value with
  | some text =>
      rw [assign_of_inlineValue? hinline, capture?_write, hnone] at h
      cases h
  | none =>
      obtain ⟨lines, heq⟩ := assign_of_quotes hinline holder aspect line st
      rw [heq] at h ⊢
      obtain rfl := Option.some.inj h
      exact ⟨rfl, rfl, rfl⟩

/-- Where no quotes are open a value that is closed is one that is written. -/
theorem endCapture_of_none {st : State} (h : st.capture? = none) (capture : Capture) :
    st.endCapture capture = st.write capture.holder capture.aspect capture.value := by
  rw [endCapture, ← (capture?_write capture.holder capture.aspect capture.value st).trans h]

end Source.State
end Questionnaire
