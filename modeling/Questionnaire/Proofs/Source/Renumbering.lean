import Questionnaire.Proofs.Decimal.Notation
import Questionnaire.Proofs.Source.Last
import Questionnaire.Source.Compile

/-!
# Questions counted from further on

A block that stands behind others has its questions numbered from where those
stop: the identifier `Qk` becomes `Q(n + k)`, and the identifiers of rows follow
(`renumberId`). Nothing else of a question depends on its number, so whatever
changes a question changes the renumbered one alike.
-/

namespace Questionnaire

open Text Decimal

/-! ## Identifiers -/

/-- The identifier of a question or a row whose number is counted from `n` on. -/
def renumberId (n : Nat) : Text → Text
  | 'Q' :: rest =>
    'Q' :: (writeNat (n + digitsValue (rest.takeWhile Char.isDigit)) ++
      rest.dropWhile Char.isDigit)
  | id => id

/-- **The question `Qk` becomes `Q(n + k)`.** -/
theorem renumberId_question (n k : Nat) :
    renumberId n ('Q' :: writeNat k) = 'Q' :: writeNat (n + k) := by
  rw [renumberId, takeWhile_writeNat, dropWhile_writeNat, digitsValue_writeNat, List.append_nil]

theorem span_digits_row (t row : Text) :
    (t ++ '_' :: row).takeWhile Char.isDigit = t.takeWhile Char.isDigit ∧
      (t ++ '_' :: row).dropWhile Char.isDigit = t.dropWhile Char.isDigit ++ '_' :: row := by
  induction t with
  | nil => exact ⟨rfl, rfl⟩
  | cons c t ih =>
      by_cases hc : c.isDigit = true
      · simp [hc, ih]
      · simp [hc]

/-- **A row is renumbered with its question.** -/
theorem renumberId_row (n : Nat) (id row : Text) :
    renumberId n (id ++ '_' :: row) = renumberId n id ++ '_' :: row := by
  cases id with
  | nil => rfl
  | cons c rest =>
      by_cases hc : c = 'Q'
      · subst hc
        obtain ⟨htake, hdrop⟩ := span_digits_row rest row
        rw [List.cons_append, renumberId, renumberId, htake, hdrop]
        simp
      · rw [List.cons_append, renumberId.eq_2 n _ (fun _ h => hc (List.cons.inj h).1),
          renumberId.eq_2 n _ (fun _ h => hc (List.cons.inj h).1), List.cons_append]

/-! ## Questions and what contains them -/

/-- The row renumbered. -/
def Row.renumber (n : Nat) (row : Row) : Row := { row with id := renumberId n row.id }

/-- The body with its rows renumbered. -/
def Body.renumber (n : Nat) (body : Body) : Body := body.mapRows (List.map (Row.renumber n))

/-- The question renumbered. -/
def Question.renumber (n : Nat) (question : Question) : Question :=
  { question with id := renumberId n question.id, body := question.body.renumber n }

/-- The item with its question renumbered. -/
def Item.renumber (n : Nat) : Item → Item
  | .text value => .text value
  | .question asked => .question (asked.renumber n)

/-- The section with its questions renumbered. -/
def Section.renumber (n : Nat) (part : Section) : Section :=
  { part with items := part.items.map (Item.renumber n) }

/-- The page with its questions renumbered. -/
def Page.renumber (n : Nat) (page : Page) : Page :=
  { page with sections := page.sections.map (Section.renumber n) }

/-- The block with its questions renumbered. -/
def Block.renumber (n : Nat) (block : Block) : Block :=
  { block with pages := block.pages.map (Page.renumber n) }

/-- The entry with its pages counted from `n` on. -/
def Entry.shift (n : Nat) (entry : Entry) : Entry := { entry with pages := entry.pages.map (n + ·) }

namespace Body

variable (n : Nat) (body : Body)

@[simp] theorem kind_renumber : (body.renumber n).kind = body.kind := by
  cases body <;> rfl

@[simp] theorem options_renumber : (body.renumber n).options = body.options := by
  cases body <;> rfl

@[simp] theorem rows_renumber : (body.renumber n).rows = body.rows.map (Row.renumber n) := by
  cases body <;> rfl

@[simp] theorem takesOptions_renumber : (body.renumber n).takesOptions = body.takesOptions := by
  cases body <;> rfl

theorem settled_renumber : (body.renumber n).settled = body.settled.renumber n := by
  cases body <;> rfl

theorem ofKind_renumber (kind : QuestionKind) : (ofKind kind).renumber n = ofKind kind := by
  cases kind <;> rfl

theorem mapOptions_renumber (change : List Choice → List Choice) :
    (body.renumber n).mapOptions change = (body.mapOptions change).renumber n := by
  cases body <;> rfl

theorem mapRows_renumber {change change' : List Row → List Row}
    (h : ∀ rows, change' (rows.map (Row.renumber n)) = (change rows).map (Row.renumber n)) :
    (body.renumber n).mapRows change' = (body.mapRows change).renumber n := by
  cases body with
  | matrix rows options input => simp [renumber, mapRows, h]
  | _ => rfl

end Body

namespace Question

variable (n : Nat) (question : Question)

@[simp] theorem kind_renumber : (question.renumber n).kind = question.kind :=
  question.body.kind_renumber n

@[simp] theorem options_renumber : (question.renumber n).options = question.options :=
  question.body.options_renumber n

@[simp] theorem rows_renumber :
    (question.renumber n).rows = question.rows.map (Row.renumber n) :=
  question.body.rows_renumber n

@[simp] theorem isBreakdown_renumber :
    (question.renumber n).isBreakdown = question.isBreakdown := by
  rw [isBreakdown, isBreakdown, kind_renumber]

end Question

@[simp] theorem Block.isVacant_renumber (n : Nat) (block : Block) :
    (block.renumber n).isVacant = block.isVacant := by
  simp [isVacant, renumber]

/-! ## Warnings and open quotes -/

namespace Source

/-- The cause with the identifier in it renumbered. -/
def Cause.renumber (n : Nat) : Cause → Cause
  | .unfit subject id kind => .unfit subject (renumberId n id) kind
  | .settled word id kind => .settled word (renumberId n id) kind
  | .notBreakdown subject id => .notBreakdown subject (renumberId n id)
  | .notForRow modifier id => .notForRow modifier (renumberId n id)
  | .onlyBreakdown modifier id => .onlyBreakdown modifier (renumberId n id)
  | .noRow modifier => .noRow modifier
  | .unclosed => .unclosed

/-- The warning about a line that is counted from `d` on. -/
def Warning.later (d n : Nat) (warning : Warning) : Warning :=
  ⟨d + warning.line, warning.cause.renumber n⟩

/-- The failure on a line that is counted from `d` on. -/
def State.Failure.later (d : Nat) (failure : Failure) : Failure :=
  { failure with line := d + failure.line }

/-- The open quotes with their line counted from `d` on. -/
def Capture.later (d : Nat) (capture : Capture) : Capture := { capture with line := d + capture.line }

@[simp] theorem Capture.value_later (d : Nat) (capture : Capture) :
    (capture.later d).value = capture.value := rfl

end Source
end Questionnaire
