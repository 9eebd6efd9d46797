import Questionnaire.Proofs.Json.Documents
import Questionnaire.Proofs.Source.Navigation
import Questionnaire.Proofs.Source.Run
import Questionnaire.Proofs.Survey.Record

/-!
# Surveys stored and read back

A record holds texts, truth values and whole numbers in lists and maps with
distinct keys, so its document is read back as the record (`storable_survey`).
The navigation of a compiled survey refers to pages that exist, so the record is
read back as the survey (`readBack_of_compile`).
-/

namespace Questionnaire

open Json

/-! ## Records are values that documents hold -/

namespace Record

/-- What stands under a key, if anything, is a value that documents hold. -/
def Fits (value? : Option Value) : Prop := ∀ value ∈ value?, Storable value

@[simp] theorem fits_text (t : Text) : Fits (some (.text t)) := by
  rintro _ ⟨⟩
  exact .text t

@[simp] theorem fits_int (n : Int) : Fits (some (.int n)) := by
  rintro _ ⟨⟩
  exact .int n

@[simp] theorem fits_written (t : Option Text) : Fits (written t) := by
  cases t with
  | none => exact fun _ h => nomatch h
  | some t => exact fits_text t

@[simp] theorem fits_flag (b : Option Bool) : Fits (flag b) := by
  cases b with
  | none => exact fun _ h => nomatch h
  | some b =>
      rintro _ ⟨⟩
      exact .bool b

@[simp] theorem fits_whole (n : Option Int) : Fits (n.map Value.int) := by
  cases n with
  | none => exact fun _ h => nomatch h
  | some n => exact fits_int n

theorem fits_parts {α : Type} {record : α → Value} (h : ∀ item, Storable (record item))
    (items : List α) : Fits (parts record items) := by
  rintro _ ⟨⟩
  refine .list fun value hvalue => ?_
  obtain ⟨item, -, rfl⟩ := List.mem_map.mp hvalue
  exact h item

/-- **A record with distinct keys is a value that documents hold.** -/
theorem storable_present {entries : List (String × Option Value)}
    (hkeys : (entries.map Prod.fst).Nodup) (h : ∀ entry ∈ entries, Fits entry.2) :
    Storable (present entries) := by
  have hsub : ((kept entries).map Prod.fst).Sublist (entries.map fun entry => entry.1.toList) := by
    clear hkeys h
    induction entries with
    | nil => exact .slnil
    | cons entry rest ih =>
        obtain ⟨key, - | value⟩ := entry
        · exact ih.cons _
        · exact ih.cons_cons _
  refine .map (hsub.nodup ?_) fun entry hentry => ?_
  · rw [← Function.comp_def String.toList Prod.fst, ← List.map_map]
    exact hkeys.map fun _ _ => String.toList_inj.mp
  · obtain ⟨key, hmem, -⟩ := exists_of_mem_kept hentry
    exact h _ hmem _ rfl

theorem storable_choice (c : Choice) : Storable c.toRecord :=
  storable_present (by simp) (by simp)

theorem storable_row (r : Row) : Storable r.toRecord :=
  storable_present (by simp) (by simp)

theorem storable_question (q : Question) : Storable q.toRecord := by
  rw [toRecord_eq_present]
  refine storable_present (nodup_question q) (List.forall_mem_append.mpr ⟨?_, ?_⟩)
  · simp [common]
  · cases q.body <;>
      simp [Body.recordEntries, fits_parts storable_choice, fits_parts storable_row]

theorem storable_item (i : Item) : Storable i.toRecord := by
  cases i with
  | text value => exact storable_present (by simp) (by simp)
  | question q => exact storable_question q

theorem storable_section (s : Section) : Storable s.toRecord :=
  storable_present (by simp) (by simp [fits_parts storable_item])

theorem storable_computation (c : Computation) : Storable c.toRecord :=
  storable_present (by simp) (by simp)

theorem storable_page (p : Page) : Storable p.toRecord :=
  storable_present (by simp)
    (by simp [fits_parts storable_computation, fits_parts storable_section])

theorem storable_block (b : Block) : Storable b.toRecord :=
  storable_present (by simp) (by simp [fits_parts storable_computation, fits_parts storable_page])

theorem storable_entry (e : Entry) : Storable e.toRecord := by
  have hpages : Fits (parts (fun n : Nat => .int (n : Int)) e.pages) :=
    fits_parts (fun n : Nat => .int (n : Int)) e.pages
  exact storable_present (by simp) (by simp [hpages])

/-- **The record of a survey is a value that documents hold.** -/
theorem storable_survey (s : Survey) : Storable s.toRecord :=
  storable_present (by simp) (by simp [fits_parts storable_block, fits_parts storable_entry])

end Record

/-! ## Compiled surveys -/

namespace Source

theorem length_pages (survey : Survey) :
    survey.pages.length = (survey.blocks.flatMap Block.pages).length := by
  simp [Survey.pages, List.length_flatMap]

/-- **The navigation of a compiled survey refers to pages of the survey.** -/
theorem position_lt_of_compile {source name : Text} {isChecked : Bool} {survey : Survey}
    (h : (compile source name isChecked).result = .ok survey) :
    ∀ entry ∈ survey.entries, ∀ n ∈ entry.pages, n < survey.pages.length := by
  have hfinish := (State.Navigated.readAll (sourceLines source)).finish
  rw [survey_of_compileLines (compileLines_of_compile h)]
  generalize (State.readAll 0 {} (sourceLines source)).1 = last at hfinish
  have hcount : last.finish.pageCount = (last.finish.survey name).pages.length := by
    have hopen : last.finish.block.pages = [] := by
      rw [State.finish]
      split <;> rfl
    rw [length_pages, State.pageCount, hopen]
    rfl
  exact hcount ▸ hfinish.position

/-- **Storage is lossless**: a compiled survey is read back from its record, and the record from
its document. -/
theorem readBack_of_compile {source name : Text} {isChecked : Bool} {survey : Survey}
    (h : (compile source name isChecked).result = .ok survey) :
    (∀ entry ∈ survey.entries, ∀ n ∈ entry.pages, n < survey.pages.length) ∧
      Survey.ofRecord survey.toRecord = .ok survey ∧
      (Json.read? (Json.writeLong 0 survey.toRecord)).map Survey.ofRecord = some (.ok survey) := by
  have hposition := position_lt_of_compile h
  have hrecord : Survey.ofRecord survey.toRecord = .ok survey := Record.survey_toRecord hposition
  refine ⟨hposition, hrecord, ?_⟩
  rw [Json.read?_writeLong (Record.storable_survey survey), Option.map_some, hrecord]

/-- A survey with questions of every kind and two navigation entries. -/
def storedSource : Text := Text.join ['\n'] (List.map String.toList [
  "BLOCK: Health", "SHOW_IF: age > 17", "# Habits", "NAVIGATION: 1", "COMPUTE: old = age > 60",
  "Q: How old are you?", "NUMBER", "SUFFIX: years", "VARIABLE: age",
  "Q: What do you play?", "- Chess", "  - SHOW_IF: old", "- Other", "  - TEXT", "CHECKBOX",
  "Q: Are you \x7bname\x7d?", "- Yes", "- No",
  "# Costs", "NAVIGATION: 2", "TOOLTIP: For one month",
  "Q: What do you pay?", "BREAKDOWN", "- Rent", "  - COLUMN: 2", "  - VALUE: age * 10",
  "- SUBTOTAL: Housing",
  "Q: How is it?", "- Q: Food", "- Q: Water", "- Good", "- “Fine”",
  "#", "Q: Why?", "ESSAY", "HINT: Be brief", "Q: Your name?", "TEXT", "VARIABLE: name"])

/-- The survey of `storedSource`. -/
def storedSurvey : Survey := (compile storedSource [] false).result.toOption.getD { name := [] }

theorem readBack_storedSurvey :
    (compile storedSource [] false).result = .ok storedSurvey ∧
      storedSurvey.entries.map Entry.pages = [[0], [1, 2]] ∧
      storedSurvey.questions.map Question.kind
        = [.number, .checkbox, .multipleChoice, .breakdown, .matrix, .essay, .text] ∧
      Survey.ofRecord storedSurvey.toRecord = .ok storedSurvey := by
  have hcompile : (compile storedSource [] false).result = .ok storedSurvey := by rfl
  exact ⟨hcompile, by decide +kernel, by decide +kernel, (readBack_of_compile hcompile).2.1⟩

end Source
end Questionnaire
