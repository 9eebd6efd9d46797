import Questionnaire.Proofs.Template.Filling
import Questionnaire.Proofs.Value.Range
import Questionnaire.Source.Compile

/-!
# Rendering comes to an end

A survey is rendered from the texts that are shown (`surveyTexts`), each of which
has its placeholders filled. Variables, computed values and conditions always come
out; what may fail is to write the value that a placeholder names. So there is a
rendering exactly where all values that are asked for can be written
(`isSome_render?`), and in any case where all numbers in the answers are in range.
-/

namespace Questionnaire

open Text

namespace Template

/-! ## Texts that can be filled -/

theorem isSome_fillPieces? {scope : Scope} {pieces : List Piece} :
    (fillPieces? scope pieces).isSome = true ↔
      ∀ content, .hole content ∈ pieces → (fillHole? scope content).isSome = true := by
  induction pieces with
  | nil => simp [fillPieces?]
  | cons piece rest ih =>
      cases piece with
      | plain c => simp [fillPieces?, ih]
      | hole first =>
          have hboth : (fillPieces? scope (.hole first :: rest)).isSome = true ↔
              (fillHole? scope first).isSome = true ∧ (fillPieces? scope rest).isSome = true := by
            rw [fillPieces?_hole, followed]
            cases fillHole? scope first <;> simp
          rw [hboth, ih]
          constructor
          · rintro ⟨hfirst, hrest⟩ content hmem
            rcases List.mem_cons.mp hmem with heq | hmem
            · cases heq
              exact hfirst
            · exact hrest content hmem
          · exact fun h => ⟨h first List.mem_cons_self,
              fun content hmem => h content (List.mem_cons_of_mem _ hmem)⟩

end Template

namespace Rendering

open Template

/-! ## The texts that are shown -/

/-- The texts of a question: its own, its hint, and those of the rows and options seen. -/
def questionTexts (scope : Scope) (question : Question) : List Text :=
  question.text :: (given? question.hint).toList ++ (View.rows question scope).map Row.text ++
    ((View.options question scope).filter fun choice => !isSet choice.separator).map Choice.label

/-- The texts of an item. -/
def itemTexts (scope : Scope) : Item → List Text
  | .text value => [value]
  | .question asked => questionTexts scope asked

/-- The texts of a section: its title and those of the items seen. -/
def sectionTexts (scope : Scope) (part : Section) : List Text :=
  (given? part.title).toList ++ (View.items part scope).flatMap (itemTexts scope)

/-- The texts of a page: its title and those of the sections seen. -/
def pageTexts (scope : Scope) (page : Page) : List Text :=
  page.title :: (View.sections page scope).flatMap (sectionTexts scope)

/-- The texts of all pages that are seen. -/
def surveyTexts (survey : Survey) (scope : Scope) : List Text :=
  (View.pages survey scope).flatMap fun place => pageTexts scope place.2

/-- Each line stands if and only if each text can be filled. -/
def Agree (scope : Scope) (lines : List (Option Text)) (texts : List Text) : Prop :=
  (∀ line ∈ lines, line.isSome = true) ↔ ∀ t ∈ texts, (fill? scope t).isSome = true

theorem Agree.append {scope : Scope} {lines more : List (Option Text)} {texts others : List Text}
    (h : Agree scope lines texts) (hmore : Agree scope more others) :
    Agree scope (lines ++ more) (texts ++ others) := by
  rw [Agree, List.forall_mem_append, List.forall_mem_append]
  exact and_congr h hmore

theorem Agree.flatMap {α : Type} {scope : Scope} {parts : List α}
    {lines : α → List (Option Text)} {texts : α → List Text}
    (h : ∀ part ∈ parts, Agree scope (lines part) (texts part)) :
    Agree scope (parts.flatMap lines) (parts.flatMap texts) := by
  induction parts with
  | nil => simp [Agree]
  | cons first rest ih =>
      rw [List.flatMap_cons, List.flatMap_cons]
      exact (h first List.mem_cons_self).append
        (ih fun part hpart => h part (List.mem_cons_of_mem _ hpart))

@[simp] theorem isSome_frame (before after : String) (t : Option Text) :
    (frame before after t).isSome = t.isSome := by
  rw [frame, Option.isSome_map]

theorem agree_question (scope : Scope) (question : Question) :
    Agree scope (questionLines scope question) (questionTexts scope question) := by
  have hown : Agree scope
      [(fill? scope question.text).map fun t => '[' :: question.id ++ [']', ' '] ++ t]
      [question.text] := by simp [Agree]
  refine ((hown.append ?_).append ?_).append ?_
  · simp only [Agree, List.forall_mem_map, isSome_frame]
    exact Iff.rfl
  · simp only [Agree, List.forall_mem_map, isSome_frame]
  · -- A separator is a line without a text.
    simp only [Agree, List.forall_mem_map, List.mem_filter, and_imp]
    refine forall_congr' fun choice => imp_congr_right fun _ => ?_
    rw [optionLine]
    split <;> simp_all

theorem agree_item (scope : Scope) (item : Item) :
    Agree scope (itemLines scope item) (itemTexts scope item) := by
  cases item with
  | text value => simp [Agree, itemLines, itemTexts]
  | question asked => exact agree_question scope asked

theorem agree_section (scope : Scope) (part : Section) :
    Agree scope (sectionLines scope part) (sectionTexts scope part) := by
  refine Agree.append ?_ (Agree.flatMap fun item _ => agree_item scope item)
  simp [Agree]

theorem agree_page (scope : Scope) (page : Page) :
    Agree scope (pageLines scope page) (pageTexts scope page) := by
  have hfilled : (pageTitle scope page).isSome = (fill? scope page.title).isSome := by
    rw [pageTitle, Option.isSome_map]
  have htitle : Agree scope [pageTitle scope page] [page.title] := by
    simp only [Agree, List.mem_singleton, forall_eq, hfilled]
  have hsections : Agree scope ((View.sections page scope).flatMap (sectionLines scope))
      ((View.sections page scope).flatMap (sectionTexts scope)) :=
    Agree.flatMap fun part _ => agree_section scope part
  have hempty : Agree scope [some []] [] := by simp [Agree]
  rw [pageTexts, ← List.append_nil (page.title :: _)]
  exact (htitle.append hsections).append hempty

theorem agree_survey (survey : Survey) (scope : Scope) :
    Agree scope (surveyLines survey scope) (surveyTexts survey scope) :=
  Agree.flatMap fun place _ => agree_page scope place.2

/-! ## Renderings -/

/-- A placeholder of a text that is shown names a value, to be written in a style. -/
def Asks (survey : Survey) (scope : Scope) (value : Value) (style : Style) : Prop :=
  ∃ t ∈ surveyTexts survey scope, ∃ content,
    .hole content ∈ pieces (settle (Condition.evaluate · scope) t) ∧
      scope.get? (cutStyle (trim content)).1 = some value ∧ (cutStyle (trim content)).2 = style

theorem isSome_mapM_id {α : Type} {all : List (Option α)} :
    (all.mapM id).isSome = true ↔ ∀ x ∈ all, x.isSome = true := by
  induction all with
  | nil => simp
  | cons x rest ih =>
      rw [List.mapM_cons, List.forall_mem_cons, ← ih]
      cases x <;> cases rest.mapM id <;> simp

/-- There is a rendering exactly if all texts that are shown can be filled. -/
theorem isSome_render?_iff {survey : Survey} {answers : Scope} :
    (render? survey answers).isSome = true ↔
      ∀ t ∈ surveyTexts survey (valuesFor survey answers),
        (fill? (valuesFor survey answers) t).isSome = true := by
  rw [render?, Option.isSome_map, isSome_mapM_id]
  exact agree_survey survey _

/-- There is a rendering exactly if every value that is asked for can be shown. -/
theorem isSome_render?_iff_asks {survey : Survey} {answers : Scope} :
    (render? survey answers).isSome = true ↔
      ∀ value style, Asks survey (valuesFor survey answers) value style →
        (show? style value).isSome = true := by
  rw [isSome_render?_iff]
  constructor
  · rintro h value style ⟨t, ht, content, hcontent, hvalue, rfl⟩
    exact isSome_fillHole?_iff.mp (isSome_fillPieces?.mp (h t ht) content hcontent) value hvalue
  · intro h t ht
    exact isSome_fillPieces?.mpr fun content hcontent => isSome_fillHole?_iff.mpr
      fun value hvalue => h value _ ⟨t, ht, content, hcontent, hvalue, rfl⟩

/-- A whole number out of range that is asked for leaves no rendering. -/
theorem render?_eq_none {survey : Survey} {answers : Scope} {n : Int} {style : Style}
    (h : Asks survey (valuesFor survey answers) (.int n) style)
    (hn : Decimal.ofInt? n = none) : render? survey answers = none := by
  rw [← Option.not_isSome_iff_eq_none, isSome_render?_iff_asks]
  intro hall
  have hshow := hall _ _ h
  simp [show?, Value.display?, hn] at hshow

/-- **A survey can be rendered for given answers** exactly if every value that a placeholder of
a text shown names can be written; and always if no whole number in the answers is out of range. -/
theorem isSome_render? (survey : Survey) (answers : Scope) :
    ((render? survey answers).isSome = true ↔
      ∀ value style, Asks survey (valuesFor survey answers) value style →
        (show? style value).isSome = true) ∧
    (answers.IsInRange → (render? survey answers).isSome = true) := by
  refine ⟨isSome_render?_iff_asks, fun hrange => isSome_render?_iff_asks.mpr ?_⟩
  rintro value style ⟨_, _, _, _, hvalue, _⟩
  exact ((isInRange_valuesFor survey hrange).get? hvalue).isSome_show? style

/-- Answers of many kinds: a list with a map in it, a truth value, a text with braces. -/
def petAnswers : Scope :=
  [("Q1".toList, .list [.text "Cat".toList, .null, .map [("a".toList, .list [.bool true])]]),
    ("Q2".toList, .text "\x7bpets\x7d".toList)]

/-- A survey that asks for them, in a list, in a condition and in a computation. -/
def petSource : Text :=
  ("Q: Pets\nVARIABLE: pets\nCHECKBOX\n- Cat\n- Dog\n\n" ++
    "Q: Names of \x7bpets AS INLINE_LIST\x7d\nVARIABLE: names\nTEXT\n\n" ++
    "Q: \x7b\x7bIF NOT names IS x THEN \x7bnames\x7d and \x7bpets / 2\x7d\x7d\x7d?\nTEXT\n").toList

theorem isSome_render?_petAnswers :
    petAnswers.IsInRange ∧
      ∃ survey, (Source.compile petSource [] true).result.toOption = some survey ∧
        (render? survey petAnswers).isSome = true := by
  have hrange : petAnswers.IsInRange := by
    simp [petAnswers, Scope.IsInRange, Value.IsInRange, Value.ItemsInRange, Value.CellsInRange]
  obtain ⟨survey, hsurvey⟩ : ∃ survey,
      (Source.compile petSource [] true).result.toOption = some survey :=
    Option.isSome_iff_exists.mp (by decide +kernel)
  exact ⟨hrange, survey, hsurvey, (isSome_render? survey petAnswers).2 hrange⟩

end Rendering
end Questionnaire
