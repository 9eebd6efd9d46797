import Questionnaire.Answers
import Questionnaire.Proofs.Source.Growth
import Questionnaire.Proofs.Validation.Duplicates
import Questionnaire.Proofs.Value.Scope

/-!
# Answers and the variables they give

Each variable of a survey has one slot: the answer to a question, or one cell of it.
The value of a name is that of the last of its slots that is filled (`get?_scope`).
So an answer reaches no variable but those of its question, and where the names of the
variables are their own each of them is exactly what its slot holds
(`separate_of_compile`).
-/

namespace Questionnaire

open Text Source

/-! ## Slots -/

/-- Where the value of a variable is found. -/
structure Slot where
  /-- The variable. -/
  name : Text
  /-- The question whose answer it is taken from. -/
  id : Text
  /-- The cell of the answer; without one it is the whole answer. -/
  key? : Option Text := none

/-- What a slot holds. -/
def Slot.value? (slot : Slot) (answers : Scope) : Option Value :=
  (answers.get? slot.id).bind fun answer =>
    match slot.key? with
    | none => some answer
    | some key => answer.cell? key

/-- The slots of a question: its own, those of its rows and those of its options. -/
def Question.slots (question : Question) : List Slot :=
  (given? question.varName).toList.map (⟨·, question.id, none⟩) ++
    (question.rows.filterMap fun row =>
      (given? row.varName).map (⟨·, question.id, some row.id⟩)) ++
    question.options.filterMap fun choice =>
      (given? choice.varName).map (⟨·, question.id, some choice.value⟩)

namespace Question

variable {question : Question}

theorem map_name_slots (question : Question) :
    question.slots.map Slot.name = (Survey.declaredBy question).map Prod.fst := by
  simp [slots, Survey.declaredBy, List.map_filterMap, Option.map_map, Function.comp_def]

theorem id_of_mem_slots {slot : Slot} (h : slot ∈ question.slots) : slot.id = question.id := by
  simp only [slots, List.mem_append, List.mem_map, List.mem_filterMap, Option.map_eq_some_iff] at h
  obtain (⟨n, -, rfl⟩ | ⟨row, -, n, -, rfl⟩) | ⟨choice, -, n, -, rfl⟩ := h <;> rfl

theorem slot_mem_slots {n : Text} (h : given? question.varName = some n) :
    ⟨n, question.id, none⟩ ∈ question.slots := by
  simp [slots, h]

theorem rowSlot_mem_slots {row : Row} (hrow : row ∈ question.rows) {n : Text}
    (h : given? row.varName = some n) : ⟨n, question.id, some row.id⟩ ∈ question.slots := by
  simp only [slots, List.mem_append, List.mem_filterMap, Option.map_eq_some_iff]
  exact .inl (.inr ⟨row, hrow, n, h, rfl⟩)

theorem optionSlot_mem_slots {choice : Choice} (hchoice : choice ∈ question.options) {n : Text}
    (h : given? choice.varName = some n) : ⟨n, question.id, some choice.value⟩ ∈ question.slots := by
  simp only [slots, List.mem_append, List.mem_filterMap, Option.map_eq_some_iff]
  exact .inr ⟨choice, hchoice, n, h, rfl⟩

end Question

/-- The slots of a survey. -/
def Survey.slots (survey : Survey) : List Slot := survey.questions.flatMap Question.slots

theorem Survey.map_name_slots (survey : Survey) :
    survey.slots.map Slot.name = Validation.answerNames survey := by
  simp [slots, Validation.answerNames, List.map_flatMap, Question.map_name_slots]

namespace Answers

/-! ## Values of variables -/

/-- The bindings of an answer are what the slots of its question hold. -/
theorem bindings_eq {question : Question} {answers : Scope} {answer : Value}
    (h : answers.get? question.id = some answer) :
    bindings question answer
      = question.slots.filterMap fun slot => (slot.value? answers).map (slot.name, ·) := by
  simp only [bindings, Question.slots, List.filterMap_append, List.filterMap_filterMap,
    List.filterMap_map, Option.map_bind, Option.bind_map, Slot.value?, h, Option.bind_some,
    Function.comp_def, Option.map_some, List.filterMap_eq_map']

/-- **A scope is filled from its slots.** -/
theorem scope_eq (survey : Survey) (answers : Scope) :
    scope survey answers = Scope.onto
      (survey.slots.filterMap fun slot => (slot.value? answers).map (slot.name, ·)) [] := by
  have hquestion : ∀ question : Question,
      ((answers.get? question.id).map (bindings question)).getD []
        = question.slots.filterMap fun slot => (slot.value? answers).map (slot.name, ·) := by
    intro question
    cases h : answers.get? question.id with
    | some answer => exact bindings_eq h
    | none =>
        refine (List.filterMap_eq_nil_iff.mpr fun slot hslot => ?_).symm
        simp [Slot.value?, Question.id_of_mem_slots hslot, h]
  rw [scope, Scope.onto, Survey.slots, List.filterMap_flatMap]
  simp only [hquestion]

/-- What a slot gives to a name. -/
def give? (answers : Scope) (n : Text) (slot : Slot) : Option Value :=
  if slot.name = n then slot.value? answers else none

/-- **Of several slots of a name the last one that is filled counts.** -/
theorem get?_scope (survey : Survey) (answers : Scope) (n : Text) :
    (scope survey answers).get? n = survey.slots.reverse.findSome? (give? answers n) := by
  rw [scope_eq]
  induction survey.slots using List.reverseRecOn with
  | nil => rfl
  | append_singleton slots slot ih =>
      rw [List.reverse_concat, List.findSome?_cons, ← ih, List.filterMap_append, give?]
      cases hvalue : slot.value? answers with
      | none => simp [hvalue]
      | some value =>
          rw [List.filterMap_cons_some (by rw [hvalue]; rfl), List.filterMap_nil,
            Scope.onto_concat, Scope.get?_set]
          by_cases hname : slot.name = n
          · rw [if_pos hname.symm, if_pos hname]
          · rw [if_neg (Ne.symm hname), if_neg hname]

/-- A name has the value of its slot if no other slot has the name. -/
theorem get?_scope_of_nodup {survey : Survey} (h : (Validation.answerNames survey).Nodup)
    {slot : Slot} (hslot : slot ∈ survey.slots) (answers : Scope) :
    (scope survey answers).get? slot.name = slot.value? answers := by
  have hothers : ∀ other ∈ survey.slots, other ≠ slot →
      give? answers slot.name other = none := by
    intro other hother hne
    rw [give?, if_neg fun hname => hne ?_]
    exact List.inj_on_of_nodup_map (survey.map_name_slots ▸ h) hother hslot hname
  have hown : give? answers slot.name slot = slot.value? answers := if_pos rfl
  rw [get?_scope, ← hown]
  cases hfound : survey.slots.reverse.findSome? (give? answers slot.name) with
  | none => exact (List.findSome?_eq_none_iff.mp hfound slot (List.mem_reverse.mpr hslot)).symm
  | some value =>
      obtain ⟨other, hother, hvalue⟩ := List.exists_of_findSome?_eq_some hfound
      by_cases hsame : other = slot
      · exact hsame ▸ hvalue.symm
      · rw [hothers other (List.mem_reverse.mp hother) hsame] at hvalue
        cases hvalue

/-- A name that gets a value is one of an answer variable. -/
theorem mem_answerNames_of_mem_keys {survey : Survey} {answers : Scope} {n : Text}
    (h : n ∈ (scope survey answers).map Prod.fst) : n ∈ Validation.answerNames survey := by
  rw [Scope.mem_keys_iff, get?_scope, List.findSome?_isSome_iff] at h
  obtain ⟨slot, hslot, hgiven⟩ := h
  rw [give?] at hgiven
  split at hgiven
  · rename_i hname
    rw [← hname, ← Survey.map_name_slots]
    exact List.mem_map_of_mem (List.mem_reverse.mp hslot)
  · cases hgiven

/-- Another answer to one question leaves the names that the question does not declare. -/
theorem get?_scope_congr {survey : Survey} (hids : (survey.questions.map Question.id).Nodup)
    {question : Question} (hquestion : question ∈ survey.questions) {answers others : Scope}
    (hsame : answers.SameBut question.id others) {n : Text}
    (hn : n ∉ (Survey.declaredBy question).map Prod.fst) :
    (scope survey answers).get? n = (scope survey others).get? n := by
  have hslots : ∀ slot ∈ survey.slots.reverse, give? answers n slot = give? others n slot := by
    intro slot hslot
    obtain ⟨owner, howner, hslot⟩ := List.mem_flatMap.mp (List.mem_reverse.mp hslot)
    rw [give?, give?]
    split
    · rename_i hname
      -- A slot of the name is one of another question, whose answer stays.
      have hid : slot.id ≠ question.id := by
        intro hid
        obtain rfl : owner = question := List.inj_on_of_nodup_map hids howner hquestion
          (Question.id_of_mem_slots hslot ▸ hid)
        exact hn (Question.map_name_slots owner ▸ hname ▸ List.mem_map_of_mem hslot)
      rw [Slot.value?, Slot.value?, hsame _ hid]
    · rfl
  rw [get?_scope, get?_scope]
  generalize survey.slots.reverse = slots at hslots
  induction slots with
  | nil => rfl
  | cons slot rest ih =>
      rw [List.forall_mem_cons] at hslots
      rw [List.findSome?_cons, List.findSome?_cons, hslots.1, ih hslots.2]

/-! ## Surveys whose names are their own -/

/-- **Every variable has a place of its own in the answers.** -/
structure Separate (survey : Survey) (answers : Scope) : Prop where
  /-- The answer to a question reaches no variable that the question, its rows and its
  options do not declare. -/
  confined : ∀ question ∈ survey.questions, ∀ others, answers.SameBut question.id others →
    ∀ n, n ∉ (Survey.declaredBy question).map Prod.fst →
      (scope survey answers).get? n = (scope survey others).get? n
  /-- Only answer variables get values. -/
  declared : ∀ n ∈ (scope survey answers).map Prod.fst, n ∈ Validation.answerNames survey
  /-- The variable of a question is its answer. -/
  ofQuestion : ∀ question ∈ survey.questions, ∀ n, given? question.varName = some n →
    (scope survey answers).get? n = answers.get? question.id
  /-- The variable of a row is the cell of the row in the answer. -/
  ofRow : ∀ question ∈ survey.questions, ∀ row ∈ question.rows, ∀ n,
    given? row.varName = some n →
      (scope survey answers).get? n = (answers.get? question.id).bind (Value.cell? row.id)
  /-- The variable of an option is the cell of the option in the answer. -/
  ofOption : ∀ question ∈ survey.questions, ∀ choice ∈ question.options, ∀ n,
    given? choice.varName = some n →
      (scope survey answers).get? n = (answers.get? question.id).bind (Value.cell? choice.value)

/-- **Answering a question touches its own variables only.** In a compiled survey without
duplicate names every variable is exactly what its question, row or option has in the
answers, and has no value exactly if there is nothing. -/
theorem separate_of_compile {source name : Text} {isChecked : Bool} {survey : Survey}
    (h : (compile source name isChecked).result = .ok survey)
    (hnames : Validation.nameProblems survey = []) (answers : Scope) :
    Separate survey answers := by
  have hown := (Validation.nameProblems_eq_nil_iff.mp hnames).answers
  have hvalue : ∀ question ∈ survey.questions, ∀ slot ∈ question.slots,
      (scope survey answers).get? slot.name = slot.value? answers :=
    fun question hquestion slot hslot =>
      get?_scope_of_nodup hown (List.mem_flatMap.mpr ⟨question, hquestion, hslot⟩) answers
  exact
    { confined := fun question hquestion others hsame n hn =>
        get?_scope_congr (nodup_ids_of_compile h) hquestion hsame hn
      declared := fun n hn => mem_answerNames_of_mem_keys hn
      ofQuestion := fun question hquestion n hn =>
        (hvalue question hquestion _ (Question.slot_mem_slots hn)).trans (by
          simp [Slot.value?])
      ofRow := fun question hquestion row hrow n hn =>
        hvalue question hquestion _ (Question.rowSlot_mem_slots hrow hn)
      ofOption := fun question hquestion choice hchoice n hn =>
        hvalue question hquestion _ (Question.optionSlot_mem_slots hchoice hn) }

/-- A matrix and a breakdown, with variables for the whole, for a row and for an option. -/
def cellsSource : Text :=
  "Q: Rate\nVARIABLE: rate\n- Q: Price\n  - VARIABLE: price\n- Good\n".toList ++
    "Q: Costs\nBREAKDOWN\n- Rent\n  - VARIABLE: rent\n- Food".toList

/-- The survey of `cellsSource`. -/
def cellsSurvey : Survey :=
  { name := []
    blocks := [{ pages := [{ sections := [{ items := [
      .question
        { id := "Q1".toList, text := "Rate".toList, varName := some "rate".toList
          body := .matrix [{ id := "Q1_1".toList, text := "Price".toList
                             varName := some "price".toList }]
            [{ value := "Good".toList, label := "Good".toList }] none },
      .question
        { id := "Q2".toList, text := "Costs".toList
          body := .breakdown [{ value := "Rent".toList, label := "Rent".toList
                                varName := some "rent".toList },
            { value := "Food".toList, label := "Food".toList }] none none none none }] }] }] }] }

/-- Answers to both questions; no amount is given for the rent. -/
def cellsAnswers : Scope :=
  [("Q1".toList, .map [("Q1_1".toList, .text "Good".toList)]),
    ("Q2".toList, .map [("Food".toList, .text "250".toList)])]

theorem separate_cellsSurvey :
    (compile cellsSource [] true).result = .ok cellsSurvey ∧
      Validation.nameProblems cellsSurvey = [] ∧ Separate cellsSurvey cellsAnswers ∧
      Validation.answerNames cellsSurvey = ["rate".toList, "price".toList, "rent".toList] ∧
      scope cellsSurvey cellsAnswers
        = [("rate".toList, .map [("Q1_1".toList, .text "Good".toList)]),
          ("price".toList, .text "Good".toList)] :=
  have hcompile : (compile cellsSource [] true).result = .ok cellsSurvey :=
    ok_of_toOption (by decide +kernel)
  ⟨hcompile, by decide, separate_of_compile hcompile (by decide) cellsAnswers, by decide, by rfl⟩

end Answers
end Questionnaire
