import Questionnaire.Answers
import Questionnaire.Proofs.Condition.Selection
import Questionnaire.Proofs.Source.Run
import Questionnaire.Proofs.Value.Scope

/-!
# Asking for the answer of a question

The variables that one text answer gives are those of the questions with its
identifier, all with the answer for a value (`get?_scope_single`). So a
condition on the variable of a question of a compiled survey tells the options
of the question apart.
-/

namespace Questionnaire

open Text

/-! ## Declared names -/

namespace Survey

theorem mem_declared {survey : Survey} {n : Text} :
    n ∈ survey.declared.map Prod.fst ↔ n ∈ survey.declarations.map Prod.fst := by
  have hgen : ∀ (entries seen : List (Text × Role)),
      n ∈ (entries.foldl (fun seen entry =>
          if seen.any (·.1 = entry.1) then seen else seen ++ [entry]) seen).map Prod.fst
        ↔ n ∈ seen.map Prod.fst ∨ n ∈ entries.map Prod.fst := by
    intro entries
    induction entries with
    | nil => simp
    | cons entry entries ih =>
        intro seen
        rw [List.foldl_cons, ih]
        by_cases h : seen.any (·.1 = entry.1) = true
        · have hseen : entry.1 ∈ seen.map Prod.fst := by
            simpa [List.any_eq_true, List.mem_map] using h
          simp only [h, if_true, List.map_cons, List.mem_cons]
          constructor
          · rintro (hn | hn)
            · exact .inl hn
            · exact .inr (.inr hn)
          · rintro (hn | rfl | hn)
            · exact .inl hn
            · exact .inl hseen
            · exact .inr hn
        · simp [h, or_assoc]
  simpa [declared] using hgen survey.declarations []

/-- The variable of a question is a declared name. -/
theorem mem_declared_of_question {survey : Survey} {question : Question} {n : Text}
    (hquestion : question ∈ survey.questions) (hn : given? question.varName = some n) :
    n ∈ survey.declared.map Prod.fst := by
  rw [mem_declared]
  simp only [questions, pages, List.mem_flatMap, List.mem_map] at hquestion
  obtain ⟨place, ⟨block, hblock, page, hpage, rfl⟩, hquestion⟩ := hquestion
  have hdeclared : (n, Role.question) ∈ declaredBy question := by
    simp [declaredBy, hn]
  refine List.mem_map.mpr ⟨(n, .question), ?_, rfl⟩
  simp only [declarations, List.mem_flatMap, List.mem_append]
  exact ⟨block, hblock, .inr ⟨page, hpage, .inr ⟨question, hquestion, hdeclared⟩⟩⟩

end Survey

/-! ## One answer -/

namespace Answers

/-- A text has no cells, so only the variable of the question itself gets it. -/
theorem bindings_text (question : Question) (answer : Text) :
    bindings question (.text answer)
      = (given? question.varName).toList.map (·, .text answer) := by
  simp [bindings, Value.cell?]

/-- The names that the answer with an identifier goes to. -/
def namesOf (survey : Survey) (id : Text) : List Text :=
  (survey.questions.filter (·.id = id)).filterMap fun question => given? question.varName

theorem get?_scope_single (survey : Survey) (id answer n : Text) :
    (scope survey [(id, .text answer)]).get? n
      = if n ∈ namesOf survey id then some (.text answer) else none := by
  -- Every question with the identifier binds its variable, and no other question does.
  have hbindings : (survey.questions.flatMap fun question =>
      ((Scope.get? [(id, .text answer)] question.id).map (bindings question)).getD [])
        = (namesOf survey id).map (·, .text answer) := by
    rw [namesOf]
    induction survey.questions with
    | nil => rfl
    | cons question rest ih =>
        rw [List.flatMap_cons, ih, Scope.get?_cons]
        by_cases h : question.id = id
        · cases hv : given? question.varName <;> simp [h, bindings_text, hv]
        · simp [h, Scope.get?]
  rw [scope, hbindings, Scope.get?_foldl_set (.text answer) (by simp)]
  simp [Scope.get?, List.map_map, Function.comp_def]

end Answers

/-! ## Telling the options apart -/

open Condition Source

private theorem given?_of_isIdentifier {v : Text} (h : isIdentifier v = true) :
    given? (some v) = some v := by
  cases v with
  | nil => simp [isIdentifier] at h
  | cons c v => simp [given?]

/-- **A condition on the variable of a question asks for one of its options**:
`v IS label` holds exactly when the label is what has been chosen. The label
may be any text that conditions take as it stands, as long as it is not empty
and cannot be read as a computation. -/
theorem evaluate_isText_iff {source name : Text} {isChecked : Bool} {survey : Survey}
    (hcompile : (compile source name isChecked).result = .ok survey) {question : Question}
    (hquestion : question ∈ survey.questions) {v : Text} (hvar : question.varName = some v)
    (hv : isIdentifier v = true) (hkey : v ∉ conditionWords) {choice : Choice}
    (hchoice : choice ∈ question.options)
    (hplain : IsPlainLabel (survey.declared.map Prod.fst) choice.value)
    (hne : choice.value ≠ []) (hcomp : Formula.isComputation choice.value = false)
    (answer : Text) :
    evaluate (isText v choice.value) (Answers.scope survey [(question.id, .text answer)]) = true
      ↔ answer = choice.value := by
  have hword : isBareWord v = true := by
    have hname := isName_of_isIdentifier hv
    simp only [isName, Bool.and_eq_true] at hname
    exact hname.1
  have hgiven : given? question.varName = some v := by
    rw [hvar]
    exact given?_of_isIdentifier hv
  have hanswer : (Answers.scope survey [(question.id, .text answer)]).get? v
      = some (.text answer) := by
    rw [Answers.get?_scope_single, if_pos]
    exact List.mem_filterMap.mpr ⟨question, by simp [hquestion], hgiven⟩
  have hnone : (Answers.scope survey [(question.id, .text answer)]).get? choice.value = none := by
    rw [Answers.get?_scope_single, if_neg]
    intro hmem
    obtain ⟨other, hother, hn⟩ := List.mem_filterMap.mp hmem
    exact hplain.notDeclared
      (Survey.mem_declared_of_question (List.mem_filter.mp hother).1 hn)
  rw [evaluate_isText hword hkey hplain hne (trim_value_of_compile hcompile hquestion hchoice)
    hcomp hanswer hnone]
  simp

/-- A question about an age, with brackets for options. -/
def ageSource : Text := "# Person\nQ: Age?\nVARIABLE: age\n- 18-24\n-\n- older".toList

/-- The question of `ageSource`. -/
def ageQuestion : Question :=
  { id := "Q1".toList, text := "Age?".toList, varName := some "age".toList
    body := .choice false [{ value := "18-24".toList, label := "18-24".toList },
      { value := [], label := [] }, { value := "older".toList, label := "older".toList }] }

/-- The survey of `ageSource`. -/
def ageSurvey : Survey :=
  { name := [], blocks := [{ pages := [{ title := "Person".toList
                                         sections := [{ items := [.question ageQuestion] }] }] }] }

theorem compile_ageSource : (compile ageSource [] true).result = .ok ageSurvey :=
  ok_of_toOption (by decide +kernel)

private theorem isPlainLabel_age {label : Text} (hnumber : Decimal.isPlainNumber label = false)
    (hquotes : '\'' ∉ label ∧ '"' ∉ label)
    (hdeclared : label ∉ ageSurvey.declared.map Prod.fst)
    (hword : ∀ word ∈ words label, word.2 ∉ conditionWords)
    (hmarks : '|' ∉ label ∧ '&' ∉ label) :
    IsPlainLabel (ageSurvey.declared.map Prod.fst) label where
  notNumber := hnumber
  notQuoted := by
    rintro mark inner (rfl | rfl) rfl
    · exact hquotes.1 List.mem_cons_self
    · exact hquotes.2 List.mem_cons_self
  notDeclared := hdeclared
  noWord := hword
  noOr := fun h => hmarks.1 (h.subset (by decide))
  noAnd := fun h => hmarks.2 (h.subset (by decide))

theorem evaluate_isText_older :
    evaluate (isText "age".toList "older".toList)
        (Answers.scope ageSurvey [("Q1".toList, .text "older".toList)]) = true
      ↔ "older".toList = "older".toList :=
  evaluate_isText_iff compile_ageSource (show ageQuestion ∈ ageSurvey.questions by decide) rfl
    (by decide) (by decide)
    (show { value := "older".toList, label := "older".toList } ∈ ageQuestion.options by decide)
    (isPlainLabel_age (by decide +kernel) (by decide) (by decide) (by decide) (by decide))
    (by decide) (by decide +kernel) "older".toList

/-- **Brackets and empty labels are not told apart.** `18-24` counts as a
difference, which the answer `18-24` does not equal; and a condition with
nothing to compare is malformed and so holds, whatever the answer is. -/
theorem bracket_and_empty_label :
    (compile ageSource [] true).result = .ok ageSurvey ∧ ageQuestion ∈ ageSurvey.questions ∧
      ageQuestion.kind = .multipleChoice ∧ ageQuestion.varName = some "age".toList ∧
      ageQuestion.options.map Choice.value = ["18-24".toList, [], "older".toList] ∧
      (∀ relation ∈ relations, ¬ relation.symbol <:+: "18-24".toList) ∧
      (IsPlainLabel (ageSurvey.declared.map Prod.fst) "18-24".toList ∧
        ¬ (evaluate (isText "age".toList "18-24".toList)
            (Answers.scope ageSurvey [("Q1".toList, .text "18-24".toList)]) = true
          ↔ "18-24".toList = "18-24".toList)) ∧
      IsPlainLabel (ageSurvey.declared.map Prod.fst) [] ∧
        ¬ (evaluate (isText "age".toList [])
            (Answers.scope ageSurvey [("Q1".toList, .text "older".toList)]) = true
          ↔ "older".toList = []) := by
  refine ⟨compile_ageSource, by decide, by decide, by decide, by decide, by decide, ⟨?_, ?_⟩,
    ?_, ?_⟩
  · exact isPlainLabel_age (by decide +kernel) (by decide) (by decide) (by decide) (by decide)
  · decide +kernel
  · exact isPlainLabel_age (by decide +kernel) (by decide) (by decide) (by decide) (by decide)
  · decide +kernel

end Questionnaire
