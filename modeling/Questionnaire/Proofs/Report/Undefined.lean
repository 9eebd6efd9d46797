import Questionnaire.Proofs.Report.Unused
import Questionnaire.Proofs.Source.Untitled

/-!
# Names that are not declared

The check of a survey and its inventory each go through the conditions and expressions
that are stored in it (`Stored`). The check passes over the condition of a section
without a title, which in the survey of a source never has one, so both see the same
(`mem_conditions_iff`, `mem_surveyConditions_iff`); the inventory sees the texts of items
as well (`audited_of_compile`).
-/

namespace Questionnaire

open Text

namespace Validation

/-- The names that a problem lists. -/
def Problem.names : Problem → List Text
  | .duplicates names => names
  | .condition _ names => names
  | .computation _ names => names

/-- What depends on names: a condition, or a computation with its name. -/
inductive Subject where
  | condition (owner : Owner)
  | computation (name : Text)
deriving DecidableEq, Repr

/-- The problem of names that are not declared. -/
def Subject.problem : Subject → List Text → Problem
  | .condition owner => .condition owner
  | .computation name => .computation name

theorem Subject.names_problem (subject : Subject) (names : List Text) :
    (subject.problem names).names = names := by
  cases subject <;> rfl

theorem undefinedProblem?_eq_some {declared : List Text} {condition : Option Text}
    {problem : List Text → Problem} {found : Problem} :
    undefinedProblem? declared condition problem = some found ↔
      undefinedNames condition declared ≠ [] ∧
        found = problem (undefinedNames condition declared) := by
  cases hnames : undefinedNames condition declared with
  | nil => simp [undefinedProblem?, hnames]
  | cons n rest => simp [undefinedProblem?, hnames, eq_comm]

theorem mem_undefinedNames {declared : List Text} {t n : Text} :
    n ∈ undefinedNames (some t) declared ↔ n ∈ references t ∧ n ∉ declared := by
  simp [undefinedNames, referencesOf]

end Validation

namespace Report

open Validation

/-- **A condition or an expression that is stored in a survey.** -/
inductive Stored (survey : Survey) : Subject → Text → Prop where
  | block {block : Block} {t : Text} (hblock : block ∈ survey.blocks)
      (ht : block.showIf = some t) : Stored survey (.condition (.block block.name)) t
  | page {place : Block × Page} {t : Text} (hplace : place ∈ survey.pages)
      (ht : place.2.showIf = some t) : Stored survey (.condition (.page place.2.title)) t
  | heading {place : Block × Page} {part : Section} {t : Text} (hplace : place ∈ survey.pages)
      (hpart : part ∈ place.2.sections) (ht : part.showIf = some t) :
      Stored survey (.condition (.heading (part.title.getD []))) t
  | question {asked : Question} {t : Text} (hasked : asked ∈ survey.questions)
      (ht : asked.showIf = some t) : Stored survey (.condition (.question asked.id)) t
  | option {asked : Question} {choice : Choice} {t : Text} (hasked : asked ∈ survey.questions)
      (hchoice : choice ∈ asked.options) (ht : choice.showIf = some t) :
      Stored survey (.condition (.option asked.id choice.label)) t
  | row {asked : Question} {row : Row} {t : Text} (hasked : asked ∈ survey.questions)
      (hrow : row ∈ asked.rows) (ht : row.showIf = some t) :
      Stored survey (.condition (.row asked.id row.id)) t
  | computation {c : Computation} (hc : c ∈ survey.scopes.flatten) :
      Stored survey (.computation c.name) c.expression

variable {survey : Survey}

/-! ## Where conditions stand -/

theorem mem_pages {block : Block} {page : Page} (hblock : block ∈ survey.blocks)
    (hpage : page ∈ block.pages) : (block, page) ∈ survey.pages :=
  List.mem_flatMap.mpr ⟨block, hblock, List.mem_map_of_mem hpage⟩

/-- A question with the page and the section that it stands in. -/
theorem exists_section_of_mem_questions {asked : Question} (h : asked ∈ survey.questions) :
    ∃ place ∈ survey.pages, ∃ part ∈ place.2.sections, asked ∈ part.questions := by
  obtain ⟨place, hplace, hmem⟩ := List.mem_flatMap.mp h
  obtain ⟨part, hpart, hmem⟩ := List.mem_flatMap.mp hmem
  exact ⟨place, hplace, part, hpart, hmem⟩

/-- **The inventory sees what is stored**, computations apart. -/
theorem mem_surveyConditions_iff {t : Text} :
    some t ∈ surveyConditions survey ↔ ∃ owner, Stored survey (.condition owner) t := by
  constructor
  · intro h
    obtain ⟨block, hblock, h⟩ := List.mem_flatMap.mp h
    rcases List.mem_cons.mp h with ht | h
    · exact ⟨_, .block hblock ht.symm⟩
    obtain ⟨page, hpage, h⟩ := List.mem_flatMap.mp h
    have hplace := mem_pages hblock hpage
    rcases List.mem_cons.mp h with ht | h
    · exact ⟨_, .page hplace ht.symm⟩
    obtain ⟨part, hpart, h⟩ := List.mem_flatMap.mp h
    rcases List.mem_cons.mp h with ht | h
    · exact ⟨_, .heading hplace hpart ht.symm⟩
    obtain ⟨asked, hmem, h⟩ := List.mem_flatMap.mp h
    have hasked : asked ∈ survey.questions :=
      List.mem_flatMap.mpr ⟨_, hplace, List.mem_flatMap.mpr ⟨part, hpart, hmem⟩⟩
    rcases List.mem_cons.mp h with ht | h
    · exact ⟨_, .question hasked ht.symm⟩
    rcases List.mem_append.mp h with h | h
    · obtain ⟨choice, hchoice, ht⟩ := List.mem_map.mp h
      exact ⟨_, .option hasked hchoice ht⟩
    · obtain ⟨row, hrow, ht⟩ := List.mem_map.mp h
      exact ⟨_, .row hasked hrow ht⟩
  · rintro ⟨owner, h⟩
    cases h with
    | block hblock ht => exact List.mem_flatMap.mpr ⟨_, hblock, ht ▸ List.mem_cons_self⟩
    | page hplace ht =>
        obtain ⟨block, hblock, hmem⟩ := List.mem_flatMap.mp hplace
        obtain ⟨page, hpage, rfl⟩ := List.mem_map.mp hmem
        exact mem_surveyConditions_of_page hblock hpage (ht ▸ List.mem_cons_self)
    | heading hplace hpart ht =>
        exact mem_surveyConditions_of_section hplace hpart (ht ▸ List.mem_cons_self)
    | question hasked ht =>
        exact mem_surveyConditions_of_question hasked (ht ▸ List.mem_cons_self)
    | option hasked hchoice ht =>
        exact mem_surveyConditions_of_question hasked (List.mem_cons_of_mem _
          (List.mem_append_left _ (List.mem_map.mpr ⟨_, hchoice, ht⟩)))
    | row hasked hrow ht =>
        exact mem_surveyConditions_of_question hasked (List.mem_cons_of_mem _
          (List.mem_append_right _ (List.mem_map.mpr ⟨_, hrow, ht⟩)))

/-- **The check sees what is stored** if no section without a title has a condition. -/
theorem mem_conditions_iff
    (hplain : ∀ place ∈ survey.pages, ∀ part ∈ place.2.sections, part.IsPlain) {owner : Owner}
    {t : Text} :
    (owner, some t) ∈ conditions survey ↔ Stored survey (.condition owner) t := by
  constructor
  · intro h
    obtain ⟨block, hblock, h⟩ := List.mem_flatMap.mp h
    rcases List.mem_cons.mp h with ht | h
    · obtain ⟨rfl, hshow⟩ := Prod.mk.inj ht
      exact .block hblock hshow.symm
    obtain ⟨page, hpage, h⟩ := List.mem_flatMap.mp h
    have hplace := mem_pages hblock hpage
    rcases List.mem_cons.mp h with ht | h
    · obtain ⟨rfl, hshow⟩ := Prod.mk.inj ht
      exact .page hplace hshow.symm
    obtain ⟨part, hpart, h⟩ := List.mem_flatMap.mp h
    rcases List.mem_append.mp h with h | h
    · obtain ⟨title, htitle, ht⟩ := List.mem_map.mp h
      obtain ⟨rfl, hshow⟩ := Prod.mk.inj ht
      have hheading := Stored.heading hplace hpart hshow
      rwa [Option.mem_toList.mp htitle] at hheading
    obtain ⟨asked, hmem, h⟩ := List.mem_flatMap.mp h
    have hasked : asked ∈ survey.questions :=
      List.mem_flatMap.mpr ⟨_, hplace, List.mem_flatMap.mpr ⟨part, hpart, hmem⟩⟩
    rcases List.mem_append.mp h with h | h
    · rcases List.mem_cons.mp h with ht | h
      · obtain ⟨rfl, hshow⟩ := Prod.mk.inj ht
        exact .question hasked hshow.symm
      · obtain ⟨choice, hchoice, ht⟩ := List.mem_map.mp h
        obtain ⟨rfl, hshow⟩ := Prod.mk.inj ht
        exact .option hasked hchoice hshow
    · obtain ⟨row, hrow, ht⟩ := List.mem_map.mp h
      obtain ⟨rfl, hshow⟩ := Prod.mk.inj ht
      exact .row hasked hrow hshow
  · -- A page, a section and a question each bring in theirs.
    have hpage : ∀ {place : Block × Page} {entry : Owner × Option Text}, place ∈ survey.pages →
        (entry ∈ (.page place.2.title, place.2.showIf) ::
          place.2.sections.flatMap sectionConditions) → entry ∈ conditions survey := by
      intro place entry hplace h
      obtain ⟨block, hblock, hmem⟩ := List.mem_flatMap.mp hplace
      obtain ⟨page, hpage, rfl⟩ := List.mem_map.mp hmem
      exact List.mem_flatMap.mpr ⟨block, hblock, List.mem_cons_of_mem _
        (List.mem_flatMap.mpr ⟨page, hpage, h⟩)⟩
    have hquestion : ∀ {asked : Question} {entry : Owner × Option Text},
        asked ∈ survey.questions → entry ∈ Validation.questionConditions asked →
          entry ∈ conditions survey := by
      intro asked entry hasked h
      obtain ⟨place, hplace, part, hpart, hmem⟩ := exists_section_of_mem_questions hasked
      exact hpage hplace (List.mem_cons_of_mem _ (List.mem_flatMap.mpr ⟨part, hpart,
        List.mem_append_right _ (List.mem_flatMap.mpr ⟨asked, hmem, h⟩)⟩))
    intro h
    cases h with
    | block hblock ht => exact List.mem_flatMap.mpr ⟨_, hblock, ht ▸ List.mem_cons_self⟩
    | page hplace ht => exact hpage hplace (ht ▸ List.mem_cons_self)
    | @heading place part _ hplace hpart ht =>
        cases htitle : part.title with
        | none => simp [hplain place hplace part hpart htitle] at ht
        | some title =>
            refine hpage hplace (List.mem_cons_of_mem _ (List.mem_flatMap.mpr ⟨part, hpart,
              List.mem_append_left _ ?_⟩))
            simp [htitle, ht]
    | question hasked ht => exact hquestion hasked (ht ▸ List.mem_append_left _ List.mem_cons_self)
    | option hasked hchoice ht =>
        exact hquestion hasked (List.mem_append_left _ (List.mem_cons_of_mem _
          (List.mem_map.mpr ⟨_, hchoice, ht ▸ rfl⟩)))
    | row hasked hrow ht =>
        exact hquestion hasked (List.mem_append_right _ (List.mem_map.mpr ⟨_, hrow, ht ▸ rfl⟩))

/-! ## What is reported -/

/-- What uses a name: something that is stored, or the text of an item. -/
theorem mem_uses_iff {n : Text} : n ∈ uses survey ↔
    (∃ subject t, Stored survey subject t ∧ n ∈ references t) ∨
      ∃ item ∈ surveyItems survey, ∃ t ∈ itemTexts item, n ∈ textReferences t := by
  rw [uses, List.mem_append, List.mem_append]
  simp only [List.mem_flatMap]
  refine or_congr_left ⟨?_, ?_⟩
  · rintro (⟨condition, hcondition, hn⟩ | ⟨c, hc, hn⟩)
    · cases condition with
      | none => cases hn
      | some t =>
          obtain ⟨owner, hstored⟩ := mem_surveyConditions_iff.mp hcondition
          exact ⟨_, t, hstored, hn⟩
    · exact ⟨_, _, .computation hc, hn⟩
  · rintro ⟨subject, t, hstored, hn⟩
    cases subject with
    | condition owner => exact .inl ⟨some t, mem_surveyConditions_iff.mpr ⟨owner, hstored⟩, hn⟩
    | computation name =>
        cases hstored with
        | computation hc => exact .inr ⟨_, hc, hn⟩

theorem mem_undefined_iff {n : Text} :
    n ∈ (ofSurvey survey).undefined ↔ n ∈ uses survey ∧ n ∉ survey.declared.map (·.1) := by
  rw [ofSurvey, (sorted_perm _).mem_iff, List.mem_filter, Formula.mem_distinct]
  refine and_congr_right fun _ => ?_
  rw [Bool.not_eq_true', ← Bool.not_eq_true, List.any_eq_true, List.mem_map]
  simp only [decide_eq_true_eq]

/-- **The check and the inventory of a survey agree** on the names that are not declared. -/
structure Audited (survey : Survey) : Prop where
  /-- No section without a title has a condition. -/
  untitled : ∀ place ∈ survey.pages, ∀ part ∈ place.2.sections, part.title = none →
    part.showIf = none
  /-- Everything that is stored is checked, and nothing else is. -/
  checked : ∀ problem, problem ∈ referenceProblems survey ↔ ∃ subject t,
    Stored survey subject t ∧ undefinedNames (some t) (survey.declared.map (·.1)) ≠ [] ∧
      problem = subject.problem (undefinedNames (some t) (survey.declared.map (·.1)))
  /-- The problems list the names in what is stored that are not declared. -/
  listed : ∀ n, (∃ problem ∈ referenceProblems survey, n ∈ problem.names) ↔
    (∃ subject t, Stored survey subject t ∧ n ∈ references t) ∧ n ∉ survey.declared.map (·.1)
  /-- The inventory has them too. -/
  reported : ∀ problem ∈ referenceProblems survey, ∀ n ∈ problem.names,
    n ∈ (ofSurvey survey).undefined
  /-- Any other name in it stands in the text of an item and in nothing that is stored. -/
  displayed : ∀ n ∈ (ofSurvey survey).undefined,
    (∀ problem ∈ referenceProblems survey, n ∉ problem.names) →
      (∃ item ∈ surveyItems survey, ∃ t ∈ itemTexts item, n ∈ textReferences t) ∧
        ∀ subject t, Stored survey subject t → n ∉ references t

/-- A problem is that of something stored with names in it that are not declared. -/
theorem mem_referenceProblems_iff
    (hplain : ∀ place ∈ survey.pages, ∀ part ∈ place.2.sections, part.IsPlain)
    {problem : Problem} :
    problem ∈ referenceProblems survey ↔ ∃ subject t,
      Stored survey subject t ∧ undefinedNames (some t) (survey.declared.map (·.1)) ≠ [] ∧
        problem = subject.problem (undefinedNames (some t) (survey.declared.map (·.1))) := by
  simp only [referenceProblems, List.mem_append, List.mem_filterMap, undefinedProblem?_eq_some]
  constructor
  · rintro (⟨⟨owner, condition⟩, hmem, hne, rfl⟩ | ⟨c, hc, hne, rfl⟩)
    · cases condition with
      | none => exact absurd rfl hne
      | some t => exact ⟨_, t, (mem_conditions_iff hplain).mp hmem, hne, rfl⟩
    · exact ⟨_, _, .computation hc, hne, rfl⟩
  · rintro ⟨subject, t, hstored, hne, rfl⟩
    cases subject with
    | condition owner =>
        exact .inl ⟨(owner, some t), (mem_conditions_iff hplain).mpr hstored, hne, rfl⟩
    | computation name =>
        cases hstored with
        | computation hc => exact .inr ⟨_, hc, hne, rfl⟩

/-- **Every condition and expression of a source is checked**, and what the check finds is
what the inventory reports, texts apart. -/
theorem audited_of_compile {source name : Text} {isChecked : Bool} {survey : Survey}
    (h : (Source.compile source name isChecked).result = .ok survey) : Audited survey := by
  have hplain : ∀ place ∈ survey.pages, ∀ part ∈ place.2.sections, part.IsPlain :=
    fun _ hplace _ hpart => Source.isPlain_of_compile h hplace hpart
  have hchecked : ∀ problem, problem ∈ referenceProblems survey ↔ _ := fun _ =>
    mem_referenceProblems_iff hplain
  have hlisted : ∀ n, (∃ problem ∈ referenceProblems survey, n ∈ problem.names) ↔
      (∃ subject t, Stored survey subject t ∧ n ∈ references t) ∧
        n ∉ survey.declared.map (·.1) := by
    intro n
    constructor
    · rintro ⟨problem, hproblem, hn⟩
      obtain ⟨subject, t, hstored, -, rfl⟩ := (hchecked problem).mp hproblem
      rw [Subject.names_problem, mem_undefinedNames] at hn
      exact ⟨⟨subject, t, hstored, hn.1⟩, hn.2⟩
    · rintro ⟨⟨subject, t, hstored, hn⟩, hdeclared⟩
      have hmem := mem_undefinedNames.mpr ⟨hn, hdeclared⟩
      refine ⟨_, (hchecked _).mpr ⟨subject, t, hstored, List.ne_nil_of_mem hmem, rfl⟩, ?_⟩
      rwa [Subject.names_problem]
  refine ⟨hplain, hchecked, hlisted, fun problem hproblem n hn => ?_, fun n hn hother => ?_⟩
  · obtain ⟨hstored, hdeclared⟩ := (hlisted n).mp ⟨problem, hproblem, hn⟩
    exact mem_undefined_iff.mpr ⟨mem_uses_iff.mpr (.inl hstored), hdeclared⟩
  · obtain ⟨huses, hdeclared⟩ := mem_undefined_iff.mp hn
    have hnot : ¬ ∃ subject t, Stored survey subject t ∧ n ∈ references t := fun hstored => by
      obtain ⟨problem, hproblem, hmem⟩ := (hlisted n).mpr ⟨hstored, hdeclared⟩
      exact hother problem hproblem hmem
    refine ⟨(mem_uses_iff.mp huses).resolve_left hnot, fun subject t hstored hmem => ?_⟩
    exact hnot ⟨subject, t, hstored, hmem⟩

/-- Names in a condition, in an expression, in a condition of an option and in a text. -/
def undeclaredSource : Text := join ['\n'] (List.map String.toList [
  "## Costs", "SHOW_IF: a", "COMPUTE: c = b + 1", "Q: Of \x7bd\x7d?", "- All", "  - SHOW_IF: e"])

/-- The survey of `undeclaredSource`. -/
def undeclaredSurvey : Survey :=
  (Source.compile undeclaredSource [] false).result.toOption.getD { name := [] }

theorem audited_undeclaredSurvey :
    (Source.compile undeclaredSource [] false).result = .ok undeclaredSurvey ∧
      (referenceProblems undeclaredSurvey).map Problem.names
        = [["a".toList], ["e".toList], ["b".toList]] ∧
      (ofSurvey undeclaredSurvey).undefined = ["a".toList, "b".toList, "d".toList, "e".toList] ∧
      ∃ item ∈ surveyItems undeclaredSurvey, ∃ t ∈ itemTexts item,
        "d".toList ∈ textReferences t := by
  have hcompile : (Source.compile undeclaredSource [] false).result = .ok undeclaredSurvey := by rfl
  refine ⟨hcompile, by decide +kernel, by decide +kernel, ?_⟩
  exact ((audited_of_compile hcompile).displayed "d".toList (by decide +kernel)
    (by decide +kernel)).1

end Report
end Questionnaire
