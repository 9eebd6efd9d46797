import Questionnaire.Proofs.Source.Apart
import Questionnaire.Proofs.Source.Questions

/-!
# The checks read no hints and no tooltips

Two surveys that are a hint or a tooltip apart have the same problems: the checks
on a finished survey read names, conditions and computations only.
-/

namespace Questionnaire

open Source Validation

variable {edit : Edit} {holder : Holder}

/-! ## Names -/

theorem Question.Apart.declaredBy_eq {question question' : Question}
    (h : Question.Apart edit holder question question') :
    Survey.declaredBy question = Survey.declaredBy question' := by
  have hchoice : ∀ choice choice', WrittenApart Choice.put edit choice choice' →
      choice.varName = choice'.varName :=
    fun _ _ h => h.eq fun _ _ => by cases edit.aspect <;> rfl
  have hrow : ∀ row row', WrittenApart Row.put edit row row' → row.varName = row'.varName :=
    fun _ _ h => h.eq fun _ _ => by cases edit.aspect <;> rfl
  -- The names of rows and options are read off lists of names, so that these can agree.
  have hsplit : ∀ question : Question, Survey.declaredBy question
      = (given? question.varName).toList.map (·, .question) ++
        (question.rows.map Row.varName).filterMap (fun name => (given? name).map (·, .row)) ++
        (question.options.map Choice.varName).filterMap
          (fun name => (given? name).map (·, .option)) := by
    intro question
    rw [List.filterMap_map, List.filterMap_map]
    rfl
  cases h with
  | own h => exact h.eq fun _ _ => by cases edit.aspect <;> rfl
  | body question h =>
      rw [hsplit, hsplit]
      cases h with
      | choice many h => simp only [options, rows, Body.options, Body.rows, h.map_eq hchoice]
      | matrix rows h input =>
          simp only [options, Question.rows, Body.options, Body.rows, h.map_eq hchoice]
      | breakdown h before after label column =>
          simp only [options, rows, Body.options, Body.rows, h.map_eq hchoice]
      | rows h options input =>
          simp only [Question.options, rows, Body.options, Body.rows, h.map_eq hrow]

/-! ## Conditions -/

/-- No condition is written. -/
theorem Question.Apart.conditions_eq (haspect : edit.aspect ≠ .showIf)
    {question question' : Question} (h : Question.Apart edit holder question question') :
    questionConditions question = questionConditions question' := by
  have hchoice : ∀ (id : Text) (choice choice' : Choice),
      WrittenApart Choice.put edit choice choice' →
        (Owner.option id choice.label, choice.showIf)
          = (Owner.option id choice'.label, choice'.showIf) := by
    intro id choice choice' h
    refine h.eq (f := fun choice : Choice => (Owner.option id choice.label, choice.showIf))
      fun _ _ => ?_
    cases hwhich : edit.aspect with
    | showIf => exact absurd hwhich haspect
    | _ => rfl
  have hrow : ∀ (id : Text) (row row' : Row), WrittenApart Row.put edit row row' →
      (Owner.row id row.id, row.showIf) = (Owner.row id row'.id, row'.showIf) := by
    intro id row row' h
    refine h.eq (f := fun row : Row => (Owner.row id row.id, row.showIf)) fun _ _ => ?_
    cases hwhich : edit.aspect with
    | showIf => exact absurd hwhich haspect
    | _ => rfl
  cases h with
  | own h =>
      refine h.eq fun _ _ => ?_
      cases hwhich : edit.aspect with
      | showIf => exact absurd hwhich haspect
      | _ => rfl
  | body question h =>
      cases h with
      | choice many h =>
          simp only [questionConditions, options, Body.options, h.map_eq (hchoice question.id)]
          rfl
      | matrix rows h input =>
          simp only [questionConditions, options, Body.options, h.map_eq (hchoice question.id)]
          rfl
      | breakdown h before after label column =>
          simp only [questionConditions, options, Body.options, h.map_eq (hchoice question.id)]
          rfl
      | rows h options input =>
          simp only [questionConditions, rows, Body.rows, h.map_eq (hrow question.id)]
          rfl

theorem Section.Apart.flatMap_questions {β : Type} {f : Question → List β}
    (hf : ∀ question question', Question.Apart edit holder question question' →
      f question = f question')
    {part part' : Section} (h : Section.Apart edit holder part part') :
    part.questions.flatMap f = part'.questions.flatMap f := by
  have hitems : ∀ items : List Item, (items.filterMap Item.question?).flatMap f
      = items.flatMap fun item => item.question?.toList.flatMap f := by
    intro items
    induction items with
    | nil => rfl
    | cons item items ih =>
        cases item with
        | text value => exact ih
        | question question =>
            show f question ++ (items.filterMap Item.question?).flatMap f
              = [question].flatMap f ++ items.flatMap fun item => item.question?.toList.flatMap f
            rw [ih, List.flatMap_singleton]
  cases h with
  | own h =>
      exact h.eq (f := fun part : Section => part.questions.flatMap f)
        fun _ _ => by cases edit.aspect <;> rfl
  | items part h =>
      rw [Section.questions, Section.questions, hitems, hitems]
      refine h.flatMap_eq fun item item' hitem => ?_
      cases hitem with
      | question h => simp [Item.question?, hf _ _ h]

theorem Section.Apart.conditions_eq (haspect : edit.aspect ≠ .showIf) {part part' : Section}
    (h : Section.Apart edit holder part part') :
    sectionConditions part = sectionConditions part' := by
  have hshow : part.showIf = part'.showIf := by
    cases h with
    | items part h => rfl
    | own h =>
        refine h.eq fun _ _ => ?_
        cases hwhich : edit.aspect with
        | showIf => exact absurd hwhich haspect
        | _ => rfl
  rw [sectionConditions, sectionConditions, h.title_eq, hshow,
    h.flatMap_questions fun _ _ => Question.Apart.conditions_eq haspect]

/-! ## Pages and blocks -/

theorem Page.Apart.flatMap_questions {β : Type} {f : Question → List β}
    (hf : ∀ question question', Question.Apart edit holder question question' →
      f question = f question')
    {page page' : Page} (h : Page.Apart edit holder page page') :
    page.questions.flatMap f = page'.questions.flatMap f := by
  cases h with
  | own h =>
      exact h.eq (f := fun page : Page => page.questions.flatMap f)
        fun _ _ => by cases edit.aspect <;> rfl
  | sections page h =>
      simp only [Page.questions, List.flatMap_assoc]
      exact h.flatMap_eq fun _ _ h => h.flatMap_questions hf

theorem Page.Apart.computations_eq {page page' : Page} (h : Page.Apart edit holder page page') :
    page.computations = page'.computations := by
  cases h with
  | own h => exact h.eq fun _ _ => by cases edit.aspect <;> rfl
  | sections page h => rfl

theorem Page.Apart.conditions_eq (haspect : edit.aspect ≠ .showIf) {page page' : Page}
    (h : Page.Apart edit holder page page') :
    (Owner.page page.title, page.showIf) :: page.sections.flatMap sectionConditions
      = (Owner.page page'.title, page'.showIf) :: page'.sections.flatMap sectionConditions := by
  cases h with
  | own h =>
      refine h.eq (f := fun page : Page =>
        (Owner.page page.title, page.showIf) :: page.sections.flatMap sectionConditions)
        fun _ _ => ?_
      cases hwhich : edit.aspect with
      | showIf => exact absurd hwhich haspect
      | _ => rfl
  | sections page h => simp only [h.flatMap_eq fun _ _ h => h.conditions_eq haspect]

/-- A block has a condition only, so it does not differ itself. -/
theorem Block.Apart.pages_apart (haspect : edit.aspect ≠ .showIf) {block block' : Block}
    (h : Block.Apart edit holder block block') :
    ∃ (base : Block) (pages pages' : List Page), OneApart (Page.Apart edit holder) pages pages' ∧
      block = { base with pages } ∧ block' = { base with pages := pages' } := by
  cases h with
  | pages base h => exact ⟨base, _, _, h, rfl, rfl⟩
  | own h =>
      have hsame : block = block' := by
        refine h.eq (f := id) fun _ _ => ?_
        cases hwhich : edit.aspect with
        | showIf => exact absurd hwhich haspect
        | _ => rfl
      exact ⟨block, block.pages, block.pages, .same _, rfl, hsame.symm⟩

/-! ## The problems of a survey -/

/-- What is read off the pages of every block, and off the block otherwise, is the
same for both surveys. -/
private theorem flatMap_blocks {β : Type} (haspect : edit.aspect ≠ .showIf)
    {f : Block → List Page → List β}
    (hf : ∀ (block : Block) {pages pages' : List Page},
      OneApart (Page.Apart edit holder) pages pages' → f block pages = f block pages')
    (hblock : ∀ (block : Block) (pages pages' : List Page),
      f { block with pages } pages' = f block pages')
    {survey survey' : Survey} (h : survey.Apart edit holder survey') :
    (survey.blocks.flatMap fun block => f block block.pages)
      = survey'.blocks.flatMap fun block => f block block.pages := by
  refine h.blocks.flatMap_eq fun block block' hapart => ?_
  obtain ⟨base, pages, pages', hpages, rfl, rfl⟩ := hapart.pages_apart haspect
  exact (hblock base pages pages).trans ((hf base hpages).trans (hblock base pages' pages').symm)

/-- **Surveys that are a hint or a tooltip apart have the same problems.** -/
theorem Survey.Apart.problems_eq (haspect : edit.aspect ≠ .showIf) {survey survey' : Survey}
    (h : survey.Apart edit holder survey') : problems survey = problems survey' := by
  have hnames : answerNames survey = answerNames survey' := by
    simp only [answerNames, Survey.questions_eq, Block.questions, List.flatMap_assoc]
    rw [flatMap_blocks haspect (f := fun _ pages => pages.flatMap fun page =>
        page.questions.flatMap Survey.declaredBy) (fun _ _ _ hpages => ?_) (fun _ _ _ => rfl) h]
    exact hpages.flatMap_eq fun _ _ h => h.flatMap_questions fun _ _ h => h.declaredBy_eq
  have hscopes : survey.scopes = survey'.scopes := by
    refine flatMap_blocks haspect (f := fun block pages =>
      block.computations :: pages.map Page.computations) (fun _ _ _ hpages => ?_)
      (fun _ _ _ => rfl) h
    rw [hpages.map_eq fun _ _ h => h.computations_eq]
  have hconditions : conditions survey = conditions survey' := by
    refine flatMap_blocks haspect (f := fun block pages =>
      (Owner.block block.name, block.showIf) :: pages.flatMap fun page =>
        (Owner.page page.title, page.showIf) :: page.sections.flatMap sectionConditions)
      (fun _ _ _ hpages => ?_) (fun _ _ _ => rfl) h
    rw [hpages.flatMap_eq fun _ _ h => h.conditions_eq haspect]
  have hdeclarations : survey.declarations = survey'.declarations := by
    refine flatMap_blocks haspect (f := fun block pages =>
      block.computations.map (fun c => (c.name, Survey.Role.computed)) ++ pages.flatMap fun page =>
        page.computations.map (fun c => (c.name, Survey.Role.computed)) ++
          page.questions.flatMap Survey.declaredBy) (fun _ _ _ hpages => ?_) (fun _ _ _ => rfl) h
    rw [hpages.flatMap_eq fun _ _ h => ?_]
    rw [h.computations_eq, h.flatMap_questions fun _ _ h => h.declaredBy_eq]
  rw [problems, problems, nameProblems, nameProblems, duplicateNames, duplicateNames,
    referenceProblems, referenceProblems, Survey.declared, Survey.declared, hnames, hscopes,
    hconditions, hdeclarations]

end Questionnaire
