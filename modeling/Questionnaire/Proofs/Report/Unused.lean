import Questionnaire.Breakdown
import Questionnaire.Proofs.Computation.Dependence
import Questionnaire.Proofs.Report.Texts
import Questionnaire.Rendering
import Questionnaire.Report
import Questionnaire.Validation

/-!
# Unused names

A name that a survey declares and does not use is reported as unused. Some of what
is looked up is not counted: titles, the formulas of breakdowns, and what conditions
and texts read apart from their references. Where the name is looked up only where
uses are counted (`Accounts`), nothing that a respondent sees hangs on it
(`alike_of_unused`).
-/

namespace Questionnaire

open Text

namespace Text

/-! ## Texts in order -/

theorem insertOrdered_perm (t : Text) (texts : List Text) :
    (insertOrdered t texts).Perm (t :: texts) := by
  induction texts with
  | nil => exact .refl _
  | cons first rest ih =>
      rw [insertOrdered]
      split
      · exact .refl _
      · exact (ih.cons first).trans (.swap t first rest)

/-- Texts in order are the same texts. -/
theorem sorted_perm (texts : List Text) : (sorted texts).Perm texts := by
  induction texts with
  | nil => exact .refl _
  | cons t rest ih => exact (insertOrdered_perm t (sorted rest)).trans (ih.cons t)

end Text

/-! ## Breakdowns -/

namespace Breakdown

variable {options : List Choice} {scope other : Scope}

theorem prefills_congr
    (h : ∀ choice ∈ options, ∀ formula, given? choice.prefill = some formula →
      Formula.evaluate formula scope = Formula.evaluate formula other) :
    prefills options scope = prefills options other := by
  rw [prefills, prefills]
  refine List.filterMap_congr fun choice hchoice => Option.map_congr fun formula hformula => ?_
  exact congrArg (fun x => (choice.value, Decimal.displayFloat x)) (h choice hchoice formula hformula)

theorem subtotalsFrom?_congr {cells : Scope}
    (h : ∀ choice ∈ options, ∀ formula, given? choice.custom = some formula →
      Formula.evaluate formula scope = Formula.evaluate formula other) (running : Float) :
    subtotalsFrom? cells scope running options = subtotalsFrom? cells other running options := by
  induction options generalizing running with
  | nil => rfl
  | cons choice rest ih =>
      rw [List.forall_mem_cons] at h
      have hfigure : (given? choice.custom).map (Formula.evaluate · scope)
          = (given? choice.custom).map (Formula.evaluate · other) :=
        Option.map_congr h.1
      simp only [subtotalsFrom?, hfigure, ih h.2]

end Breakdown

namespace Report

open Template Condition

/-! ## What is seen and printed -/

/-- The texts of a question that are printed. -/
def printedTexts (question : Question) : List Text :=
  question.text :: question.hint.toList ++ question.options.map Choice.label ++
    question.rows.map Row.text

/-- The texts of an item that are printed. -/
def printed : Item → List Text
  | .text value => [value]
  | .question asked => printedTexts asked

/-- The titles of pages and sections. -/
def titles (survey : Survey) : List Text :=
  survey.pages.flatMap fun place => place.2.title :: place.2.sections.flatMap (·.title.toList)

/-- The formulas of breakdowns: amounts that are filled in at first, and subtotals. -/
def formulas (survey : Survey) : List Text :=
  (survey.questions.flatMap Question.options).flatMap fun choice =>
    choice.prefill.toList ++ choice.custom.toList

/-- All values: the answers with the computed values over them. -/
def valuesOver (survey : Survey) (answers : Scope) : Scope :=
  (Computation.resolveSurvey survey answers).onto answers

/-- **A respondent sees the same** of a survey over two scopes. -/
structure Alike (survey : Survey) (scope other : Scope) : Prop where
  blocks : View.blocks survey scope = View.blocks survey other
  pages : View.pages survey scope = View.pages survey other
  sections : ∀ place ∈ survey.pages, View.sections place.2 scope = View.sections place.2 other
  items : ∀ place ∈ survey.pages, ∀ part ∈ place.2.sections,
    View.items part scope = View.items part other
  options : ∀ question ∈ survey.questions,
    View.options question scope = View.options question other
  rows : ∀ question ∈ survey.questions, View.rows question scope = View.rows question other
  titles : ∀ t ∈ titles survey, fill? scope t = fill? other t
  texts : ∀ item ∈ surveyItems survey, ∀ t ∈ printed item, fill? scope t = fill? other t
  prefills : ∀ question ∈ survey.questions,
    Breakdown.prefills question.options scope = Breakdown.prefills question.options other

/-- The name is looked up in a survey only where its uses count: in conditions, computations and
the texts of items, and there only as a reference. -/
structure Accounts (x : Text) (survey : Survey) : Prop where
  conditions : ∀ c, some c ∈ surveyConditions survey → Condition.Accounts x c
  computations : ∀ c ∈ survey.scopes.flatten, Computation.Accounts x c.expression
  /-- No other computed value has a name that is a formula with the name in it. -/
  names : ∀ c ∈ survey.scopes.flatten, x ∈ Formula.namesIn c.name → c.name = x
  texts : ∀ item ∈ surveyItems survey, ∀ t ∈ printed item, Template.Accounts x t
  /-- A title is printed and not counted, so it does not use the name at all. -/
  titles : ∀ t ∈ titles survey, Template.Accounts x t ∧ x ∉ textReferences t
  /-- Neither does a formula of a breakdown. -/
  formulas : ∀ t ∈ formulas survey, x ∉ Formula.namesIn t

/-! ## What is printed of two scopes -/

section

variable {survey : Survey} {scope other : Scope}

theorem mem_surveyItems {place : Block × Page} {part : Section} {item : Item}
    (hplace : place ∈ survey.pages) (hpart : part ∈ place.2.sections) (hitem : item ∈ part.items) :
    item ∈ surveyItems survey :=
  List.mem_flatMap.mpr ⟨place, hplace, List.mem_flatMap.mpr ⟨part, hpart, hitem⟩⟩

theorem mem_questions {place : Block × Page} {part : Section} {asked : Question}
    (hplace : place ∈ survey.pages) (hpart : part ∈ place.2.sections)
    (hasked : .question asked ∈ part.items) : asked ∈ survey.questions :=
  List.mem_flatMap.mpr ⟨place, hplace, List.mem_flatMap.mpr
    ⟨part, hpart, List.mem_filterMap.mpr ⟨_, hasked, rfl⟩⟩⟩

theorem mem_of_given? {value : Option Text} {t : Text} (h : t ∈ (given? value).toList) :
    t ∈ value.toList := by
  rw [given?, Option.mem_toList] at h
  exact Option.mem_toList.mpr (Option.filter_eq_some_iff.mp h).1

namespace Alike

theorem questionLines_eq (h : Alike survey scope other) {asked : Question}
    (hasked : asked ∈ survey.questions)
    (htexts : ∀ t ∈ printedTexts asked, fill? scope t = fill? other t) :
    Rendering.questionLines scope asked = Rendering.questionLines other asked := by
  simp only [printedTexts, List.cons_append, List.forall_mem_cons, List.forall_mem_append,
    List.forall_mem_map] at htexts
  obtain ⟨htext, ⟨hhint, hoptions⟩, hrows⟩ := htexts
  have hoption : ∀ choice ∈ asked.options,
      Rendering.optionLine scope choice = Rendering.optionLine other choice := fun choice hmem => by
    rw [Rendering.optionLine, Rendering.optionLine, hoptions choice hmem]
  rw [Rendering.questionLines, Rendering.questionLines, htext, h.rows asked hasked,
    h.options asked hasked]
  congr 1
  · congr 1
    · congr 1
      exact List.map_congr_left fun hint hmem => by rw [hhint hint (mem_of_given? hmem)]
    · exact List.map_congr_left fun row hmem => by rw [hrows row (List.mem_of_mem_filter hmem)]
  · exact List.map_congr_left fun choice hmem => hoption choice (List.mem_of_mem_filter hmem)

theorem itemLines_eq (h : Alike survey scope other) {place : Block × Page} {part : Section}
    {item : Item} (hplace : place ∈ survey.pages) (hpart : part ∈ place.2.sections)
    (hitem : item ∈ part.items) :
    Rendering.itemLines scope item = Rendering.itemLines other item := by
  have htexts := h.texts item (mem_surveyItems hplace hpart hitem)
  cases item with
  | text value => rw [Rendering.itemLines, Rendering.itemLines, htexts value List.mem_cons_self]
  | question asked => exact h.questionLines_eq (mem_questions hplace hpart hitem) htexts

theorem pageLines_eq (h : Alike survey scope other) {place : Block × Page}
    (hplace : place ∈ survey.pages) :
    Rendering.pageLines scope place.2 = Rendering.pageLines other place.2 := by
  have htitle : fill? scope place.2.title = fill? other place.2.title :=
    h.titles _ (List.mem_flatMap.mpr ⟨place, hplace, List.mem_cons_self⟩)
  have hsection : ∀ part ∈ place.2.sections,
      Rendering.sectionLines scope part = Rendering.sectionLines other part := fun part hpart => by
    rw [Rendering.sectionLines, Rendering.sectionLines, h.items place hplace part hpart]
    congr 1
    · refine List.map_congr_left fun title hmem => ?_
      rw [h.titles title (List.mem_flatMap.mpr ⟨place, hplace, List.mem_cons_of_mem _
        (List.mem_flatMap.mpr ⟨part, hpart, mem_of_given? hmem⟩)⟩)]
    · exact List.flatMap_congr fun item hitem =>
        h.itemLines_eq hplace hpart (List.mem_of_mem_filter hitem)
  rw [Rendering.pageLines, Rendering.pageLines, Rendering.pageTitle, Rendering.pageTitle, htitle,
    h.sections place hplace]
  congr 2
  exact List.flatMap_congr fun part hpart => hsection part (List.mem_of_mem_filter hpart)

/-- What is seen alike is printed alike. -/
theorem surveyLines_eq (h : Alike survey scope other) :
    Rendering.surveyLines survey scope = Rendering.surveyLines survey other := by
  rw [Rendering.surveyLines, Rendering.surveyLines, h.pages]
  refine List.flatMap_congr fun place hplace => h.pageLines_eq ?_
  obtain ⟨block, hblock, hmem⟩ := List.mem_flatMap.mp hplace
  obtain ⟨page, hpage, rfl⟩ := List.mem_map.mp hmem
  exact List.mem_flatMap.mpr ⟨block, List.mem_of_mem_filter hblock,
    List.mem_map_of_mem (List.mem_of_mem_filter hpage)⟩

end Alike
end

/-! ## What counts -/

theorem mem_surveyConditions_of_page {survey : Survey} {block : Block} {page : Page}
    {c : Option Text} (hblock : block ∈ survey.blocks) (hpage : page ∈ block.pages)
    (h : c ∈ page.showIf :: page.sections.flatMap fun part =>
      part.showIf :: part.questions.flatMap questionConditions) : c ∈ surveyConditions survey :=
  List.mem_flatMap.mpr ⟨block, hblock, List.mem_cons_of_mem _ (List.mem_flatMap.mpr
    ⟨page, hpage, h⟩)⟩

theorem mem_surveyConditions_of_section {survey : Survey} {place : Block × Page} {part : Section}
    {c : Option Text} (hplace : place ∈ survey.pages) (hpart : part ∈ place.2.sections)
    (h : c ∈ part.showIf :: part.questions.flatMap questionConditions) :
    c ∈ surveyConditions survey := by
  obtain ⟨block, hblock, hmem⟩ := List.mem_flatMap.mp hplace
  obtain ⟨page, hpage, rfl⟩ := List.mem_map.mp hmem
  exact mem_surveyConditions_of_page hblock hpage (List.mem_cons_of_mem _
    (List.mem_flatMap.mpr ⟨part, hpart, h⟩))

theorem mem_surveyConditions_of_question {survey : Survey} {asked : Question} {c : Option Text}
    (hasked : asked ∈ survey.questions) (h : c ∈ questionConditions asked) :
    c ∈ surveyConditions survey := by
  obtain ⟨place, hplace, hmem⟩ := List.mem_flatMap.mp hasked
  obtain ⟨part, hpart, hmem⟩ := List.mem_flatMap.mp hmem
  exact mem_surveyConditions_of_section hplace hpart
    (List.mem_cons_of_mem _ (List.mem_flatMap.mpr ⟨asked, hmem, h⟩))

theorem printed_subset_itemTexts {item : Item} {t : Text} (h : t ∈ printed item) :
    t ∈ itemTexts item := by
  cases item with
  | text value => exact h
  | question asked =>
      simp only [printed, printedTexts, itemTexts, questionTexts, List.cons_append, List.mem_cons,
        List.mem_append] at h ⊢
      tauto

/-- What is reported as unused is declared and counts nowhere. -/
theorem mem_unused {survey : Survey} {x : Text} :
    x ∈ (ofSurvey survey).unused ↔ x ∈ survey.declared.map (·.1) ∧ x ∉ uses survey := by
  rw [ofSurvey, (sorted_perm _).mem_iff, List.mem_filter]
  simp

/-! ## A name on which nothing hangs -/

section

variable {survey : Survey} {x : Text} {scope other : Scope} (h : Accounts x survey)
  (hname : isIdentifier x = true) (hreserved : x ∉ Validation.reserved)
  (hunused : x ∉ uses survey) (hapart : scope.KeepsApart x) (hsame : scope.SameBut x other)
include h hname hreserved hunused

omit hname hreserved in
theorem Accounts.spares {c : Computation} (hc : c ∈ survey.scopes.flatten) :
    Computation.Spares x c where
  accounts := h.computations c hc
  unused := fun hmem => hunused (List.mem_append_left _ (List.mem_append_right _
    (List.mem_flatMap.mpr ⟨c, hc, hmem⟩)))
  name := h.names c hc

/-- The values are the same, but for the name. -/
theorem Accounts.sameBut_valuesOver (hapart : scope.KeepsApart x) (hsame : scope.SameBut x other) :
    (valuesOver survey scope).KeepsApart x ∧
      (valuesOver survey scope).SameBut x (valuesOver survey other) := by
  obtain ⟨hvalues, hkept⟩ := Computation.agrees_resolveSurvey hname hreserved hapart hsame
    fun c hc => h.spares hunused hc
  rw [valuesOver, valuesOver, ← hvalues]
  exact ⟨hkept.onto hapart, hsame.onto _⟩

include hapart hsame

theorem Accounts.shows_eq {c : Option Text} (hc : c ∈ surveyConditions survey) :
    shows c scope = shows c other := by
  cases c with
  | none => rfl
  | some c =>
      exact (h.conditions c hc).evaluate_eq hname hreserved (fun hmem => hunused
        (List.mem_append_left _ (List.mem_append_left _ (List.mem_flatMap.mpr ⟨_, hc, hmem⟩))))
        hapart hsame

theorem Accounts.fill?_eq {item : Item} {t : Text} (hitem : item ∈ surveyItems survey)
    (ht : t ∈ printed item) : fill? scope t = fill? other t :=
  (h.texts item hitem t ht).fill?_eq hname hreserved hapart hsame fun hmem => hunused
    (List.mem_append_right _ (List.mem_flatMap.mpr ⟨item, hitem, List.mem_flatMap.mpr
      ⟨t, printed_subset_itemTexts ht, hmem⟩⟩))

omit hname hreserved hunused hapart in
theorem Accounts.evaluate_formula_eq {asked : Question} {choice : Choice} {formula : Text}
    (hasked : asked ∈ survey.questions) (hchoice : choice ∈ asked.options)
    (hformula : formula ∈ choice.prefill.toList ++ choice.custom.toList) :
    Formula.evaluate formula scope = Formula.evaluate formula other := by
  refine Formula.evaluate_congr fun n hn => hsame n ?_
  rintro rfl
  exact h.formulas formula (List.mem_flatMap.mpr ⟨choice, List.mem_flatMap.mpr
    ⟨asked, hasked, hchoice⟩, hformula⟩) hn

/-- Two scopes that differ at the name alone are seen alike. -/
theorem Accounts.alike : Alike survey scope other := by
  have hshows : ∀ {c}, c ∈ surveyConditions survey → shows c scope = shows c other :=
    h.shows_eq hname hreserved hunused hapart hsame
  have hblocks : View.blocks survey scope = View.blocks survey other :=
    List.filter_congr fun block hblock =>
      hshows (List.mem_flatMap.mpr ⟨block, hblock, List.mem_cons_self⟩)
  refine
    { blocks := hblocks
      pages := ?_
      sections := fun place hplace => List.filter_congr fun part hpart =>
        hshows (mem_surveyConditions_of_section hplace hpart List.mem_cons_self)
      items := fun place hplace part hpart => List.filter_congr fun item hitem => ?_
      options := fun asked hasked => List.filter_congr fun choice hchoice =>
        hshows (mem_surveyConditions_of_question hasked (List.mem_cons_of_mem _
          (List.mem_append_left _ (List.mem_map_of_mem hchoice))))
      rows := fun asked hasked => List.filter_congr fun row hrow =>
        hshows (mem_surveyConditions_of_question hasked (List.mem_cons_of_mem _
          (List.mem_append_right _ (List.mem_map_of_mem hrow))))
      titles := fun t ht =>
        (h.titles t ht).1.fill?_eq hname hreserved hapart hsame (h.titles t ht).2
      texts := fun item hitem t ht => h.fill?_eq hname hreserved hunused hapart hsame hitem ht
      prefills := fun asked hasked => Breakdown.prefills_congr fun choice hchoice formula hformula =>
        h.evaluate_formula_eq hsame hasked hchoice
          (List.mem_append_left _ (mem_of_given? (Option.mem_toList.mpr hformula))) }
  · rw [View.pages, View.pages, hblocks]
    refine List.flatMap_congr fun block hblock => congrArg _ (List.filter_congr fun page hpage => ?_)
    exact hshows (mem_surveyConditions_of_page (List.mem_of_mem_filter hblock) hpage
      List.mem_cons_self)
  · cases item with
    | text value => rfl
    | question asked =>
        exact hshows (mem_surveyConditions_of_question (mem_questions hplace hpart hitem)
          List.mem_cons_self)

end

/-- **Nothing hangs on an unused name** that a survey looks up only where uses count: over any two
maps of answers that differ at the name alone, a respondent sees the same, reads the same lines,
and finds the same subtotals, whatever values are put over the answers. -/
theorem alike_of_unused {survey : Survey} {x : Text} {answers other : Scope}
    (hunused : x ∈ (ofSurvey survey).unused) (hname : isIdentifier x = true)
    (hreserved : x ∉ Validation.reserved) (haccounts : Accounts x survey)
    (hapart : answers.KeepsApart x) (hsame : answers.SameBut x other) :
    Alike survey (valuesOver survey answers) (valuesOver survey other) ∧
      Rendering.surveyLines survey (valuesOver survey answers)
        = Rendering.surveyLines survey (valuesOver survey other) ∧
      ∀ asked ∈ survey.questions, ∀ cells values : Scope,
        Breakdown.subtotals? asked.options cells (values.onto answers)
          = Breakdown.subtotals? asked.options cells (values.onto other) := by
  have hcount := (mem_unused.mp hunused).2
  obtain ⟨hkept, hvalues⟩ :=
    haccounts.sameBut_valuesOver hname hreserved hcount hapart hsame
  have halike := haccounts.alike hname hreserved hcount hkept hvalues
  refine ⟨halike, halike.surveyLines_eq, fun asked hasked cells values => ?_⟩
  refine Breakdown.subtotalsFrom?_congr (fun choice hchoice formula hformula => ?_) 0
  exact haccounts.evaluate_formula_eq ((hsame.onto values).foldl_set _) hasked hchoice
    (List.mem_append_right _ (mem_of_given? (Option.mem_toList.mpr hformula)))

/-- A text with a conditional in it. -/
def rentTree : Tree :=
  .twoWay "dear".toList
    (.hole "name".toList <| .text " pays ".toList <| .hole "total * 12".toList .nil)
    (.text "Fine".toList .nil) .nil

/-- A survey that asks for a remark and makes no use of it. -/
def rentSurvey : Survey where
  name := []
  blocks := [{
    pages := [
      { title := "Costs".toList
        computations := [⟨"total".toList, "rent + 40".toList⟩,
          ⟨"dear".toList, "total > 900".toList⟩]
        sections := [{
          items := [
            .question { id := "Q1".toList, text := "Who?".toList, varName := some "name".toList
                        body := .choice false [] },
            .question { id := "Q2".toList, text := "Remark".toList
                        varName := some "remark".toList, body := .choice false [] },
            .question { id := "Q3".toList, text := "Rent".toList, varName := some "rent".toList
                        body := .number none none }] }] },
      { title := "For \x7bname\x7d".toList
        showIf := some "dear".toList
        sections := [{
          items := [
            .text rentTree.source,
            .question { id := "Q4".toList, text := "Shares of \x7btotal\x7d".toList
                        body := .breakdown [
                          { value := "Heating".toList, label := "Heating".toList
                            prefill := some "total / 4".toList },
                          { value := "Rest".toList, label := "Rest".toList
                            showIf := some "NOT name IS Ann".toList },
                          { value := "All".toList, label := "All".toList
                            subtotalLabel := some "All".toList
                            custom := some "total - rent".toList }] none none none none }] }] }] }]

theorem accounts_rentSurvey : Accounts "remark".toList rentSurvey := by
  have hdear : Condition.Accounts "remark".toList "dear".toList :=
    .of_test (show shape "dear".toList = .test (.name "dear".toList) by decide +kernel)
      (by decide +kernel) rfl
  have hname : Condition.Accounts "remark".toList "name == Ann".toList :=
    .of_test (show shape "name == Ann".toList
      = .test (.compare ⟨"name".toList, .equal, "Ann".toList⟩) by decide +kernel)
      (by decide +kernel) rfl
  have hshown : Condition.Accounts "remark".toList "NOT name IS Ann".toList :=
    .of_denial (by decide +kernel) (by decide +kernel) hname
  have hcomputed : Condition.Accounts "remark".toList "total > 900".toList :=
    .of_test (show shape "total > 900".toList
      = .test (.compare ⟨"total".toList, .above, "900".toList⟩) by decide +kernel)
      (by decide +kernel) rfl
  have hplaces : ∀ t ∈ titles rentSurvey ++ (surveyItems rentSurvey).flatMap printed,
      ∀ p ∈ placesFrom none t, "remark".toList ∈ holeReads p.content → p.isHidden = false := by
    decide +kernel
  have hflat : ∀ t ∈ titles rentSurvey ++ (surveyItems rentSurvey).flatMap printed,
      t ≠ rentTree.source → ¬ "\x7b\x7b".toList <:+: t := by decide +kernel
  have htexts : ∀ t ∈ titles rentSurvey ++ (surveyItems rentSurvey).flatMap printed,
      Template.Accounts "remark".toList t := fun t ht => .inl
    { blocks := by
        by_cases htree : t = rentTree.source
        · refine .inr ⟨rentTree, by decide +kernel, htree.symm, fun c hc => ?_⟩
          rw [show rentTree.conditions = ["dear".toList] from rfl, List.mem_singleton] at hc
          subst hc
          exact hdear
        · exact .inl (hflat t ht htree)
      placeholders := hplaces t ht }
  refine
    { conditions := fun c hc => ?_
      computations := fun c hc => ?_
      names := by decide +kernel
      texts := fun item hitem t ht => htexts t (List.mem_append_right _
        (List.mem_flatMap.mpr ⟨item, hitem, ht⟩))
      titles := fun t ht => ⟨htexts t (List.mem_append_left _ ht), ?_⟩
      formulas := by decide +kernel }
  · have hall : (surveyConditions rentSurvey).filterMap id
        = ["dear".toList, "NOT name IS Ann".toList] := by decide +kernel
    have hmem : c ∈ (surveyConditions rentSurvey).filterMap id :=
      List.mem_filterMap.mpr ⟨_, hc, rfl⟩
    rw [hall, List.mem_pair] at hmem
    rcases hmem with rfl | rfl
    · exact hdear
    · exact hshown
  · rw [show rentSurvey.scopes.flatten = [⟨"total".toList, "rent + 40".toList⟩,
      ⟨"dear".toList, "total > 900".toList⟩] from rfl, List.mem_pair] at hc
    rcases hc with rfl | rfl
    · exact ⟨fun _ hmem => absurd hmem (by decide +kernel),
        fun h => absurd h (by decide +kernel)⟩
    · exact ⟨fun h => absurd h (by decide +kernel), fun _ => hcomputed⟩
  · revert t
    decide +kernel

/-- Answers with a remark that names a computed value. -/
def rentAnswers : Scope :=
  [("remark".toList, .text "total".toList), ("name".toList, .text "Bo".toList),
    ("rent".toList, .int 900)]

theorem alike_rentSurvey :
    Validation.problems rentSurvey = [] ∧
      "remark".toList ∈ (ofSurvey rentSurvey).unused ∧ Accounts "remark".toList rentSurvey ∧
      Alike rentSurvey (valuesOver rentSurvey rentAnswers)
        (valuesOver rentSurvey rentAnswers.tail) := by
  have hunused : "remark".toList ∈ (ofSurvey rentSurvey).unused := by decide +kernel
  have hkeys : ∀ n ∈ rentAnswers.map Prod.fst,
      "remark".toList ∈ Formula.namesIn n → n = "remark".toList := by decide +kernel
  have hapart : rentAnswers.KeepsApart "remark".toList := fun n hn =>
    hkeys n (Scope.mem_keys_iff.mpr hn)
  have hsame : rentAnswers.SameBut "remark".toList rentAnswers.tail := by
    intro n hn
    rw [rentAnswers, Scope.get?_cons, if_neg hn, List.tail_cons]
  refine ⟨by decide +kernel, hunused, accounts_rentSurvey, ?_⟩
  exact (alike_of_unused hunused (by decide) (by decide) accounts_rentSurvey hapart hsame).1

/-- A survey with a rent that only the first amount of a breakdown reads. -/
def shareSurvey : Survey where
  name := []
  blocks := [{
    pages := [{
      sections := [{
        items := [
          .question { id := "Q1".toList, text := "Rent".toList, varName := some "rent".toList
                      body := .number none none },
          .question { id := "Q2".toList, text := "Shares".toList
                      body := .breakdown [{ value := "Half".toList, label := "Half".toList
                                            prefill := some "rent / 2".toList }]
                        none none none none }] }] }] }]

/-- Uses in a breakdown are not counted, so what is filled in may hang on an unused name. -/
theorem not_alike_of_unused : ¬ ∀ (survey : Survey) (x : Text) (answers other : Scope),
    Validation.problems survey = [] → x ∈ Validation.answerNames survey →
    x ∈ (ofSurvey survey).unused → answers.SameBut x other →
    Alike survey (valuesOver survey answers) (valuesOver survey other) := by
  intro h
  have hsame : Scope.SameBut "rent".toList [("rent".toList, .int 4)] [] := by
    intro n hn
    rw [Scope.get?_cons, if_neg hn]
  have halike := h shareSurvey "rent".toList [("rent".toList, .int 4)] [] (by decide +kernel)
    (by decide +kernel) (by decide +kernel) hsame
  exact absurd halike.prefills (by decide +kernel)

end Report
end Questionnaire
