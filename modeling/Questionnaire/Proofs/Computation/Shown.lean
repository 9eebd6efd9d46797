import Mathlib.Data.List.Nodup
import Questionnaire.Proofs.Computation.Dependence
import Questionnaire.Proofs.Computation.Permutation
import Questionnaire.Proofs.Validation.Duplicates
import Questionnaire.Rendering
import Questionnaire.Source.Compile

/-!
# The values that a page is shown with

All computed values of a survey stand in one map, which is filled in the order of the
document. A scope computes every name that it declares (`exists_get?_resolve`) and
leaves the others as they are (`get?_resolve_of_not_mem`), so a name has the value that
the last scope with it gave it (`get?_resolveSurvey_last`). A page is shown with its own
values as far as nothing behind it declares them anew (`get?_shown`).
-/

namespace Questionnaire.Computation

open Text Formula

variable {declared : List Computation} {known prior : Scope} {n : Text}

/-! ## One scope -/

/-- Every computation of a scope with distinct names is carried out. -/
theorem mem_ordered_of_mem (hnames : (declared.map Computation.name).Nodup) {c : Computation}
    (hc : c ∈ declared) : c ∈ ordered declared := by
  rw [ordered]
  split
  · rename_i horderable
    have hdone := (schedule_order hnames horderable).2 (name_mem_scopeNames hc)
    exact List.mem_filterMap.mpr ⟨c.name, hdone, (last?_eq_some_iff hnames).mpr ⟨hc, rfl⟩⟩
  · exact hc

theorem get?_carry (values : Scope) (c : Computation) (n : Text) :
    (carry known values c).get? n
      = if n = c.name then some (compute c.expression (values.onto known)) else values.get? n :=
  Scope.get?_set _ _ _ _

/-- Other names keep their values while computations are carried out. -/
theorem get?_foldl_carry_of_not_mem {computations : List Computation}
    (hn : ∀ c ∈ computations, n ≠ c.name) (values : Scope) :
    (computations.foldl (carry known) values).get? n = values.get? n := by
  induction computations generalizing values with
  | nil => rfl
  | cons c rest ih =>
      rw [List.forall_mem_cons] at hn
      rw [List.foldl_cons, ih hn.2, get?_carry, if_neg hn.1]

/-- **A scope leaves other names alone.** -/
theorem get?_resolve_of_not_mem (hn : n ∉ declared.map Computation.name) :
    (resolve declared known prior).get? n = prior.get? n := by
  refine get?_foldl_carry_of_not_mem (fun c hc => ?_) prior
  rintro rfl
  exact hn (List.mem_map_of_mem (mem_of_mem_ordered hc))

/-- **A scope computes what it declares.** -/
theorem exists_get?_resolve (hnames : (declared.map Computation.name).Nodup)
    (hn : n ∈ declared.map Computation.name) (known prior : Scope) :
    ∃ value, (resolve declared known prior).get? n = some value := by
  -- What is computed is computed anew at most.
  have hgen : ∀ (computations : List Computation) (values : Scope),
      ((∃ value, values.get? n = some value) ∨ ∃ c ∈ computations, c.name = n) →
        ∃ value, (computations.foldl (carry known) values).get? n = some value := by
    intro computations
    induction computations with
    | nil =>
        rintro values (h | ⟨c, hc, -⟩)
        · exact h
        · cases hc
    | cons c rest ih =>
        intro values h
        refine ih _ ?_
        by_cases hname : n = c.name
        · exact .inl ⟨_, by rw [get?_carry, if_pos hname]⟩
        · rcases h with ⟨value, hvalue⟩ | ⟨d, hd, rfl⟩
          · exact .inl ⟨value, by rw [get?_carry, if_neg hname, hvalue]⟩
          · refine .inr ⟨d, (List.mem_cons.mp hd).resolve_left ?_, rfl⟩
            rintro rfl
            exact hname rfl
  obtain ⟨c, hc, rfl⟩ := List.mem_map.mp hn
  exact hgen _ _ (.inr ⟨c, mem_ordered_of_mem hnames hc, rfl⟩)

/-! ## All scopes -/

theorem resolveScopes_append (before behind : List (List Computation)) :
    resolveScopes (before ++ behind) known prior
      = resolveScopes behind known (resolveScopes before known prior) :=
  List.foldl_append

theorem get?_resolveScopes_of_not_mem {scopes : List (List Computation)}
    (hn : ∀ declared ∈ scopes, n ∉ declared.map Computation.name) :
    (resolveScopes scopes known prior).get? n = prior.get? n := by
  induction scopes generalizing prior with
  | nil => rfl
  | cons declared rest ih =>
      rw [List.forall_mem_cons] at hn
      exact (ih hn.2).trans (get?_resolve_of_not_mem hn.1)

/-- No name stands twice among computed values. -/
theorem nodup_resolveScopes (scopes : List (List Computation)) (known : Scope)
    (hprior : (prior.map Prod.fst).Nodup) :
    ((resolveScopes scopes known prior).map Prod.fst).Nodup := by
  have hresolve : ∀ (computations : List Computation) {values : Scope},
      (values.map Prod.fst).Nodup →
        ((computations.foldl (carry known) values).map Prod.fst).Nodup := by
    intro computations
    induction computations with
    | nil => exact fun h => h
    | cons c rest ih => exact fun h => ih (Scope.nodup_keys_set h _ _)
  induction scopes generalizing prior with
  | nil => exact hprior
  | cons declared rest ih => exact ih (hresolve _ hprior)

/-! ## Surveys without problems -/

/-- **A survey without problems** has distinct names in each of its scopes. -/
theorem nodup_of_problems {survey : Survey} (hvalid : Validation.problems survey = [])
    (hdeclared : declared ∈ survey.scopes) : (declared.map Computation.name).Nodup :=
  (Validation.nameProblems_eq_nil_iff.mp (List.append_eq_nil_iff.mp hvalid).1).scopes _ hdeclared

/-- **The last scope that declares a name gives it its value.** -/
theorem get?_resolveSurvey_last {survey : Survey} (hvalid : Validation.problems survey = [])
    {before behind : List (List Computation)}
    (hscopes : survey.scopes = before ++ declared :: behind)
    (hn : n ∈ declared.map Computation.name)
    (hlast : ∀ later ∈ behind, n ∉ later.map Computation.name) (known : Scope) :
    ∃ value, (resolve declared known (resolveScopes before known [])).get? n = some value ∧
      (resolveSurvey survey known).get? n = some value := by
  have hnames := nodup_of_problems hvalid
    (hscopes ▸ List.mem_append_right before List.mem_cons_self)
  obtain ⟨value, hvalue⟩ := exists_get?_resolve hnames hn known
    (resolveScopes before known [])
  refine ⟨value, hvalue, ?_⟩
  rw [resolveSurvey, hscopes, resolveScopes_append, ← hvalue]
  exact get?_resolveScopes_of_not_mem hlast

/-! ## Pages -/

/-- A page, with what stands before it and behind it in a survey. -/
structure Placement where
  /-- The blocks before that of the page. -/
  before : List Block
  /-- The block of the page. -/
  block : Block
  /-- The pages of the block before it. -/
  earlier : List Page
  /-- The page. -/
  page : Page
  /-- The pages of the block behind it. -/
  later : List Page
  /-- The blocks behind that of the page. -/
  behind : List Block

namespace Placement

/-- The page stands there in the survey. -/
structure IsIn (place : Placement) (survey : Survey) : Prop where
  blocks : survey.blocks = place.before ++ place.block :: place.behind
  pages : place.block.pages = place.earlier ++ place.page :: place.later

/-- The survey as far as the page, which is left out. -/
def surveyBefore (place : Placement) : Survey :=
  { name := [], blocks := place.before ++ [{ place.block with pages := place.earlier }] }

/-- The values when the computations of the page have just been carried out. -/
def values (place : Placement) (known : Scope) : Scope :=
  resolve place.page.computations known (resolveSurvey place.surveyBefore known)

/-- The scopes behind the page. -/
def scopesBehind (place : Placement) : List (List Computation) :=
  place.later.map Page.computations ++ Survey.scopes { name := [], blocks := place.behind }

theorem IsIn.scopes {place : Placement} {survey : Survey} (h : place.IsIn survey) :
    survey.scopes
      = place.surveyBefore.scopes ++ place.page.computations :: place.scopesBehind := by
  simp [Survey.scopes, surveyBefore, scopesBehind, h.blocks, h.pages]

end Placement

/-- **A page is shown with its own values**: a name that it declares, and that no page or
block behind it declares anew, has the value that was computed with the page, also over
the known values that views and texts are given. -/
theorem get?_shown {survey : Survey} (hvalid : Validation.problems survey = [])
    {place : Placement} (hplace : place.IsIn survey)
    (hn : n ∈ place.page.computations.map Computation.name)
    (hlast : ∀ later ∈ place.scopesBehind, n ∉ later.map Computation.name) (known : Scope) :
    ∃ value, (place.values known).get? n = some value ∧
      (resolveSurvey survey known).get? n = some value ∧
      ((resolveSurvey survey known).onto known).get? n = some value ∧
      ∀ answers, Answers.scope survey answers = known →
        (Rendering.valuesFor survey answers).get? n = some value := by
  obtain ⟨value, hown, hfinal⟩ := get?_resolveSurvey_last hvalid hplace.scopes hn hlast known
  have hnodup : ((resolveSurvey survey known).map Prod.fst).Nodup :=
    nodup_resolveScopes survey.scopes known List.nodup_nil
  have hshown : ((resolveSurvey survey known).onto known).get? n = some value := by
    rw [Scope.get?_onto hnodup, hfinal, Option.some_or]
  exact ⟨value, hown, hfinal, hshown, fun answers hanswers => by
    rw [Rendering.valuesFor, hanswers, hshown]⟩

/-- Two pages that compute one name, with a question on the first that hangs on it. -/
def overriddenSource : Text := join ['\n'] (List.map String.toList [
  "# First", "COMPUTE: x = true", "COMPUTE: y = true", "Q: a", "SHOW_IF: x",
  "# Second", "COMPUTE: x = false", "Q: b"])

/-- The survey of `overriddenSource`. -/
def overriddenSurvey : Survey :=
  (Source.compile overriddenSource [] true).result.toOption.getD { name := [] }

/-- Its first page. -/
def overriddenPlace : Placement :=
  let block := overriddenSurvey.blocks.headD {}
  { before := [], block, earlier := [], page := block.pages.headD {}, later := block.pages.tail,
    behind := [] }

theorem isIn_overriddenPlace : overriddenPlace.IsIn overriddenSurvey :=
  ⟨by decide +kernel, by decide +kernel⟩

theorem get?_shown_alone :
    Validation.problems overriddenSurvey = [] ∧ overriddenPlace.IsIn overriddenSurvey ∧
      (resolveSurvey overriddenSurvey []).get? "y".toList
        = (overriddenPlace.values []).get? "y".toList := by
  have hvalid : Validation.problems overriddenSurvey = [] := by decide +kernel
  obtain ⟨value, hown, hfinal, -⟩ := get?_shown (n := "y".toList) hvalid isIn_overriddenPlace
    (by decide +kernel) (by decide +kernel) []
  exact ⟨hvalid, isIn_overriddenPlace, hfinal.trans hown.symm⟩

/-- **A later page overrides a value**: the question of the first page hangs on a value that
is true there, and is not shown. -/
theorem get?_overridden :
    (Source.compile overriddenSource [] true).result.toOption = some overriddenSurvey ∧
      Validation.problems overriddenSurvey = [] ∧ overriddenPlace.IsIn overriddenSurvey ∧
      "x".toList ∈ overriddenPlace.page.computations.map Computation.name ∧
      (resolveSurvey overriddenSurvey []).get? "x".toList
        ≠ (overriddenPlace.values []).get? "x".toList ∧
      Rendering.render? overriddenSurvey []
        = some "=== First ===\n\n=== Second ===\n[Q2] b\n".toList := by
  refine ⟨by decide +kernel, by decide +kernel, isIn_overriddenPlace, by decide +kernel,
    fun h => ?_, by decide +kernel⟩
  have hown : ((overriddenPlace.values []).get? "x".toList).elim false Condition.isTruthy
      = true := by decide +kernel
  have hfinal : ((resolveSurvey overriddenSurvey []).get? "x".toList).elim false
      Condition.isTruthy = false := by decide +kernel
  rw [← h, hfinal] at hown
  cases hown

end Questionnaire.Computation
