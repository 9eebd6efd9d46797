import Questionnaire.Proofs.Condition.Dependence

/-!
# Names that computed values hang on

Where the expressions of a survey do not refer to a name, and look it up only where
it counts (`Spares`), no computed value hangs on it: over two scopes that differ at
that name alone each computation gives one value (`Spares.carry`), and so do all of
them in their order (`agrees_resolveSurvey`).
-/

namespace Questionnaire

open Text

/-! ## Names that are kept apart -/

namespace Scope

variable {x : Text} {scope : Scope}

theorem KeepsApart.nil : KeepsApart x [] := by
  intro n hn
  cases hn

theorem KeepsApart.set (h : scope.KeepsApart x) {key : Text}
    (hkey : x ∈ Formula.namesIn key → key = x) (value : Value) :
    (scope.set key value).KeepsApart x := by
  intro n hhas hmem
  by_cases hn : n = key
  · subst hn
    exact hkey hmem
  · rw [has, get?_set, if_neg hn] at hhas
    exact h n hhas hmem

theorem KeepsApart.onto {upper : Scope} (hupper : upper.KeepsApart x) (h : scope.KeepsApart x) :
    (upper.onto scope).KeepsApart x := by
  have hkeys : ∀ entry ∈ upper, x ∈ Formula.namesIn entry.1 → entry.1 = x := fun entry hentry =>
    hupper entry.1 (mem_keys_iff.mp (List.mem_map_of_mem hentry))
  rw [Scope.onto]
  clear hupper
  induction upper generalizing scope with
  | nil => exact h
  | cons entry rest ih =>
      rw [List.forall_mem_cons] at hkeys
      exact ih (h.set hkeys.1 entry.2) hkeys.2

end Scope

namespace Computation

open Condition Validation

variable {x : Text} {known other prior : Scope}

/-! ## Expressions -/

/-- The name is looked up in an expression only where it counts. -/
structure Accounts (x expression : Text) : Prop where
  /-- A formula with the name in it has no words of conditions and does not begin as a quantified
  comparison does. -/
  formula : isFormula expression = true → x ∈ openWords expression →
    (∀ w ∈ openWords expression, w ∉ Condition.conditionWords) ∧
      hasStart "STARTS_WITH".toList (trim expression) = false
  /-- Any other expression is a condition. -/
  condition : isFormula expression = false → Condition.Accounts x expression

/-- A sign that no formula has. -/
theorem not_mem_of_isFormula {expression : Text} {c : Char} (hc : Formula.IsForeign c)
    (h : isFormula expression = true) : c ∉ expression := by
  rw [isFormula, Formula.isComputation, Bool.and_eq_true, Bool.and_eq_true] at h
  intro hmem
  cases hformula : Formula.ofText (trim expression) with
  | error cause => rw [hformula] at h; exact absurd h.2.2 (by simp [Except.toBool])
  | ok formula => exact hc.not_mem_of_ofText hformula (mem_trim_of_mem hmem hc.solid)

/-- No connective cuts a formula without words of conditions, and nothing in it is written anew. -/
theorem splitBy_of_isFormula {expression : Text} (h : isFormula expression = true)
    (hwords : ∀ w ∈ openWords expression, w ∉ Condition.conditionWords) :
    splitBy widthConnective (normalize expression) = [expression] := by
  have hor : ¬ "||".toList <:+: expression := fun hmark => not_mem_of_isFormula (c := '|')
    ⟨by decide, by decide, by decide, by decide⟩ h (hmark.subset (by decide))
  have hand : ¬ "&&".toList <:+: expression := fun hmark => not_mem_of_isFormula (c := '&')
    ⟨by decide, by decide, by decide, by decide⟩ h (hmark.subset (by decide))
  rw [normalize_of_no_word hwords]
  refine splitBy_of_no_match fun s hs => widthConnective_eq_zero fun k => ?_
  cases k with
  | or =>
      rw [Connective.width, widthOr,
        widthSpaced_eq_zero (by decide) (fun hmem => hwords _ hmem (by decide)) s hs]
      exact widthLoose_eq_zero hor s hs
  | and =>
      rw [Connective.width, widthAnd,
        widthSpaced_eq_zero (by decide) (fun hmem => hwords _ hmem (by decide)) s hs]
      exact widthLoose_eq_zero hand s hs

/-- Nothing is denied in a text without words of conditions. -/
theorem core_of_no_word {expression : Text}
    (hwords : ∀ w ∈ openWords expression, w ∉ Condition.conditionWords) :
    core expression = trim expression := by
  refine core_of_not_after (Option.eq_none_iff_forall_ne_some.mpr fun rest hrest => ?_)
  refine hwords "NOT".toList ?_ (by decide)
  rw [← openWords_trim, after?_eq_some.mp hrest,
    show "NOT ".toList ++ rest = "NOT".toList ++ ' ' :: rest from rfl,
    openWords_append_break _ rest (by decide)]
  exact List.mem_append_left _ (by decide)

/-- A formula has no sign of a comparison. -/
theorem ofText?_of_isFormula {expression : Text} (h : isFormula expression = true) :
    Comparison.ofText? (trim expression) = none := by
  cases hfound : Comparison.ofText? (trim expression) with
  | none => rfl
  | some comparison =>
      obtain ⟨p, q, hsplit, -⟩ := Comparison.find?_spec hfound
      obtain ⟨c, hc⟩ := exists_mem_symbol comparison.relation
      rw [List.reverse_nil, List.nil_append, trim_trim] at hsplit
      refine absurd (mem_of_mem_trim ?_) (not_mem_of_isFormula (isForeign_of_mem_symbol hc) h)
      rw [hsplit]
      exact List.mem_append_left _ (List.mem_append_right _ hc)

/-- **The words of a formula count**, if none of them is a word of conditions. -/
theorem mem_references_of_isFormula {expression : Text} (h : isFormula expression = true)
    (hname : isIdentifier x = true) (hreserved : x ∉ Validation.reserved)
    (hmem : x ∈ openWords expression)
    (hwords : ∀ w ∈ openWords expression, w ∉ Condition.conditionWords)
    (hstart : hasStart "STARTS_WITH".toList (trim expression) = false) :
    x ∈ references expression := by
  rw [← openWords_trim] at hmem
  have hne : trim expression ≠ [] := by
    intro hnil
    rw [hnil] at hmem
    cases hmem
  refine mem_references.mpr ⟨List.mem_flatMap.mpr ⟨expression, ?_, ?_⟩, hreserved⟩
  · rw [splitBy_of_isFormula h hwords]
    exact List.mem_singleton_self _
  · rw [core_of_no_word hwords, candidates_of_not_start hne hstart, ofText?_of_isFormula h]
    exact mem_identifiers_of_isIdentifier hname hmem

/-- The value of an expression does not hang on a name that it does not refer to. -/
theorem Accounts.compute_eq {expression : Text} {scope : Scope} (h : Accounts x expression)
    (hname : isIdentifier x = true) (hreserved : x ∉ Validation.reserved)
    (hunused : x ∉ references expression) (hapart : scope.KeepsApart x)
    (hsame : scope.SameBut x other) :
    compute expression scope = compute expression other := by
  rw [compute, compute]
  by_cases hformula : isFormula expression = true
  · rw [if_pos hformula, if_pos hformula, Formula.evaluate_congr fun n hn => hsame n ?_]
    rintro rfl
    have hmem := Formula.namesIn_subset_openWords _ hn
    obtain ⟨hwords, hstart⟩ := h.formula hformula hmem
    exact hunused (mem_references_of_isFormula hformula hname hreserved hmem hwords hstart)
  · rw [if_neg hformula, if_neg hformula, (h.condition (by simpa using hformula)).evaluate_eq
      hname hreserved hunused hapart hsame]

/-! ## Computations in their order -/

/-- What is carried out is declared. -/
theorem mem_of_mem_ordered {declared : List Computation} {c : Computation}
    (h : c ∈ ordered declared) : c ∈ declared := by
  rw [ordered] at h
  split at h
  · obtain ⟨n, -, hlast⟩ := List.mem_filterMap.mp h
    rw [last?] at hlast
    exact List.mem_reverse.mp (List.mem_of_find?_eq_some hlast)
  · exact h

/-- The computation does not refer to the name, looks it up only where it counts, and its own name
is kept apart. -/
structure Spares (x : Text) (computation : Computation) : Prop where
  /-- It is looked up only where it counts. -/
  accounts : Accounts x computation.expression
  /-- And it does not count. -/
  unused : x ∉ references computation.expression
  /-- No other name is a formula with the name in it. -/
  name : x ∈ Formula.namesIn computation.name → computation.name = x

/-- The computed values are those over the other scope, and keep the name apart. -/
def Agrees (x : Text) (values others : Scope) : Prop := values = others ∧ values.KeepsApart x

section

variable (hname : isIdentifier x = true) (hreserved : x ∉ Validation.reserved)
  (hapart : known.KeepsApart x) (hsame : known.SameBut x other)
include hname hreserved hapart hsame

/-- **One computation** keeps two scopes alike. -/
theorem Spares.carry {computation : Computation} (h : Spares x computation)
    (hprior : prior.KeepsApart x) :
    Agrees x (carry known prior computation) (carry other prior computation) := by
  refine ⟨?_, hprior.set h.name _⟩
  rw [Computation.carry, Computation.carry, h.accounts.compute_eq hname hreserved h.unused
    (hprior.onto hapart) (hsame.onto prior)]

/-- So do several of them. -/
theorem agrees_foldl_carry {computations : List Computation}
    (h : ∀ c ∈ computations, Spares x c) (hprior : prior.KeepsApart x) :
    Agrees x (computations.foldl (carry known) prior) (computations.foldl (carry other) prior) := by
  induction computations generalizing prior with
  | nil => exact ⟨rfl, hprior⟩
  | cons c rest ih =>
      rw [List.forall_mem_cons] at h
      obtain ⟨hcarry, hkept⟩ := h.1.carry hname hreserved hapart hsame hprior
      rw [List.foldl_cons, List.foldl_cons, ← hcarry]
      exact ih h.2 hkept

theorem agrees_resolve {declared : List Computation} (h : ∀ c ∈ declared, Spares x c)
    (hprior : prior.KeepsApart x) :
    Agrees x (resolve declared known prior) (resolve declared other prior) :=
  agrees_foldl_carry hname hreserved hapart hsame
    (fun c hc => h c (mem_of_mem_ordered hc)) hprior

/-- And the scopes of a survey, one behind the other. -/
theorem agrees_resolveScopes {scopes : List (List Computation)}
    (h : ∀ c ∈ scopes.flatten, Spares x c) (hprior : prior.KeepsApart x) :
    Agrees x (resolveScopes scopes known prior) (resolveScopes scopes other prior) := by
  induction scopes generalizing prior with
  | nil => exact ⟨rfl, hprior⟩
  | cons declared rest ih =>
      rw [List.flatten_cons, List.forall_mem_append] at h
      obtain ⟨hresolve, hkept⟩ := agrees_resolve hname hreserved hapart hsame h.1 hprior
      rw [resolveScopes, resolveScopes, List.foldl_cons, List.foldl_cons, ← hresolve]
      exact ih h.2 hkept

/-- **No computed value of a survey** hangs on a name that its computations do not refer to. -/
theorem agrees_resolveSurvey {survey : Survey} (h : ∀ c ∈ survey.scopes.flatten, Spares x c) :
    Agrees x (resolveSurvey survey known) (resolveSurvey survey other) :=
  agrees_resolveScopes hname hreserved hapart hsame h .nil

end

end Computation
end Questionnaire
