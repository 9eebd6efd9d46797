import Questionnaire.Proofs.Formula.Distinct
import Questionnaire.Validation

/-!
# Names declared more than once

The answer variables of a survey share one space of names, and each scope of
computations has one that no answer variable may enter (`HasOwnNames`). A name that
breaks this is shared (`IsShared`): it is found where the answer variables are
counted, or within one scope, or between the two. What the check reports is the
list of all shared names, each once (`duplicates_exact`).
-/

namespace Questionnaire.Validation

open Formula

/-! ## Counting -/

/-- What is repeated in a list is what it has more than once. -/
theorem mem_repeated {names : List Text} {n : Text} : n ∈ repeated names ↔ 1 < names.count n := by
  rw [repeated, mem_distinct, List.mem_filter, decide_eq_true_eq]
  exact ⟨And.right, fun h => ⟨List.count_pos_iff.mp (Nat.zero_lt_of_lt h), h⟩⟩

theorem nodup_iff_forall_count {names : List Text} :
    names.Nodup ↔ ∀ n, ¬ 1 < names.count n := by
  simp only [List.nodup_iff_count_le_one, Nat.not_lt]

/-! ## Names that are shared -/

/-- The name is declared by two answer variables, by two computations of one scope, or
by an answer variable and a computation. -/
def IsShared (survey : Survey) (n : Text) : Prop :=
  1 < (answerNames survey).count n ∨ ∃ declared ∈ survey.scopes,
    1 < (declared.map Computation.name).count n ∨
      (n ∈ declared.map Computation.name ∧ n ∈ answerNames survey)

/-- Every answer variable has a name of its own, and so has, in its scope, every
computation. -/
structure HasOwnNames (survey : Survey) : Prop where
  /-- No two answer variables of the survey have the same name. -/
  answers : (answerNames survey).Nodup
  /-- Nor have two computations of one scope. -/
  scopes : ∀ declared ∈ survey.scopes, (declared.map Computation.name).Nodup
  /-- No computation has the name of an answer variable. -/
  apart : ∀ declared ∈ survey.scopes, ∀ n ∈ declared.map Computation.name, n ∉ answerNames survey

theorem hasOwnNames_iff {survey : Survey} : HasOwnNames survey ↔ ∀ n, ¬ IsShared survey n := by
  constructor
  · rintro ⟨hanswers, hscopes, hapart⟩ n (htwice | ⟨declared, hdeclared, htwice | ⟨hn, hanswer⟩⟩)
    · exact nodup_iff_forall_count.mp hanswers n htwice
    · exact nodup_iff_forall_count.mp (hscopes declared hdeclared) n htwice
    · exact hapart declared hdeclared n hn hanswer
  · intro h
    exact ⟨nodup_iff_forall_count.mpr fun n htwice => h n (.inl htwice),
      fun declared hdeclared => nodup_iff_forall_count.mpr fun n htwice =>
        h n (.inr ⟨declared, hdeclared, .inl htwice⟩),
      fun declared hdeclared n hn hanswer => h n (.inr ⟨declared, hdeclared, .inr ⟨hn, hanswer⟩⟩)⟩

/-! ## What is reported -/

theorem mem_clashes {answers : List Text} {declared : List Computation} {n : Text} :
    n ∈ clashes answers declared ↔ 1 < (declared.map Computation.name).count n ∨
      (n ∈ declared.map Computation.name ∧ n ∈ answers) := by
  rw [clashes, List.mem_append, mem_repeated, List.mem_filter, List.contains_iff_mem]

theorem mem_duplicateNames {survey : Survey} {n : Text} :
    n ∈ duplicateNames survey ↔ IsShared survey n := by
  rw [duplicateNames, mem_distinct, List.mem_append, mem_repeated, List.mem_flatMap]
  simp only [mem_clashes]
  rfl

/-- **Nothing is reported if and only if all names are their own.** -/
theorem nameProblems_eq_nil_iff {survey : Survey} :
    nameProblems survey = [] ↔ HasOwnNames survey := by
  simp only [hasOwnNames_iff, ← mem_duplicateNames, ← List.eq_nil_iff_forall_not_mem]
  rw [nameProblems]
  split <;> simp_all

/-- **Duplicate names are found exactly.** There is no problem with the names of a survey
if and only if every answer variable has a name of its own in the whole survey and every
computation one in its scope. Otherwise there is one problem, and it lists the names that
are shared, each exactly once. -/
theorem duplicates_exact (survey : Survey) :
    (nameProblems survey = [] ↔ HasOwnNames survey) ∧
      (nameProblems survey ≠ [] → ∃ names, nameProblems survey = [.duplicates names] ∧
        names.Nodup ∧ ∀ n, n ∈ names ↔ IsShared survey n) := by
  refine ⟨nameProblems_eq_nil_iff, fun hne => ⟨duplicateNames survey, ?_, nodup_distinct _,
    fun _ => mem_duplicateNames⟩⟩
  rw [nameProblems] at hne ⊢
  split
  · rename_i hempty
    exact absurd (if_pos hempty) hne
  · rfl

end Questionnaire.Validation
