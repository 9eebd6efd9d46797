import Questionnaire.Proofs.Condition.Comparing
import Questionnaire.Proofs.Condition.Reads

/-!
# Quantified comparisons

A quantified comparison is a disjunction: it holds if the comparison holds with some
name that has the beginning in its place (`evaluate_quantified`). The two are read
along different ways. The quantified one is built from the names of the scope, the
single one is cut out of a text, and a failure of it counts as a yes; so a failure
among the names does as well.
-/

namespace Questionnaire.Condition

open Text

/-- The quantified comparison holds if the comparison holds with some name that has the beginning
in its place. -/
def IsDisjunction (scope : Scope) (start : Text) (operator : Operator) (right : Text) : Prop :=
  evaluate (quantifies start operator right) scope = true ↔
    ∃ n, scope.has n = true ∧ hasStart start n = true ∧
      evaluate (compares n operator right) scope = true

/-- **What is read before the quantifier or not as a comparison.** A connective and a keyword
operator are read first, wherever they stand. The beginning has to be a word, so a text of signs
or none at all makes a comparison of another kind; and a comparison with nothing on its right is
no test. -/
theorem not_isDisjunction :
    ¬ IsDisjunction [] "OR".toList (.symbol .equal) "5".toList ∧
      ¬ IsDisjunction [("ISBN".toList, .text "Yes".toList)] "IS".toList (.symbol .equal)
        "Yes".toList ∧
      ¬ IsDisjunction [("ISBN".toList, .text "Yes".toList)] [] (.symbol .equal) "Yes".toList ∧
      ¬ IsDisjunction [] "a-b".toList (.symbol .equal) "1 - 1".toList ∧
      ¬ IsDisjunction [] "p".toList (.symbol .equal) [] := by
  have hnone : ∀ {start right : Text},
      evaluate (quantifies start (.symbol .equal) right) [] = true →
      ¬ IsDisjunction [] start (.symbol .equal) right := by
    intro start right hholds h
    obtain ⟨n, hn, -⟩ := h.mp hholds
    cases hn
  have hsome : ∀ {start : Text}, hasStart start "ISBN".toList = true →
      evaluate (quantifies start (.symbol .equal) "Yes".toList)
        [("ISBN".toList, .text "Yes".toList)] = false →
      ¬ IsDisjunction [("ISBN".toList, .text "Yes".toList)] start (.symbol .equal)
        "Yes".toList := by
    intro start hstart hfails h
    have hholds := h.mpr ⟨"ISBN".toList, by decide, hstart, by decide +kernel⟩
    rw [hfails] at hholds
    cases hholds
  exact ⟨hnone (by decide +kernel), hsome (by decide) (by decide +kernel),
    hsome (by decide) (by decide +kernel), hnone (by decide +kernel), hnone (by decide +kernel)⟩

section

variable {scope : Scope} {start right : Text}

/-- The disjunction goes over the names, since a failure of a comparison counts as a yes in both. -/
theorem isDisjunction_of_terms
    (hnames : ∀ n, scope.has n = true → isBareWord n = true ∧ n ∉ conditionWords)
    (hstart : isBareWord start = true) (hterm : IsTerm start) (hright : IsTerm right)
    (operator : Operator) : IsDisjunction scope start operator right := by
  rw [IsDisjunction, evaluate_quantifies hstart hterm hright, holds_anyStarting]
  refine exists_congr fun n => and_congr_right fun hn => and_congr_right fun _ => ?_
  rw [evaluate_compares (hnames n hn).1 (hnames n hn).2 hright, Test.holds, Test.answer?]
  cases Comparison.answer? ⟨n, operator.relation, trim right⟩ scope with
  | ok answer => simp
  | error fault => simp

/-- **A quantified comparison** is the disjunction over the names that have the beginning. So no
name with it means no, and the order of the entries does not count. -/
theorem evaluate_quantified
    (hnames : ∀ n, scope.has n = true → isBareWord n = true ∧ n ∉ conditionWords)
    (hkeys : (scope.map Prod.fst).Nodup) (hstart : isBareWord start = true)
    (hterm : IsTerm start) (hright : IsTerm right) (operator : Operator) :
    IsDisjunction scope start operator right ∧
    ((∀ n, scope.has n = true → hasStart start n = false) →
      evaluate (quantifies start operator right) scope = false) ∧
    ∀ other, scope.Perm other → evaluate (quantifies start operator right) other
      = evaluate (quantifies start operator right) scope := by
  have hiff := isDisjunction_of_terms hnames hstart hterm hright operator
  refine ⟨hiff, fun hnone => ?_, fun other hperm => ?_⟩
  · rw [Bool.eq_false_iff]
    intro hholds
    obtain ⟨n, hn, hbegins, -⟩ := hiff.mp hholds
    simp [hnone n hn] at hbegins
  · have hsame := fun n => Scope.get?_perm hperm hkeys n
    rw [evaluate_quantifies hstart hterm hright, evaluate_quantifies hstart hterm hright]
    exact (Test.holds_congr (fun n _ => hsame n) fun _ _ n _ _ m _ => hsame m).symm

/-- The answers to two questions on crime. -/
def crimeScope : Scope :=
  [("crime_fraud".toList, .text "Yes".toList), ("crime_theft".toList, .text "No".toList)]

theorem evaluate_quantified_crime :
    (∀ n, crimeScope.has n = true → isBareWord n = true ∧ n ∉ conditionWords) ∧
      (crimeScope.map Prod.fst).Nodup ∧ isBareWord "crime".toList = true ∧
      IsTerm "crime".toList ∧ IsTerm "Yes".toList ∧
      evaluate (quantifies "crime".toList (.keyword ("IS".toList, .equal) (by decide))
        "Yes".toList) crimeScope = true := by
  have hnames : ∀ n, crimeScope.has n = true → isBareWord n = true ∧ n ∉ conditionWords := by
    intro n hn
    have hall : ∀ n ∈ crimeScope.map Prod.fst, isBareWord n = true ∧ n ∉ conditionWords := by
      decide
    exact hall n (Scope.mem_keys_iff.mpr hn)
  have hcrime : IsTerm "crime".toList := by decide
  have hyes : IsTerm "Yes".toList := by decide
  have hdisjunction := (evaluate_quantified hnames (by decide) (by decide) hcrime hyes
    (.keyword ("IS".toList, .equal) (by decide))).1
  exact ⟨hnames, by decide, by decide, hcrime, hyes,
    hdisjunction.mpr ⟨"crime_fraud".toList, by decide, by decide, by decide +kernel⟩⟩

end

end Questionnaire.Condition
