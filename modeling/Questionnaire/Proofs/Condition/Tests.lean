import Questionnaire.Proofs.Condition.Reads

/-!
# What the tests of a condition look up

`Condition.reads` names everything that a condition may look at. What its tests
do look up is less (`Test.looks`): two sides of which one is a computation are
read as formulas, and of two other sides the left one is looked up as it is, the
right one if it is a bare word. A condition has one answer over two scopes that
agree there (`holds_congr_looks`).
-/

namespace Questionnaire

open Text

namespace Condition

/-- A side that is a bare word. -/
def wordOf (side : Text) : List Text := if isBareWord side then [side] else []

/-- One of the sides is a computation. -/
def Comparison.isComputed (comparison : Comparison) : Bool :=
  Formula.isComputation comparison.left || Formula.isComputation comparison.right

/-- The names that a comparison looks up. -/
def Comparison.looks (comparison : Comparison) : List Text :=
  if comparison.isComputed then
    Formula.namesIn comparison.left ++ Formula.namesIn comparison.right
  else comparison.left :: wordOf comparison.right

/-- The names that a test looks up, whatever names there are. -/
def Test.looks : Test → List Text
  | .name n => [n]
  | .compare comparison => comparison.looks
  | _ => []

/-- The names that a quantified test looks up on its right. -/
def Test.bounds : Test → List Text
  | .anyStarting _ _ right => sideReads right
  | _ => []

theorem Test.bounds_eq_nil {single : Test} (h : single.starts = []) : single.bounds = [] := by
  cases single with
  | anyStarting start relation right => cases h
  | _ => rfl

/-- The bare word that stands as the whole right side of a test. -/
def Test.rightWords : Test → List Text
  | .anyStarting _ _ right => wordOf right
  | .compare comparison => wordOf comparison.right
  | _ => []

/-- The names of a side that is read as a formula only because of the other side. -/
def oppositeNames (side : Text) : List Text :=
  if Formula.isComputation side || isBareWord side then [] else Formula.namesIn side

/-- The names that a test looks up opposite a computation. -/
def Test.opposites : Test → List Text
  | .compare comparison =>
    if comparison.isComputed then oppositeNames comparison.left ++ oppositeNames comparison.right
    else []
  | _ => []

/-- The bare words that stand as a whole right side in a condition. -/
def rightWords (condition : Condition) : List Text := condition.tests.flatMap Test.rightWords

/-- The names that a condition looks up opposite a computation only. -/
def opposites (condition : Condition) : List Text := condition.tests.flatMap Test.opposites

variable {scope other : Scope}

theorem Comparison.answer?_congr_looks {comparison : Comparison}
    (h : ∀ n ∈ comparison.looks, scope.get? n = other.get? n) :
    comparison.answer? scope = comparison.answer? other := by
  rw [looks, isComputed] at h
  rw [answer?, answer?]
  split
  · rename_i hcomputed
    rw [if_pos hcomputed] at h
    rw [Formula.evaluate_congr fun n hn => h n (List.mem_append_left _ hn),
      Formula.evaluate_congr fun n hn => h n (List.mem_append_right _ hn)]
  · rename_i hcomputed
    rw [if_neg hcomputed] at h
    have hleft := h _ List.mem_cons_self
    by_cases hword : isBareWord comparison.right = true
    · have hright := h comparison.right (by simp [wordOf, hword])
      rw [Scope.has, Scope.has, hleft, hright]
    · rw [Bool.not_eq_true] at hword
      simp only [hword, hleft, Bool.false_and, Bool.false_eq_true, if_false]

theorem Test.holds_congr_looks {single : Test}
    (hlooks : ∀ n ∈ single.looks, scope.get? n = other.get? n)
    (hbounds : ∀ n ∈ single.bounds, scope.get? n = other.get? n)
    (hstarts : ∀ start ∈ single.starts, AgreeFrom scope other start) :
    single.holds scope = single.holds other := by
  cases single with
  | literal truth => rfl
  | name n => simp only [holds, answer?, hlooks n (by simp [looks])]
  | compare comparison =>
      rw [holds, holds, answer?, answer?, Comparison.answer?_congr_looks hlooks]
  | unrecognized text => rfl
  | dangling text => rfl
  | anyStarting start relation right => exact Test.holds_congr hbounds hstarts

/-- **A condition holds alike** over two scopes that agree on what its tests look up and on the
names that they quantify over. -/
theorem holds_congr_looks {condition : Condition}
    (hlooks : ∀ single ∈ condition.tests, ∀ n ∈ single.looks, scope.get? n = other.get? n)
    (hbounds : ∀ single ∈ condition.tests, ∀ n ∈ single.bounds, scope.get? n = other.get? n)
    (hstarts : ∀ single ∈ condition.tests, ∀ start ∈ single.starts,
      AgreeFrom scope other start) :
    condition.holds scope = condition.holds other := by
  induction condition with
  | always => rfl
  | test source single =>
      have hmem : single ∈ (Condition.test source single).tests := List.mem_singleton_self _
      exact Test.holds_congr_looks (hlooks single hmem) (hbounds single hmem) (hstarts single hmem)
  | denial operand ih => rw [holds, holds, ih hlooks hbounds hstarts]
  | either first rest ihfirst ihrest =>
      simp only [tests, List.forall_mem_append] at hlooks hbounds hstarts
      rw [holds, holds, ihfirst hlooks.1 hbounds.1 hstarts.1,
        ihrest hlooks.2 hbounds.2 hstarts.2]
  | both first rest ihfirst ihrest =>
      simp only [tests, List.forall_mem_append] at hlooks hbounds hstarts
      rw [holds, holds, ihfirst hlooks.1 hbounds.1 hstarts.1,
        ihrest hlooks.2 hbounds.2 hstarts.2]

end Condition
end Questionnaire
