import Questionnaire.Proofs.Condition.Shape
import Questionnaire.Proofs.Text.Visible

/-!
# Connectives

Whether a condition holds depends on its outermost pattern alone: a denial holds
if what it denies does not, conditions joined by OR if one of them holds, those
joined by AND if all of them do. So the blanks around a condition do not count.
-/

namespace Questionnaire.Condition

open Text

variable {scope : Scope}

/-! ## Conditions in a row -/

theorem holds_chain_either {conditions : List Condition} (h : conditions ≠ []) :
    holds scope (chain .either conditions) = conditions.any (holds scope) := by
  induction conditions with
  | nil => exact absurd rfl h
  | cons first rest ih =>
      cases rest with
      | nil => simp [chain]
      | cons second rest => rw [chain, holds, ih (by simp), List.any_cons (a := first)]

theorem holds_chain_both (conditions : List Condition) :
    holds scope (chain .both conditions) = conditions.all (holds scope) := by
  induction conditions with
  | nil => rfl
  | cons first rest ih =>
      cases rest with
      | nil => simp [chain]
      | cons second rest => rw [chain, holds, ih, List.all_cons (a := first)]

/-! ## The outermost pattern -/

private theorem pieces?_ne_nil {width : Text → Nat} {t : Text} {parts : List Text}
    (h : pieces? width t = some parts) : parts ≠ [] := by
  rw [pieces?] at h
  split at h
  · cases h
    simp
  · cases h

/-- What is joined is not nothing. -/
theorem ne_nil_of_shape_anyOf {t : Text} {parts : List Text} (h : shape t = .anyOf parts) :
    parts ≠ [] := by
  rw [shape] at h
  split at h
  · cases h
  · rw [shapeOf] at h
    split at h
    · cases h
    · split at h
      · rename_i found hfound
        split at h
        · cases h
        · cases h
          exact pieces?_ne_nil hfound
      · split at h
        · split at h <;> cases h
        · cases h

theorem evaluate_of_shape_denial {t rest : Text} (h : shape t = .denial rest) :
    evaluate t scope = !evaluate rest scope := by
  rw [evaluate, ofText_of_denial h, holds, evaluate]

theorem evaluate_of_shape_anyOf {t : Text} {parts : List Text} (h : shape t = .anyOf parts) :
    evaluate t scope = parts.any (evaluate · scope) := by
  have hne : parts.map ofText ≠ [] := by simpa using ne_nil_of_shape_anyOf h
  rw [evaluate, ofText_of_anyOf h, holds_chain_either hne, List.any_map]
  rfl

theorem evaluate_of_shape_allOf {t : Text} {parts : List Text} (h : shape t = .allOf parts) :
    evaluate t scope = parts.all (evaluate · scope) := by
  rw [evaluate, ofText_of_allOf h, holds_chain_both, List.all_map]
  rfl

/-- Conditions of one outermost pattern hold alike. -/
theorem evaluate_congr_shape {t u : Text} (h : shape t = shape u) :
    evaluate t scope = evaluate u scope := by
  cases hu : shape u with
  | always => rw [evaluate, evaluate, ofText_of_always hu, ofText_of_always (h.trans hu)]
  | denial rest =>
      rw [evaluate_of_shape_denial hu, evaluate_of_shape_denial (h.trans hu)]
  | anyOf parts => rw [evaluate_of_shape_anyOf hu, evaluate_of_shape_anyOf (h.trans hu)]
  | allOf parts => rw [evaluate_of_shape_allOf hu, evaluate_of_shape_allOf (h.trans hu)]
  | test single => rw [evaluate_of_shape_test hu, evaluate_of_shape_test (h.trans hu)]

theorem shape_trim (t : Text) : shape (trim t) = shape t := by
  rw [shape, shape, isBlankText_trim, trim_trim]

theorem shape_trimRight (t : Text) : shape (trimRight t) = shape t := by
  rw [← shape_trim (trimRight t), trim_trimRight, shape_trim]

/-- The blanks around a condition do not count. -/
theorem evaluate_trim (t : Text) (scope : Scope) : evaluate (trim t) scope = evaluate t scope :=
  evaluate_congr_shape (shape_trim t)

theorem evaluate_trimRight (t : Text) (scope : Scope) :
    evaluate (trimRight t) scope = evaluate t scope :=
  evaluate_congr_shape (shape_trimRight t)

end Questionnaire.Condition
