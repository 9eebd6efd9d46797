import Questionnaire.Proofs.Condition.Counted

/-!
# Names that a condition hangs on

A name that a condition does not refer to may still be looked up, at the places
that are passed over when references are counted (`Test.passedOver`): on the
right of a test, opposite a computation, and in a part that begins as a
quantified comparison does, which may also range over it. Where none of these
reads it, the condition holds alike over two scopes that differ at that name
alone (`Accounts.evaluate_eq`).
-/

namespace Questionnaire

open Text Validation

/-- No other name of the scope can be read as a formula with the name in it. -/
def Scope.KeepsApart (x : Text) (scope : Scope) : Prop :=
  ∀ n, scope.has n = true → x ∈ Formula.namesIn n → n = x

namespace Condition

/-- The names that a test looks up where nothing is counted. -/
def Test.passedOver (single : Test) : List Text :=
  single.uncounted ++ single.seeming ++ single.bounds

/-- The name is looked up in a condition only where it counts: no test passes over it or ranges
over it. -/
structure Accounts (x c : Text) : Prop where
  /-- A condition with the name in it is a row of parts. -/
  regular : x ∈ openWords c → IsRegular c
  /-- No test in it passes over the name. -/
  passed : x ∈ openWords c → ∀ single ∈ (ofText c).tests, x ∉ single.passedOver
  /-- No quantifier ranges over it. -/
  ranges : ∀ single ∈ (ofText c).tests, ∀ start ∈ single.starts, hasStart start x = false

/-- So it is in a condition that is one test without the name and without a quantifier, -/
theorem Accounts.of_test {x c : Text} {single : Test} (hshape : shape c = .test single)
    (hword : x ∉ openWords c) (hstarts : single.starts = []) : Accounts x c where
  regular h := absurd h hword
  passed h := absurd h hword
  ranges other hmem start hstart := by
    rw [ofText_of_test hshape] at hmem
    rw [List.mem_singleton.mp hmem, hstarts] at hstart
    cases hstart

/-- and in the denial of a condition in which it is so. -/
theorem Accounts.of_denial {x c rest : Text} (hshape : shape c = .denial rest)
    (hword : x ∉ openWords c) (h : Accounts x rest) : Accounts x c where
  regular h := absurd h hword
  passed h := absurd h hword
  ranges := by
    rw [ofText_of_denial hshape]
    exact h.ranges

/-- What a regular condition looks up is one of its references, or it is passed over. -/
theorem IsRegular.mem_of_looks {c n : Text} {single : Test} (h : IsRegular c)
    (hmem : single ∈ (ofText c).tests) (hname : isIdentifier n = true)
    (hreserved : n ∉ reserved) (hn : n ∈ single.looks) :
    n ∈ references c ∨ n ∈ single.passedOver := by
  have hcovered : Covered True (counted c) (trim (normalize (trim c))) :=
    h.covered fun _ _ _ => trivial
  rcases (isAnswered_of_mem_tests hcovered hmem).looks n hn hname with h | h | ⟨-, h⟩
  · exact .inl (mem_references.mpr ⟨h, hreserved⟩)
  · exact .inr (List.mem_append_left _ (List.mem_append_left _ h))
  · exact .inr (List.mem_append_left _ (List.mem_append_right _ h))

/-- Two scopes that differ at one name agree on what a quantifier ranges over, if it does not range
over the name. -/
theorem agreeFrom_of_sameBut {x start : Text} {scope other : Scope} (hapart : scope.KeepsApart x)
    (hsame : scope.SameBut x other) (hstart : hasStart start x = false) :
    AgreeFrom scope other start := by
  intro n hhas hn m hm
  have hne : n ≠ x := by
    rintro rfl
    rw [hstart] at hn
    cases hn
  have hscope : scope.has n = true := by
    rcases hhas with h | h
    · exact h
    · rwa [hsame.has_eq hne]
  refine hsame m ?_
  rintro rfl
  rcases List.mem_cons.mp hm with h | h
  · exact hne h.symm
  · exact hne (hapart n hscope h)

/-- **A condition does not hang on a name** that it does not refer to, if the name is looked up
only where it counts. -/
theorem Accounts.evaluate_eq {x c : Text} {scope other : Scope} (h : Accounts x c)
    (hname : isIdentifier x = true) (hreserved : x ∉ reserved) (hunused : x ∉ references c)
    (hapart : scope.KeepsApart x) (hsame : scope.SameBut x other) :
    evaluate c scope = evaluate c other := by
  by_cases hword : x ∈ openWords c
  · refine holds_congr_looks (fun single hmem n hn => hsame n ?_)
      (fun single hmem n hn => hsame n ?_)
      fun single hmem start hstart => agreeFrom_of_sameBut hapart hsame
        (h.ranges single hmem start hstart)
    · rintro rfl
      rcases (h.regular hword).mem_of_looks hmem hname hreserved hn with hn | hn
      · exact hunused hn
      · exact h.passed hword single hmem hn
    · rintro rfl
      exact h.passed hword single hmem (List.mem_append_right _ hn)
  · -- A condition looks up words of its own only.
    refine holds_congr (fun n hn => hsame n ?_) fun start hstart => ?_
    · rintro rfl
      exact hword (mem_openWords_of_mem_reads hn (isBareWord_of_isIdentifier hname))
    · rw [starts_eq] at hstart
      obtain ⟨single, hmem, hstart⟩ := List.mem_flatMap.mp hstart
      exact agreeFrom_of_sameBut hapart hsame (h.ranges single hmem start hstart)

end Condition
end Questionnaire
