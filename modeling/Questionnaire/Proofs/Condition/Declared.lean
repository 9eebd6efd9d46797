import Questionnaire.Proofs.Condition.Counted

/-!
# Conditions over declared names

What a condition without undefined names looks up is declared, but for the words
on the right of its tests and the names opposite a computation. So it has one
answer over two scopes that agree on the names declared and on those that are not
counted (`evaluate_congr_declared`).
-/

namespace Questionnaire.Condition

open Text Validation

/-! ## Whole conditions -/

/-- The condition is a row of parts: no connective and no negation has nothing behind it, no
keyword operator stands at an end, and no part is quantified. -/
structure IsPlain (c : Text) : Prop where
  /-- Between connectives there is always something. -/
  filled : ∀ part ∈ splitBy widthConnective (normalize c), isBlankText part = false
  /-- It is not another connective. -/
  opens : ∀ part ∈ splitBy widthConnective (normalize c), ∀ k : Connective, ¬ k.Opens part
  /-- What is denied is there. -/
  denials : ∀ part ∈ splitBy widthConnective (normalize c), core part ≠ "NOT".toList
  /-- No name begins as a quantified comparison does. -/
  quantifiers : ∀ part ∈ splitBy widthConnective (normalize c),
    hasStart "STARTS_WITH".toList (core part) = false
  /-- No keyword operator stands at a blank end of the condition. -/
  edges : trim (normalize c) = normalize (trim c)

theorem IsPlain.isRegular {c : Text} (h : IsPlain c) : IsRegular c :=
  ⟨h.filled, h.opens, h.denials, h.edges⟩

theorem IsPlain.covered {c : Text} (h : IsPlain c) :
    Covered False (counted c) (trim (normalize (trim c))) :=
  h.isRegular.covered fun part hpart hstart => by
    rw [h.quantifiers part hpart] at hstart
    cases hstart

/-- **What a condition looks up** is one of its references, a reserved word, no identifier, a word
on the right of a test, or a name opposite a computation. -/
theorem mem_references_of_looks {c n : Text} {single : Test} (h : IsPlain c)
    (hmem : single ∈ (ofText c).tests) (hn : n ∈ single.looks) :
    n ∈ references c ∨ n ∈ reserved ∨ isIdentifier n = false ∨ n ∈ (ofText c).rightWords ∨
      n ∈ (ofText c).opposites := by
  have hanswered := isAnswered_of_mem_tests h.covered hmem
  by_cases hname : isIdentifier n = true
  · rcases hanswered.looks n hn hname with hcounted | hother | ⟨hfalse, -⟩
    · by_cases hreserved : n ∈ reserved
      · exact .inr (.inl hreserved)
      · exact .inl (mem_references.mpr ⟨hcounted, hreserved⟩)
    · refine .inr (.inr (.inr ?_))
      rcases List.mem_append.mp hother with h | h
      · exact .inl (List.mem_flatMap.mpr ⟨single, hmem, h⟩)
      · exact .inr (List.mem_flatMap.mpr ⟨single, hmem, h⟩)
    · cases hfalse
  · exact .inr (.inr (.inl (Bool.eq_false_iff.mpr hname)))

/-- A condition holds alike over two scopes that agree on its references and on what is not
counted as one. -/
theorem evaluate_congr_references {c : Text} {scope other : Scope}
    (hplain : isBlankText c = true ∨ IsPlain c)
    (hreferences : ∀ n ∈ references c, scope.get? n = other.get? n)
    (hright : ∀ n ∈ (ofText c).rightWords, scope.get? n = other.get? n)
    (hopposite : ∀ n ∈ (ofText c).opposites, scope.get? n = other.get? n)
    (hreserved : ∀ n ∈ reserved, scope.get? n = other.get? n)
    (hother : ∀ n, isIdentifier n = false → scope.get? n = other.get? n) :
    evaluate c scope = evaluate c other := by
  rcases hplain with hblank | hplain
  · have hshape : shape c = .always := by rw [shape, if_pos hblank]
    rw [evaluate, evaluate, ofText_of_always hshape]
    rfl
  · have hstarts : ∀ single ∈ (ofText c).tests, single.starts = [] := fun single hmem => by
      cases hsingle : single.starts with
      | nil => rfl
      | cons start rest =>
          exact ((isAnswered_of_mem_tests hplain.covered hmem).starts (by simp [hsingle])).elim
    refine holds_congr_looks (fun single hmem n hn => ?_) (fun single hmem => ?_)
      (fun single hmem => ?_)
    · rcases mem_references_of_looks hplain hmem hn with h | h | h | h | h
      · exact hreferences n h
      · exact hreserved n h
      · exact hother n h
      · exact hright n h
      · exact hopposite n h
    · rw [Test.bounds_eq_nil (hstarts single hmem)]
      exact fun n hn => absurd hn List.not_mem_nil
    · rw [hstarts single hmem]
      exact fun start hstart => absurd hstart List.not_mem_nil

/-- **A condition without undefined names** has one answer over two scopes that agree on the
declared names, on the words to the right of its tests, on what stands opposite a computation,
and on what is never declared: reserved words and what is no identifier. -/
theorem evaluate_congr_declared {c : Text} {declared : List Text} {scope other : Scope}
    (hplain : isBlankText c = true ∨ IsPlain c)
    (hvalid : undefinedNames (some c) declared = [])
    (hdeclared : ∀ n ∈ declared, scope.get? n = other.get? n)
    (hright : ∀ n ∈ (ofText c).rightWords, scope.get? n = other.get? n)
    (hopposite : ∀ n ∈ (ofText c).opposites, scope.get? n = other.get? n)
    (hreserved : ∀ n ∈ reserved, scope.get? n = other.get? n)
    (hother : ∀ n, isIdentifier n = false → scope.get? n = other.get? n) :
    evaluate c scope = evaluate c other := by
  refine evaluate_congr_references hplain (fun n hn => hdeclared n ?_) hright hopposite hreserved
    hother
  rw [undefinedNames, List.filter_eq_nil_iff] at hvalid
  simpa using hvalid n (by simpa [referencesOf] using hn)

theorem evaluate_congr_declared_total :
    evaluate "age > 3 AND NOT score + bonus IS total".toList
        [("x".toList, .bool true), ("age".toList, .int 4)]
      = evaluate "age > 3 AND NOT score + bonus IS total".toList [("age".toList, .int 4)] := by
  have hshape : shape "age > 3 AND NOT score + bonus IS total".toList
      = .allOf ["age > 3".toList, "NOT score + bonus == total".toList] := by decide +kernel
  have hfirst : shape "age > 3".toList
      = .test (.compare ⟨"age".toList, .above, "3".toList⟩) := by decide +kernel
  have hsecond : shape "NOT score + bonus == total".toList
      = .denial "score + bonus == total".toList := by decide +kernel
  have hdenied : shape "score + bonus == total".toList
      = .test (.compare ⟨"score + bonus".toList, .equal, "total".toList⟩) := by decide +kernel
  have htests : (ofText "age > 3 AND NOT score + bonus IS total".toList).tests
      = [.compare ⟨"age".toList, .above, "3".toList⟩,
          .compare ⟨"score + bonus".toList, .equal, "total".toList⟩] := by
    rw [ofText_of_allOf hshape, List.map_cons, List.map_cons, ofText_of_test hfirst,
      ofText_of_denial hsecond, ofText_of_test hdenied]
    rfl
  -- The scopes differ in `x` alone, which is not among the names in question.
  have hsame : ∀ names : List Text, "x".toList ∉ names → ∀ n ∈ names,
      Scope.get? [("x".toList, .bool true), ("age".toList, .int 4)] n
        = Scope.get? [("age".toList, .int 4)] n := by
    intro names hnames n hn
    rw [Scope.get?_cons, if_neg]
    rintro rfl
    exact hnames hn
  have hplain : IsPlain "age > 3 AND NOT score + bonus IS total".toList :=
    { filled := by decide +kernel
      opens := fun part hpart k => by
        revert part
        cases k <;> decide +kernel
      denials := by decide +kernel
      quantifiers := by decide +kernel
      edges := by decide +kernel }
  have hvalid : undefinedNames (some "age > 3 AND NOT score + bonus IS total".toList)
      ["age".toList, "score".toList, "bonus".toList] = [] := by decide +kernel
  refine evaluate_congr_declared (.inr hplain) hvalid (hsame _ (by decide)) (hsame _ ?_)
    (hsame _ ?_) (hsame _ (by decide)) fun n hn => ?_
  · rw [rightWords, htests]
    decide +kernel
  · rw [opposites, htests]
    decide +kernel
  · rw [Scope.get?_cons, if_neg]
    rintro rfl
    exact absurd hn (by decide)

/-- A reserved word is looked up like any name, though it is never counted. -/
theorem evaluate_reserved : ¬ ∀ (c : Text) (declared : List Text) (scope other : Scope),
    ¬ "STARTS_WITH".toList <:+: c → undefinedNames (some c) declared = [] →
    (∀ n ∈ declared, scope.get? n = other.get? n) →
    (∀ n ∈ (ofText c).rightWords, scope.get? n = other.get? n) →
    evaluate c scope = evaluate c other := by
  intro h
  have hshape : shape "IF".toList = .test (.name "IF".toList) := by decide
  have hright : (ofText "IF".toList).rightWords = [] := by
    rw [ofText_of_test hshape]
    rfl
  have hsame := h "IF".toList [] [("IF".toList, .bool true)] [] (by decide) (by decide +kernel)
    (by simp) (fun n hn => absurd (hright ▸ hn) List.not_mem_nil)
  rw [evaluate_of_shape_test hshape, evaluate_of_shape_test hshape] at hsame
  exact absurd hsame (by decide)

end Questionnaire.Condition
