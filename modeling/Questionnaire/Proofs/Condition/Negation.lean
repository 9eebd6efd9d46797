import Questionnaire.Proofs.Condition.FailOpen
import Questionnaire.Proofs.Condition.Settled

/-!
# Negation

What stands behind a NOT is read with its keyword operators written as symbols
already (`evaluate_denial_written`), and they are written once more when it is
read. So a NOT denies exactly what the condition says on its own where writing
them twice, and with the blank behind the NOT before them, makes no difference
(`ReadsOnce`). That is so unless a condition begins with a keyword operator or has
one twice in a row (`normalize_normalize`).
-/

namespace Questionnaire.Condition

open Text

/-! ## Keyword operators that stand twice in a row -/

theorem doubled_iff {word t : Text} : Doubled word t ↔ ∃ i ∈ List.range (t.length + 1),
    (t.take i).getLast?.map isBlank = some true ∧ hasStart word (t.drop i) = true ∧
      ∃ j ∈ List.range (t.length + 1), ((t.drop i).drop word.length).take j ≠ [] ∧
        isBlankText (((t.drop i).drop word.length).take j) = true ∧
        hasStart word (((t.drop i).drop word.length).drop j) = true ∧
        ((((t.drop i).drop word.length).drop j).drop word.length).head?.map isBlank
          = some true := by
  constructor
  · rintro ⟨before, gap, after, rfl, hbefore, hgap, hblank, hafter⟩
    have hlength : before.length < (before ++ word ++ gap ++ word ++ after).length + 1 ∧
        gap.length < (before ++ word ++ gap ++ word ++ after).length + 1 := by
      simp only [List.length_append]
      omega
    refine ⟨before.length, List.mem_range.mpr hlength.1, ?_⟩
    simp only [List.append_assoc, List.take_left, List.drop_left, hasStart_iff]
    refine ⟨hbefore, List.prefix_append _ _, gap.length, ?_, ?_⟩
    · simpa using hlength.2
    · simp only [List.take_left, List.drop_left]
      exact ⟨hgap, hblank, List.prefix_append _ _, hafter⟩
  · rintro ⟨i, -, hbefore, hfirst, j, -, hgap, hblank, hsecond, hafter⟩
    obtain ⟨rest, hrest⟩ := hasStart_iff.mp hfirst
    rw [← hrest, List.drop_left] at hgap hblank hsecond hafter
    obtain ⟨after, hbehind⟩ := hasStart_iff.mp hsecond
    rw [← hbehind, List.drop_left] at hafter
    refine ⟨t.take i, rest.take j, after, ?_, hbefore, hgap, hblank, hafter⟩
    simp only [List.append_assoc]
    rw [hbehind, List.take_append_drop, hrest, List.take_append_drop]

instance (word t : Text) : Decidable (Doubled word t) := decidable_of_iff' _ doubled_iff

theorem beginsWithOperator_iff {t : Text} : BeginsWithOperator t ↔ ∃ keyword ∈ keywords,
    hasStart keyword.1 t = true ∧
      (t.drop keyword.1.length).head?.map isBlank = some true := by
  constructor
  · rintro ⟨keyword, hk, rest, rfl, hrest⟩
    refine ⟨keyword, hk, hasStart_iff.mpr (List.prefix_append _ _), ?_⟩
    rwa [List.drop_left]
  · rintro ⟨keyword, hk, hstart, hrest⟩
    obtain ⟨rest, rfl⟩ := hasStart_iff.mp hstart
    rw [List.drop_left] at hrest
    exact ⟨keyword, hk, rest, rfl, hrest⟩

instance (t : Text) : Decidable (BeginsWithOperator t) :=
  decidable_of_iff' _ beginsWithOperator_iff

section Rewritten

variable {keyword : Text × Relation} {word t : Text}

theorem StandsSpaced.of_replaceBy (hk : keyword ∈ keywords) (hne : word ≠ [])
    (hword : IsWordlike word)
    (h : StandsSpaced word (replaceBy (widthSpaced keyword.1) (spaced keyword.2) t)) :
    StandsSpaced word t := by
  obtain ⟨before, after, heq, hbefore, hafter⟩ := h
  obtain ⟨b, a, rfl, hb, ha⟩ :=
    occurs_of_isWordlike hne hword (heq ▸ rewrites_spaced keyword t)
  exact ⟨b, a, rfl, (sameBlanks_of_rewrites hk hb).last.symm.trans hbefore,
    (sameBlanks_of_rewrites hk ha).head.symm.trans hafter⟩

/-- Writing one keyword operator as its symbol does not bring two others together. -/
theorem Doubled.of_replaceBy (hk : keyword ∈ keywords) (hne : word ≠ []) (hword : IsWordlike word)
    (h : Doubled word (replaceBy (widthSpaced keyword.1) (spaced keyword.2) t)) :
    Doubled word t := by
  obtain ⟨before, gap, after, heq, hbefore, hgap, hblank, hafter⟩ := h
  obtain ⟨b, a, rfl, hb, ha⟩ :=
    occurs_of_isWordlike hne hword (heq ▸ rewrites_spaced keyword t)
  obtain ⟨b, g, rfl, hb, hg⟩ := occurs_of_isWordlike hne hword hb
  refine ⟨b, g, a, rfl, (sameBlanks_of_rewrites hk hb).last.symm.trans hbefore,
    fun hnil => hgap (hg.eq_nil_iff.mpr hnil),
    (sameBlanks_of_rewrites hk hg).blank.symm.trans hblank,
    (sameBlanks_of_rewrites hk ha).head.symm.trans hafter⟩

end Rewritten

/-- **A keyword operator that is left** stood twice in a row. -/
theorem doubled_of_standsSpaced_normalize {keyword : Text × Relation} (hk : keyword ∈ keywords)
    {t : Text} (h : StandsSpaced keyword.1 (normalize t)) : Doubled keyword.1 t := by
  have hne := ne_nil_of_mem_keywords hk
  have hword := isWordlike_of_mem_keywords hk
  have hgen : ∀ operators : List (Text × Relation), (∀ other ∈ operators, other ∈ keywords) →
      ∀ t, StandsSpaced keyword.1 (writeSymbols operators t) →
        StandsSpaced keyword.1 t ∧ (keyword ∈ operators → Doubled keyword.1 t) := by
    intro operators
    induction operators with
    | nil => exact fun _ t h => ⟨h, by simp⟩
    | cons other operators ih =>
        intro hmem t h
        have ho := hmem other List.mem_cons_self
        obtain ⟨hspaced, hdoubled⟩ := ih (fun k hk => hmem k (List.mem_cons_of_mem _ hk)) _ h
        refine ⟨hspaced.of_replaceBy ho hne hword, fun hfound => ?_⟩
        rcases List.mem_cons.mp hfound with rfl | hfound
        · obtain ⟨before, after, heq, hbefore, hafter⟩ := hspaced
          exact (left_of_replaceBy hk heq hbefore hafter).1
        · exact (hdoubled hfound).of_replaceBy ho hne hword
  exact (hgen keywords (fun _ h => h) t h).2 hk

/-- **Writing symbols twice** is writing them once, where no keyword operator stands twice in a
row. -/
theorem normalize_normalize {t : Text} (h : ∀ keyword ∈ keywords, ¬ Doubled keyword.1 t) :
    normalize (normalize t) = normalize t := by
  rcases normalize_cases (normalize t) with heq | ⟨⟨keyword, hk, hspaced⟩, -⟩
  · exact heq
  · exact absurd (doubled_of_standsSpaced_normalize hk hspaced) (h keyword hk)

/-! ## What stands behind a NOT -/

theorem IsTrimmed.normalize {t : Text} (h : IsTrimmed t) : IsTrimmed (normalize t) := by
  refine ⟨head?_normalize h.1, fun c hc => ?_⟩
  have hsame := (sameBlanks_normalize t).last
  rw [hc, Option.map_some] at hsame
  obtain ⟨d, hd, hblank⟩ := Option.map_eq_some_iff.mp hsame.symm
  rw [← hblank, h.2 d hd]

/-- Blanks before a condition do not count. -/
theorem evaluate_append_of_blank {b : Text} (hb : isBlankText b = true) (t : Text)
    (scope : Scope) : evaluate (b ++ t) scope = evaluate t scope := by
  rw [← evaluate_trim, ← evaluate_trim t, trim, trimLeft_append_of_blank hb, trim]

/-- **A denial** denies what stands behind the NOT with its keyword operators written as
symbols. -/
theorem evaluate_denial_written {c : Text} (hc : isBlankText c = false)
    (hbegins : ¬ BeginsWithOperator (trim c)) (scope : Scope) :
    evaluate ("NOT ".toList ++ c) scope = !evaluate (normalize (trim c)) scope := by
  obtain ⟨before, after, hsplit, hbefore, hafter, -, -⟩ := trim_spec c
  have htrimmed := isTrimmed_trim c
  have hfilled : isBlankText (trim c) = false := (isBlankText_trim c).trans hc
  generalize trim c = t at *
  have hspaces : isBlankText (' ' :: before) = true := by
    simpa [isBlankText, isBlank] using hbefore
  have hright : trimRight c = before ++ t := by
    rw [hsplit, trimRight_append_of_blank _ hafter, trimRight_append_of_not_blank _ hfilled,
      trimRight_eq_self_of_last htrimmed.2]
  have hwritten : normalize ("NOT ".toList ++ (before ++ t))
      = "NOT ".toList ++ (before ++ normalize t) := by
    have hblank := normalize_blank_append_of_not_begins hspaces htrimmed.1 hbegins
    simpa using normalize_denial_of_blank hspaces (by simp) hblank
  have hdenied : isBlankText (before ++ normalize t) = false := by
    rw [isBlankText_append, (sameBlanks_normalize t).blank, hfilled, Bool.and_false]
  have hnot : isBlankText ("NOT ".toList ++ c) = false := by
    rw [isBlankText_append, hc, Bool.and_false]
  have hshape : shape ("NOT ".toList ++ c) = .denial (trimRight (before ++ normalize t)) := by
    rw [shape_of_not_blank hnot, trim_denial hc, hright, hwritten, trim_denial hdenied, shapeOf,
      after?_append]
  rw [evaluate_of_shape_denial hshape, evaluate_trimRight, evaluate_append_of_blank hbefore]

/-- Writing the keyword operators of the condition as symbols twice, the second time with a blank
before it, is writing them once. -/
structure ReadsOnce (t : Text) : Prop where
  /-- A blank before it makes no keyword operator of its beginning. -/
  begins : ¬ BeginsWithOperator (trim t)
  /-- No keyword operator takes the blank before another one. -/
  doubled : ∀ keyword ∈ keywords, ¬ Doubled keyword.1 (trim t)

theorem readsOnce_iff {t : Text} : ReadsOnce t ↔ ¬ BeginsWithOperator (trim t) ∧
    ∀ keyword ∈ keywords, ¬ Doubled keyword.1 (trim t) :=
  ⟨fun h => ⟨h.begins, h.doubled⟩, fun h => ⟨h.1, h.2⟩⟩

instance (t : Text) : Decidable (ReadsOnce t) := decidable_of_iff' _ readsOnce_iff

/-- A condition that is read once has the same outermost pattern with its keyword operators
written as symbols. -/
theorem ReadsOnce.shape_normalize {c : Text} (h : ReadsOnce c) (hc : isBlankText c = false) :
    shape (normalize (trim c)) = shape c := by
  have htrimmed := (isTrimmed_trim c).normalize
  have htrim := trim_eq_self htrimmed.1 htrimmed.2
  have hfilled : isBlankText (normalize (trim c)) = false := by
    rw [(sameBlanks_normalize _).blank, isBlankText_trim, hc]
  rw [shape_of_not_blank hfilled, shape_of_not_blank hc, htrim, normalize_normalize h.doubled,
    htrim]

/-- **Negation.** A condition behind a NOT holds exactly if it does not hold on its own, as long as
it does not begin with a keyword operator and has none twice in a row. -/
theorem evaluate_denial {c : Text} (hc : isBlankText c = false) (h : ReadsOnce c)
    (scope : Scope) : evaluate ("NOT ".toList ++ c) scope = !evaluate c scope := by
  rw [evaluate_denial_written hc h.begins, evaluate_congr_shape (h.shape_normalize hc)]

/-- NOT denies the whole of the row behind it. -/
theorem evaluate_denial_pets : isBlankText " pets IS_NOT Dog OR NOT sick".toList = false ∧
      ReadsOnce " pets IS_NOT Dog OR NOT sick".toList ∧
      evaluate "NOT  pets IS_NOT Dog OR NOT sick".toList
        [("pets".toList, .text "Dog".toList), ("sick".toList, .bool true)] = true := by
  have hfilled : isBlankText " pets IS_NOT Dog OR NOT sick".toList = false := by
    decide
  have hreads : ReadsOnce " pets IS_NOT Dog OR NOT sick".toList := by
    decide +kernel
  have hdenial := evaluate_denial hfilled hreads
    [("pets".toList, .text "Dog".toList), ("sick".toList, .bool true)]
  refine ⟨hfilled, hreads, hdenial.trans ?_⟩
  decide +kernel

/-- A keyword operator that stands twice in a row is read in two ways: the answer `IS y` is found
on its own, and behind the NOT `== y` is looked for. -/
example : evaluate "x IS IS y".toList [("x".toList, .text "IS y".toList)] = true ∧
    evaluate "NOT x IS IS y".toList [("x".toList, .text "IS y".toList)] = true := by
  decide +kernel

end Questionnaire.Condition
