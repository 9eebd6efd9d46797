import Questionnaire.Proofs.Condition.Candidates
import Questionnaire.Proofs.Condition.Tests

/-!
# Names that count

A condition is cut at all connectives at once to see which names it depends on,
and read connective by connective to see whether it holds. Where the condition
is a row of parts, the two come to the same: every text that is reached in
reading it is a row of some of its parts, with symbols for the keyword operators
(`Covered`), and what a test looks up counts as a name of its part
(`mem_of_looks_testOf`) or is looked up where nothing is counted.
-/

namespace Questionnaire.Condition

open Text Validation

/-! ## A single test -/

theorem ofText?_of_isBareWord {t : Text} (h : isBareWord t = true) :
    Comparison.ofText? t = none := by
  cases hfound : Comparison.ofText? t with
  | none => rfl
  | some comparison =>
      obtain ⟨p, q, hsplit, -⟩ := Comparison.find?_spec hfound
      obtain ⟨c, hc⟩ := exists_mem_symbol comparison.relation
      have hmem : c ∈ trim t := by
        rw [List.reverse_nil, List.nil_append] at hsplit
        rw [hsplit]
        exact List.mem_append_left _ (List.mem_append_right _ hc)
      rw [isBareWord, Bool.and_eq_true] at h
      have := List.all_eq_true.mp h.2 c (mem_of_mem_trim hmem)
      rw [(isForeign_of_mem_symbol hc).word] at this
      cases this

theorem mem_namesIn_of_isBareWord {side n : Text} (hword : isBareWord side = true)
    (h : n ∈ Formula.namesIn side) : n = side := by
  have := Formula.namesIn_subset_openWords side h
  rw [openWords_of_isBareWord hword] at this
  exact List.mem_singleton.mp this

/-- The names on the left of a computed comparison. -/
theorem mem_of_namesIn_left {side n : Text} (hname : isIdentifier n = true)
    (h : n ∈ Formula.namesIn side) : n ∈ leftNames side ∨ n ∈ oppositeNames side := by
  by_cases hcomputed : Formula.isComputation side = true
  · left
    rw [leftNames, if_pos hcomputed]
    exact mem_identifiers_of_isIdentifier hname (Formula.namesIn_subset_openWords side h)
  · by_cases hword : isBareWord side = true
    · left
      obtain rfl := mem_namesIn_of_isBareWord hword h
      rw [leftNames, if_neg hcomputed, if_pos hname]
      exact List.mem_singleton_self n
    · right
      rw [oppositeNames, if_neg (by simp [hcomputed, hword])]
      exact h

/-- The names on the right of a computed comparison. -/
theorem mem_of_namesIn_right {side n : Text} (hname : isIdentifier n = true)
    (h : n ∈ Formula.namesIn side) :
    n ∈ rightNames side ∨ n ∈ wordOf side ∨ n ∈ oppositeNames side := by
  by_cases hcomputed : Formula.isComputation side = true
  · left
    rw [rightNames, if_pos hcomputed]
    exact mem_identifiers_of_isIdentifier hname (Formula.namesIn_subset_openWords side h)
  · right
    by_cases hword : isBareWord side = true
    · left
      obtain rfl := mem_namesIn_of_isBareWord hword h
      rw [wordOf, if_pos hword]
      exact List.mem_singleton_self n
    · right
      rw [oppositeNames, if_neg (by simp [hcomputed, hword])]
      exact h

/-- The names that a test looks up and that need not count as names of its part: a word on the
right of it, and those opposite a computation. -/
def Test.uncounted (single : Test) : List Text := single.rightWords ++ single.opposites

/-- What a comparison looks up counts, or it is one of the exceptions. -/
theorem mem_of_looks_compare {comparison : Comparison} {n : Text} (hname : isIdentifier n = true)
    (h : n ∈ comparison.looks) :
    n ∈ leftNames comparison.left ++ rightNames comparison.right ∨
      n ∈ (Test.compare comparison).uncounted := by
  rw [Test.uncounted, Test.rightWords, Test.opposites, List.mem_append, List.mem_append]
  rw [Comparison.looks] at h
  split at h
  · rename_i hcomputed
    rw [if_pos hcomputed, List.mem_append]
    rcases List.mem_append.mp h with h | h
    · rcases mem_of_namesIn_left hname h with h | h
      · exact .inl (.inl h)
      · exact .inr (.inr (.inl h))
    · rcases mem_of_namesIn_right hname h with h | h | h
      · exact .inl (.inr h)
      · exact .inr (.inl h)
      · exact .inr (.inr (.inr h))
  · rename_i hcomputed
    rcases List.mem_cons.mp h with rfl | h
    · left
      left
      have hleft : Formula.isComputation comparison.left = false := by
        simp only [Comparison.isComputed, Bool.or_eq_true, not_or, Bool.not_eq_true] at hcomputed
        exact hcomputed.1
      rw [leftNames, hleft, if_pos hname]
      exact List.mem_singleton_self _
    · exact .inr (.inl h)

/-- The names that a test looks up although it begins as a quantified comparison does: nothing
in such a part counts. -/
def Test.seeming : Test → List Text
  | .name n => if hasStart "STARTS_WITH".toList n then [n] else []
  | .compare comparison =>
    if hasStart "STARTS_WITH".toList comparison.left then comparison.looks else []
  | _ => []

/-- What a text is a test of. -/
inductive Tested (t : Text) : Test → Prop
  | literal (truth : Bool) : Tested t (.literal truth)
  | name : isBareWord t = true → Tested t (.name t)
  | anyStarting {start right : Text} {relation : Relation} :
    hasStart "STARTS_WITH".toList t = true → Tested t (.anyStarting start relation right)
  | compare {comparison : Comparison} : Comparison.ofText? t = some comparison →
    Tested t (.compare comparison)
  | unrecognized : Tested t (.unrecognized t)

theorem tested_testOf (t : Text) : Tested t (testOf t) := by
  rw [testOf]
  split
  · exact .literal true
  · split
    · exact .literal false
    · split
      · rename_i hword
        exact .name hword
      · split
        · rename_i single hsingle
          rw [quantified?, Option.bind_eq_some_iff] at hsingle
          obtain ⟨rest, hrest, hsingle⟩ := hsingle
          have hstart : hasStart "STARTS_WITH".toList t = true := by rw [hasStart, hrest]; rfl
          split at hsingle
          · cases hsingle
          · dsimp only at hsingle
            split at hsingle
            · cases hsingle
            · obtain ⟨found, -, rfl⟩ := Option.map_eq_some_iff.mp hsingle
              exact .anyStarting hstart
        · split
          · rename_i comparison hcomparison
            exact .compare hcomparison
          · exact .unrecognized

/-- A comparison begins as its text does. -/
theorem hasStart_left {word t : Text} {comparison : Comparison} (ht : trim t = t)
    (hword : ∀ c ∈ word, isWord c = true) (hstart : hasStart word t = true)
    (h : Comparison.ofText? t = some comparison) : hasStart word comparison.left = true := by
  obtain ⟨p, right, hsplit, -, -, hleft, -⟩ := ofText?_eq_some ht h
  obtain ⟨rest, rfl⟩ := hasStart_iff.mp hstart
  obtain ⟨d, hd⟩ := exists_mem_symbol comparison.relation
  -- The word ends before the symbol, which has no character of words.
  have hfirst : ∃ a, p = word ++ a := by
    rcases List.append_eq_append_iff.mp hsplit with ⟨a, rfl, -⟩ | ⟨a, hmore, hbehind⟩
    · exact ⟨a, rfl⟩
    · cases a with
      | nil => exact ⟨[], by rw [hmore]; simp⟩
      | cons c a =>
          obtain ⟨e, symbol, hsymbol⟩ := List.exists_cons_of_ne_nil
            (symbol_ne_nil comparison.relation)
          rw [hsymbol, List.cons_append, List.cons_append, List.cons.injEq] at hbehind
          have hsign : e ∈ comparison.relation.symbol := by
            rw [hsymbol]
            exact List.mem_cons_self
          have hforeign := (isForeign_of_mem_symbol hsign).word
          have hmem : e ∈ word := by
            rw [hmore, hbehind.1]
            exact List.mem_append_right _ List.mem_cons_self
          rw [hword e hmem] at hforeign
          cases hforeign
  obtain ⟨a, rfl⟩ := hfirst
  have hblank : ∀ c ∈ word, isBlank c = false := fun c hc => isBlank_of_isWord (hword c hc)
  rw [hleft, hasStart_iff]
  by_cases hnil : word = []
  · exact hnil ▸ List.nil_prefix
  · rw [trim, trimLeft_eq_self_of_head, trimRight_append_of_last]
    · exact List.prefix_append word _
    · exact fun c hc => hblank c (List.mem_of_getLast? hc)
    · intro c hc
      rw [head?_append_of_ne_nil hnil] at hc
      exact hblank c (List.mem_of_head? hc)

theorem isWord_quantifier : ∀ c ∈ "STARTS_WITH".toList, isWord c = true :=
  List.all_eq_true.mp (by decide)

/-- **What a test looks up counts as a name of its part**, or it is one of the exceptions. -/
theorem mem_of_looks_testOf {t n : Text} (ht : trim t = t) (hname : isIdentifier n = true)
    (h : n ∈ (testOf t).looks) :
    n ∈ candidates t ∨ n ∈ (testOf t).uncounted ∨
      hasStart "STARTS_WITH".toList t = true ∧ n ∈ (testOf t).seeming := by
  have htested := tested_testOf t
  generalize testOf t = single at h htested
  cases htested with
  | literal truth => cases h
  | anyStarting hstart => cases h
  | unrecognized => cases h
  | name hword =>
      obtain rfl : n = t := by simpa [Test.looks] using h
      by_cases hstart : hasStart "STARTS_WITH".toList n = true
      · refine .inr (.inr ⟨hstart, ?_⟩)
        rw [Test.seeming, if_pos hstart]
        exact List.mem_singleton_self n
      · left
        have hne : n ≠ [] := by
          rintro rfl
          cases hword
        rw [candidates_of_not_start hne (Bool.not_eq_true _ ▸ hstart), ofText?_of_isBareWord hword]
        refine mem_identifiers_of_isIdentifier hname ?_
        rw [openWords_of_isBareWord hword]
        exact List.mem_singleton_self n
  | compare hcomparison =>
      by_cases hstart : hasStart "STARTS_WITH".toList t = true
      · refine .inr (.inr ⟨hstart, ?_⟩)
        rw [Test.seeming, if_pos (hasStart_left ht isWord_quantifier hstart hcomparison)]
        exact h
      · have hne : t ≠ [] := by
          rintro rfl
          cases hcomparison
        rw [candidates_of_not_start hne (Bool.not_eq_true _ ▸ hstart), hcomparison]
        exact (mem_of_looks_compare hname h).imp_right .inl

theorem starts_testOf {t : Text} (hstart : hasStart "STARTS_WITH".toList t = false) :
    (testOf t).starts = [] := by
  have htested := tested_testOf t
  generalize testOf t = single at htested
  cases htested with
  | anyStarting h => rw [hstart] at h; cases h
  | _ => rfl

/-! ## Rows that count -/

/-- The core is no bare negation, it begins as a quantified comparison does only where this is
allowed, and its names are among the given ones. -/
structure IsCounted (quantified : Prop) (names : List Text) (y : Text) : Prop where
  notDenial : y ≠ "NOT".toList
  quantified : hasStart "STARTS_WITH".toList y = true → quantified
  candidates : candidates y ⊆ names

/-- The text is a settled row of parts whose names are among the given ones. -/
structure Covered (quantified : Prop) (names : List Text) (u : Text) : Prop where
  settled : Settled u
  row : ∃ ys, IsRow ys u ∧ ∀ y ∈ ys, IsCounted quantified names y

variable {quantified : Prop} {names : List Text} {u : Text}

/-- A word that a text begins with when it is written anew, it began with before. -/
theorem eq_append_of_normalize {x q s : Text} (hne : x ≠ []) (hx : IsWordlike x)
    (h : normalize q = x ++ s) : ∃ a, q = x ++ a ∧ SameBlanks a s := by
  have hstart : normalize q = [] ++ x ++ s := h
  obtain ⟨b, a, hsplit, hb, ha⟩ := occurs_normalize hne hx hstart
  obtain rfl := hb.eq_nil
  exact ⟨a, hsplit, ha⟩

/-- A word that a text begins with, it still begins with when it is written anew. -/
theorem hasStart_normalize {x t : Text} (hx : ∀ c ∈ x, isBlank c = false)
    (h : hasStart x t = true) : hasStart x (normalize t) = true := by
  refine normalize_induction (P := fun u => hasStart x u = true) h fun keyword _ u hu => ?_
  obtain ⟨s, rfl⟩ := hasStart_iff.mp hu
  obtain ⟨v, hv, -⟩ := (rewrites_replaceBy keyword.1 keyword.2.symbol (x ++ s)).append_of hx
  exact hasStart_iff.mpr ⟨v, hv.symm⟩

/-- A word that a text begins with, it begins with without the blanks at its end. -/
theorem hasStart_trimRight {x t : Text} (hx : ∀ c ∈ x, isBlank c = false)
    (h : hasStart x t = true) : hasStart x (trimRight t) = true := by
  obtain ⟨s, rfl⟩ := hasStart_iff.mp h
  rw [trimRight_append_of_last fun c hc => hx c (List.mem_of_getLast? hc)]
  exact hasStart_iff.mpr (List.prefix_append x _)

theorem hasStart_of_trimRight {x t : Text} (h : hasStart x (trimRight t) = true) :
    hasStart x t = true := by
  obtain ⟨tail, hsplit, -, -⟩ := trimRight_spec t
  rw [hsplit]
  exact hasStart_iff.mpr ((hasStart_iff.mp h).trans (List.prefix_append _ tail))

theorem candidates_of_start {t : Text} (h : hasStart "STARTS_WITH".toList t = true) :
    candidates t = [] := by
  rw [Validation.candidates, h, Bool.or_true, if_pos rfl]

/-- A core written anew still counts. -/
theorem IsCounted.normalize {p : Text} (hsettled : Settled p)
    (h : IsCounted quantified names (core p)) :
    IsCounted quantified names (core (normalize p)) := by
  obtain ⟨q, hq, hhead, hcore, hcore'⟩ := exists_core_normalize hsettled
  rw [hcore] at h
  rw [hcore']
  obtain ⟨tail, hsplit, htail, -⟩ := trimRight_spec (Condition.normalize q)
  rw [← trimLeft_eq_self_of_head (head?_normalize hhead), ← trim,
    trimLeft_eq_self_of_head (head?_normalize hhead)] at hsplit
  have htrim : trim q = trimRight q := by rw [trim, trimLeft_eq_self_of_head hhead]
  -- What the core begins with now, it began with.
  have hbegins : ∀ x s : Text, x ≠ [] → IsWordlike x → trim (Condition.normalize q) = x ++ s →
      ∃ a, trim q = x ++ trimRight a ∧ SameBlanks a (s ++ tail) := by
    intro x s hne hx heq
    rw [heq, List.append_assoc] at hsplit
    obtain ⟨a, rfl, ha⟩ := eq_append_of_normalize hne hx hsplit
    refine ⟨a, ?_, ha⟩
    rw [htrim]
    exact trimRight_append_of_last
      (fun c hc => (hx c (List.mem_of_getLast? hc)).1) a
  have hword : ∀ c ∈ "STARTS_WITH".toList, isBlank c = false := fun c hc =>
    (isWordlike_of_all (by decide) c hc).1
  refine ⟨fun hnot => h.notDenial ?_, fun hstart => h.quantified ?_, ?_⟩
  · obtain ⟨a, heq, ha⟩ := hbegins "NOT".toList [] (by simp) (isWordlike_of_all (by decide))
      (by simpa using hnot)
    have hblank : isBlankText a = true := ha.blank.symm.trans htail
    rw [heq, show trimRight a = [] from trimRight_append_of_blank [] hblank]
    rfl
  · obtain ⟨s, hs⟩ := hasStart_iff.mp hstart
    obtain ⟨a, heq, -⟩ := hbegins "STARTS_WITH".toList s (by simp) (isWordlike_of_all (by decide))
      hs.symm
    rw [heq]
    exact hasStart_iff.mpr (List.prefix_append _ _)
  · -- A part that begins as a quantified comparison does goes on beginning so, and has no names.
    by_cases hstart : hasStart "STARTS_WITH".toList (trim q) = true
    · have hnew : hasStart "STARTS_WITH".toList (trim (Condition.normalize q)) = true := by
        rw [trim, trimLeft_eq_self_of_head (head?_normalize hhead)]
        rw [htrim] at hstart
        exact hasStart_trimRight hword (hasStart_normalize hword (hasStart_of_trimRight hstart))
      rw [candidates_of_start hnew]
      exact List.nil_subset _
    · exact List.Subset.trans (candidates_normalize hq hhead (by simpa using hstart)) h.candidates

namespace Covered

theorem trim (h : Covered quantified names u) : Covered quantified names (trim u) := by
  obtain ⟨ys, hrow, hys⟩ := h.row
  exact ⟨h.settled.of_excerpt (.trim u), ys, hrow.trim, hys⟩

theorem normalize (h : Covered quantified names u) : Covered quantified names (normalize u) := by
  obtain ⟨ys, hrow, hys⟩ := h.row
  obtain ⟨ps, hexcerpt, rfl, hrow'⟩ := hrow.normalize
  refine ⟨settled_normalize u, _, hrow', ?_⟩
  rw [List.forall_mem_map]
  intro p hp
  exact (hys _ (List.mem_map_of_mem hp)).normalize (h.settled.of_excerpt (hexcerpt p hp))

theorem of_denial {rest : Text} (h : Covered quantified names ("NOT ".toList ++ rest)) :
    Covered quantified names rest := by
  obtain ⟨ys, hrow, hys⟩ := h.row
  have hexcerpt := excerpt_of_denial (b := [' ']) rfl rest
  exact ⟨h.settled.of_excerpt hexcerpt, ys,
    hrow.of_denial fun hmem => (hys _ hmem).notDenial rfl, hys⟩

theorem of_mem_splitBy {k : Connective} {r : Text} (h : Covered quantified names u)
    (hr : r ∈ splitBy k.width u) : Covered quantified names (Text.trim r) := by
  obtain ⟨ys, hrow, hys⟩ := h.row
  obtain ⟨hexcerpt, zs, hsub, hzs⟩ := hrow.of_mem_splitBy hr
  exact ⟨h.settled.of_excerpt hexcerpt, zs, hzs, fun y hy => hys y (hsub hy)⟩

theorem of_pieces {k : Connective} {parts : List Text} (h : Covered quantified names u)
    (hparts : pieces? k.width u = some parts) : ∀ p ∈ parts, Covered quantified names p := by
  rw [pieces?] at hparts
  split at hparts
  · rename_i first second rest hsplit
    cases hparts
    rw [List.forall_mem_map]
    exact fun r hr => h.of_mem_splitBy (hsplit ▸ hr)
  · cases hparts

/-- The conditions inside a row are rows. -/
theorem of_mem_parts (h : Covered quantified names u) : ∀ p ∈ (shapeOf u).parts, Covered quantified names p := by
  rw [shapeOf]
  split
  · rename_i rest hrest
    intro p hp
    obtain rfl : p = rest := by simpa [Shape.parts] using hp
    exact Covered.of_denial (after?_eq_some.mp hrest ▸ h)
  · split
    · rename_i parts hparts
      split
      · exact fun p hp => absurd hp List.not_mem_nil
      · exact h.of_pieces (k := .or) hparts
    · split
      · rename_i parts hparts
        split
        · exact fun p hp => absurd hp List.not_mem_nil
        · exact h.of_pieces (k := .and) hparts
      · exact fun p hp => absurd hp List.not_mem_nil

end Covered

/-- The test quantifies only where this is allowed, and what it looks up is counted or one of the
exceptions. -/
structure IsAnswered (quantified : Prop) (names : List Text) (single : Test) : Prop where
  starts : single.starts ≠ [] → quantified
  looks : ∀ n ∈ single.looks, isIdentifier n = true →
    n ∈ names ∨ n ∈ single.uncounted ∨ quantified ∧ n ∈ single.seeming

theorem isAnswered_dangling (t : Text) : IsAnswered quantified names (.dangling t) :=
  ⟨fun h => absurd rfl h, fun _ h => absurd h List.not_mem_nil⟩

/-- The test that a row without connectives makes. -/
theorem Covered.isAnswered {single : Test} (h : Covered quantified names u)
    (hu : Text.trim u = u) (hshape : shapeOf u = .test single) :
    IsAnswered quantified names single := by
  rw [shapeOf] at hshape
  split at hshape
  · cases hshape
  · rename_i hdenial
    split at hshape
    · split at hshape <;> cases hshape
      exact isAnswered_dangling u
    · rename_i hor
      split at hshape
      · split at hshape <;> cases hshape
        exact isAnswered_dangling u
      · rename_i hand
        cases hshape
        obtain ⟨ys, hrow, hys⟩ := h.row
        obtain ⟨-, rfl⟩ := hrow.isPart fun k => by
          cases k with
          | or => exact hor
          | and => exact hand
        have hcounted := hys _ (List.mem_singleton_self _)
        rw [core_of_not_after (hu.symm ▸ hdenial), hu] at hcounted
        refine ⟨fun hstarts => hcounted.quantified ?_, fun n hn hname => ?_⟩
        · cases hstart : hasStart "STARTS_WITH".toList u with
          | true => rfl
          | false => exact absurd (starts_testOf hstart) hstarts
        · rcases mem_of_looks_testOf hu hname hn with h | h | ⟨hstart, h⟩
          · exact .inl (hcounted.candidates h)
          · exact .inr (.inl h)
          · exact .inr (.inr ⟨hcounted.quantified hstart, h⟩)

/-- **Every test of a row** looks up what is counted or one of the exceptions. -/
theorem isAnswered_of_mem_tests {t : Text} {single : Test}
    (h : Covered quantified names (trim (normalize (trim t)))) (hmem : single ∈ (ofText t).tests) :
    IsAnswered quantified names single := by
  -- Along the reading of conditions: the conditions inside a row are rows of its parts.
  have hparts : ∀ t, Covered quantified names (trim (normalize (trim t))) → ∀ p ∈ (shape t).parts,
      Covered quantified names (trim (normalize (trim p))) := by
    intro t ht p hp
    have hne : shape t ≠ .always := by
      intro halways
      simp [halways, Shape.parts] at hp
    rw [← shapeOf_of_shape rfl hne] at hp
    exact (ht.of_mem_parts p hp).trim.normalize.trim
  induction t using ofText.induct with
  | case1 t hshape =>
      rw [ofText_of_always hshape] at hmem
      cases hmem
  | case2 t rest hshape _ ih =>
      rw [ofText_of_denial hshape] at hmem
      exact ih (hparts t h rest (by simp [hshape, Shape.parts])) hmem
  | case3 t parts hshape ih =>
      rw [ofText_of_anyOf hshape] at hmem
      obtain ⟨c, hc, hsingle⟩ := mem_tests_chain (fun _ _ => rfl) hmem
      obtain ⟨part, hpart, rfl⟩ := List.mem_map.mp hc
      exact ih ⟨part, hpart⟩ (hparts t h part (by simp [hshape, Shape.parts, hpart])) hsingle
  | case4 t parts hshape ih =>
      rw [ofText_of_allOf hshape] at hmem
      obtain ⟨c, hc, hsingle⟩ := mem_tests_chain (fun _ _ => rfl) hmem
      obtain ⟨part, hpart, rfl⟩ := List.mem_map.mp hc
      exact ih ⟨part, hpart⟩ (hparts t h part (by simp [hshape, Shape.parts, hpart])) hsingle
  | case5 t test hshape =>
      rw [ofText_of_test hshape] at hmem
      obtain rfl : single = test := by simpa [tests] using hmem
      exact h.isAnswered (trim_trim _) (shapeOf_of_shape hshape (by simp))

/-! ## Whole conditions -/

/-- The condition is a row of parts: no connective and no negation has nothing behind it, and no
keyword operator stands at an end. -/
structure IsRegular (c : Text) : Prop where
  /-- Between connectives there is always something. -/
  filled : ∀ part ∈ splitBy widthConnective (normalize c), isBlankText part = false
  /-- It is not another connective. -/
  opens : ∀ part ∈ splitBy widthConnective (normalize c), ∀ k : Connective, ¬ k.Opens part
  /-- What is denied is there. -/
  denials : ∀ part ∈ splitBy widthConnective (normalize c), core part ≠ "NOT".toList
  /-- No keyword operator stands at a blank end of the condition. -/
  edges : trim (normalize c) = normalize (trim c)

/-- The names that are counted before reserved words are taken out. -/
def counted (c : Text) : List Text :=
  (splitBy widthConnective (normalize c)).flatMap fun part => candidates (core part)

theorem mem_references {c n : Text} : n ∈ references c ↔ n ∈ counted c ∧ n ∉ reserved := by
  rw [references, Formula.mem_distinct, List.mem_filter]
  simp [counted, core]

/-- A regular condition is a row of its parts. -/
theorem IsRegular.covered {c : Text} (h : IsRegular c)
    (hquantified : ∀ part ∈ splitBy widthConnective (normalize c),
      hasStart "STARTS_WITH".toList (core part) = true → quantified) :
    Covered quantified (counted c) (trim (normalize (trim c))) := by
  obtain ⟨ys, hrow⟩ := isRow_of_splitBy fun p hp => ⟨h.filled p hp, h.opens p hp⟩
  have hcores := hrow.map_core_splitBy
  have hcovered : Covered quantified (counted c) (normalize c) := by
    refine ⟨settled_normalize c, ys, hrow, ?_⟩
    rw [← hcores, List.forall_mem_map]
    exact fun part hpart => ⟨h.denials part hpart, hquantified part hpart, fun n hn =>
      List.mem_flatMap.mpr ⟨part, hpart, hn⟩⟩
  have htrim := hcovered.trim.trim
  rwa [h.edges] at htrim

end Questionnaire.Condition
