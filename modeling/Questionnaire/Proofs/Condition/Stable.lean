import Questionnaire.Proofs.Condition.Negation

/-!
# Conditions that read alike wherever they stand

A condition without connectives is stable (`IsStable`) if the blanks around it
make no keyword operator of its first or last word, and none of its keyword
operators takes a blank from another one. Writing its keyword operators as
symbols, which is done once for every row that it stands in, then changes nothing
about it. Of stable conditions rows can be made, and rows of such rows (`Row`),
and each holds as its parts hold on their own (`Row.evaluate_eq`).
-/

namespace Questionnaire.Condition

open Text

/-! ## Blanks behind a condition -/

/-- The last word of the text is a keyword operator. -/
def EndsWithOperator (t : Text) : Prop :=
  ∃ keyword ∈ keywords, ∃ before, t = before ++ keyword.1 ∧ before.getLast?.all isBlank = true

/-- Blanks behind a text stay behind it, where they make no keyword operator of its end. -/
theorem normalize_append_blank_of_not_ends {s b : Text} (hb : isBlankText b = true)
    (hs : ∀ c, s.getLast? = some c → isBlank c = false) (h : ¬ EndsWithOperator s) :
    normalize (s ++ b) = normalize s ++ b := by
  obtain ⟨r, w, rfl, hw, hr⟩ := exists_last_word s
  by_cases hne : w = []
  · obtain rfl : r = [] := by
      rw [hne, List.append_nil] at hs
      rcases List.eq_nil_or_concat r with hnil | ⟨r, c, rfl⟩
      · exact hnil
      · rw [List.concat_eq_append, List.getLast?_concat] at hr hs
        rw [Option.all_some, hs c rfl] at hr
        cases hr
    rw [hne]
    exact normalize_of_isBlankText hb
  · have hkeyword : ∀ keyword ∈ keywords, keyword.1 ≠ w := by
      rintro keyword hk rfl
      exact h ⟨keyword, hk, r, rfl, hr⟩
    have hapart : ∀ b : Text, isBlankText b = true → IsApart w r b := fun b hb =>
      .inr ⟨hkeyword, hr, head?_all_of_isBlankText hb⟩
    have hhere := normalize_append_sign hne hw (hapart [] rfl)
    rw [normalize_append_sign hne hw (hapart b hb), normalize_of_isBlankText hb]
    rw [List.append_nil, normalize_of_isBlankText (b := []) rfl, List.append_nil] at hhere
    rw [hhere]

/-! ## Stable conditions -/

/-- A condition without connectives that reads alike wherever it stands. -/
structure IsStable (t : Text) : Prop where
  /-- It is a leaf. -/
  leaf : IsLeaf t
  /-- It is read once. -/
  readsOnce : ReadsOnce t
  /-- A blank behind it makes no keyword operator of its end. -/
  ends : ¬ EndsWithOperator (trim t)

theorem ReadsOnce.congr_trim {t u : Text} (h : ReadsOnce t) (heq : trim u = trim t) :
    ReadsOnce u :=
  ⟨heq ▸ h.begins, heq ▸ h.doubled⟩

theorem IsStable.trimLeft {t : Text} (h : IsStable t) : IsStable (trimLeft t) :=
  ⟨h.leaf.trimLeft, h.readsOnce.congr_trim (trim_trimLeft t), trim_trimLeft t ▸ h.ends⟩

theorem IsStable.trimRight {t : Text} (h : IsStable t) : IsStable (trimRight t) :=
  ⟨h.leaf.trimRight, h.readsOnce.congr_trim (trim_trimRight t), trim_trimRight t ▸ h.ends⟩

/-- Blanks behind a text make no keyword operator of its beginning if they make none of its
end. -/
theorem not_beginsWithOperator_append {s b : Text} (hb : isBlankText b = true)
    (hbegins : ¬ BeginsWithOperator s) (hends : ¬ EndsWithOperator s) :
    ¬ BeginsWithOperator (s ++ b) := by
  rintro ⟨keyword, hk, rest, heq, hrest⟩
  rcases List.append_eq_append_iff.mp heq with ⟨m, hm, rfl⟩ | ⟨m, rfl, rfl⟩
  · -- The keyword operator is the whole text: there are no blanks in it.
    cases m with
    | nil => exact hends ⟨keyword, hk, [], by simpa using hm.symm, rfl⟩
    | cons c m =>
        rw [List.cons_append, isBlankText, List.all_cons,
          isBlank_of_mem_keyword hk (hm ▸ by simp)] at hb
        cases hb
  · by_cases hnil : m = []
    · exact hends ⟨keyword, hk, [], by simp [hnil], rfl⟩
    · rw [head?_append_of_ne_nil hnil] at hrest
      exact hbegins ⟨keyword, hk, m, rfl, hrest⟩

/-- Keyword operators of a stable condition are the same with and without blanks around it. -/
theorem IsStable.trim_normalize {t : Text} (h : IsStable t) :
    trim (normalize t) = normalize (trim t) := by
  obtain ⟨before, after, hsplit, hbefore, hafter, hhead, hlast⟩ := trim_spec t
  have hne : trim t ≠ [] := by
    intro hnil
    have hblank := h.leaf.notBlank
    rw [← isBlankText_trim, hnil] at hblank
    cases hblank
  have hbegins := not_beginsWithOperator_append hafter h.readsOnce.begins h.ends
  have htrimmed := (isTrimmed_trim t).normalize
  have hwritten : normalize t = before ++ (normalize (trim t) ++ after) := by
    conv => lhs; rw [hsplit, List.append_assoc]
    rw [normalize_blank_append_of_not_begins hbefore ?_ hbegins,
      normalize_append_blank_of_not_ends hafter hlast h.ends]
    intro c hc
    rw [head?_append_of_ne_nil hne] at hc
    exact hhead c hc
  rw [hwritten, trim, trimLeft_append_of_blank hbefore, ← trim,
    trim_append_blank _ hafter, trim_eq_self htrimmed.1 htrimmed.2]

theorem BeginsWithOperator.of_normalize {t : Text} (h : BeginsWithOperator (normalize t)) :
    BeginsWithOperator t := by
  obtain ⟨keyword, hk, rest, heq, hrest⟩ := h
  obtain ⟨b, a, rfl, hb, ha⟩ := occurs_normalize (ne_nil_of_mem_keywords hk)
    (isWordlike_of_mem_keywords hk) (show normalize t = [] ++ keyword.1 ++ rest from heq)
  obtain rfl := hb.eq_nil
  exact ⟨keyword, hk, a, rfl, ha.head.symm.trans hrest⟩

theorem EndsWithOperator.of_normalize {t : Text} (h : EndsWithOperator (normalize t)) :
    EndsWithOperator t := by
  obtain ⟨keyword, hk, before, heq, hbefore⟩ := h
  rw [← List.append_nil (before ++ _)] at heq
  obtain ⟨b, a, rfl, hb, ha⟩ := occurs_normalize (ne_nil_of_mem_keywords hk)
    (isWordlike_of_mem_keywords hk) heq
  obtain rfl := ha.eq_nil
  exact ⟨keyword, hk, b, by simp, hb.last_all.symm.trans hbefore⟩

theorem Doubled.of_normalize {keyword : Text × Relation} (hk : keyword ∈ keywords) {t : Text}
    (h : Doubled keyword.1 (normalize t)) : Doubled keyword.1 t := by
  refine normalize_induction (P := fun u => Doubled keyword.1 u → Doubled keyword.1 t) id ?_ h
  intro other ho u hu hdoubled
  exact hu (hdoubled.of_replaceBy ho (ne_nil_of_mem_keywords hk) (isWordlike_of_mem_keywords hk))

theorem IsStable.normalize {t : Text} (h : IsStable t) : IsStable (normalize t) := by
  refine ⟨h.leaf.normalize, ⟨?_, fun keyword hk => ?_⟩, ?_⟩
  · rw [h.trim_normalize]
    exact mt BeginsWithOperator.of_normalize h.readsOnce.begins
  · rw [h.trim_normalize]
    exact mt (Doubled.of_normalize hk) (h.readsOnce.doubled keyword hk)
  · rw [h.trim_normalize]
    exact mt EndsWithOperator.of_normalize h.ends

/-- **A stable condition** has the same outermost pattern with its keyword operators written as
symbols. -/
theorem IsStable.shape_normalize {t : Text} (h : IsStable t) :
    shape (Condition.normalize t) = shape t := by
  rw [← shape_trim, h.trim_normalize]
  exact h.readsOnce.shape_normalize h.leaf.notBlank

/-- A condition is stable if a condition word that stands alone in it is a keyword operator with
something on both sides, and it is not there again. -/
theorem isStable_of_words {t : Text} (hblank : isBlankText t = false)
    (hmarks : ∀ k : Connective, ∀ c ∈ k.mark, c ∉ t)
    (h : ∀ word ∈ conditionWords, ∀ before after, t = before ++ word ++ after →
      before.getLast?.all isBlank = true → after.head?.all isBlank = true →
      word ∈ keywords.map Prod.fst ∧ isBlankText before = false ∧ isBlankText after = false ∧
        ¬ StandsAlone word after) : IsStable t := by
  have hkeyword : ∀ keyword ∈ keywords, keyword.1 ∈ conditionWords := fun keyword hk =>
    List.mem_append_left _ (List.mem_map_of_mem hk)
  obtain ⟨lead, tail, hsplit, hlead, htail, -, -⟩ := trim_spec t
  refine ⟨⟨hblank, ?_, ?_⟩, ⟨?_, ?_⟩, ?_⟩
  · rintro k (⟨before, after, heq, hbefore, hafter⟩ | ⟨before, after, heq⟩)
    · have hword : k.word ∈ conditionWords ∧ k.word ∉ keywords.map Prod.fst := by
        cases k <;> decide
      exact hword.2 (h _ hword.1 before after heq hbefore hafter).1
    · obtain ⟨d, hmark, -⟩ := k.mark_eq
      exact hmarks k d (by simp [hmark]) (by simp [← heq, hmark])
  · rintro ⟨before, after, heq, hbefore, hafter⟩
    have hword : "NOT".toList ∈ conditionWords ∧ "NOT".toList ∉ keywords.map Prod.fst := by
      decide
    exact hword.2 (h _ hword.1 before after heq (getLast?_all_of_isBlankText hbefore) hafter).1
  · rintro ⟨keyword, hk, rest, heq, hrest⟩
    have hfound := h _ (hkeyword keyword hk) lead (rest ++ tail)
      (by rw [hsplit, heq]; simp) (getLast?_all_of_isBlankText hlead) ?_
    · cases hfound.2.1.symm.trans hlead
    · have hne : rest ≠ [] := by
        rintro rfl
        simp at hrest
      rw [head?_append_of_ne_nil hne]
      exact all_isBlank_of_map hrest
  · rintro keyword hk ⟨before, gap, after, heq, hbefore, hgap, hgapblank, hafter⟩
    have hne : before ≠ [] := by
      rintro rfl
      simp at hbefore
    have hafter' : (after ++ tail).head?.all isBlank = true := by
      rw [head?_append_of_ne_nil (by rintro rfl; simp at hafter)]
      exact all_isBlank_of_map hafter
    have hfound := h _ (hkeyword keyword hk) (lead ++ before)
      (gap ++ keyword.1 ++ (after ++ tail)) (by rw [hsplit, heq]; simp) ?_ ?_
    · exact hfound.2.2.2 ⟨gap, after ++ tail, rfl, getLast?_all_of_isBlankText hgapblank, hafter'⟩
    · rw [getLast?_append_of_ne_nil _ hne]
      exact all_isBlank_of_map hbefore
    · rw [List.append_assoc, head?_append_of_ne_nil hgap]
      exact head?_all_of_isBlankText hgapblank
  · rintro ⟨keyword, hk, before, heq, hbefore⟩
    have hfound := h _ (hkeyword keyword hk) (lead ++ before) tail
      (by rw [hsplit, heq]; simp) ?_ (head?_all_of_isBlankText htail)
    · cases hfound.2.2.1.symm.trans htail
    · cases before with
      | nil =>
          rw [List.append_nil]
          exact getLast?_all_of_isBlankText hlead
      | cons c before => rwa [getLast?_append_of_ne_nil _ (by simp)]

/-! ## Words on the two sides of a sign -/

/-- The sign may stand between the texts: it has no word characters, or a blank or nothing is on
either side of it. -/
def IsSign (z p s : Text) : Prop :=
  z ≠ [] ∧ (∀ c ∈ z, isBlank c = false) ∧
    ((∀ c ∈ z, isWord c = false) ∨ p.getLast?.all isBlank = true ∧ s.head?.all isBlank = true)

/-- **A word that stands alone** stands on one side of a sign, or it is the sign. -/
theorem IsSign.side {z p s word before after : Text} (hz : IsSign z p s)
    (hword : isBareWord word = true) (h : before ++ word ++ after = p ++ z ++ s)
    (hbefore : before.getLast?.all isBlank = true) (hafter : after.head?.all isBlank = true) :
    (∃ m, p = before ++ word ++ m ∧ m.head?.all isBlank = true) ∨
      (∃ m, s = m ++ word ++ after ∧ before = p ++ z ++ m ∧ m.getLast?.all isBlank = true) ∨
        (before = p ∧ word = z ∧ after = s) := by
  obtain ⟨hne, hword⟩ := isBareWord_iff.mp hword
  obtain ⟨hzne, hzblank, hsign⟩ := hz
  have hsides : (∃ m, p = before ++ word ++ m ∧ after = m ++ z ++ s) ∨
      (∃ m, s = m ++ word ++ after ∧ before = p ++ z ++ m) ∨
        (before = p ∧ word = z ∧ after = s) := by
    rcases hsign with hmark | ⟨hp, hs⟩
    · have hapart : ∀ c ∈ word, c ∉ z := by
        intro c hc hmem
        have := hmark c hmem
        rw [hword c hc] at this
        cases this
      rcases append_eq_append_apart hne hzne hapart h with hleft | hright
      · exact .inl hleft
      · exact .inr (.inl hright)
    · exact append_eq_append_words hne hzne (fun c hc => isBlank_of_isWord (hword c hc)) hzblank
        hbefore hafter hp hs h
  rcases hsides with ⟨m, hp, rfl⟩ | ⟨m, hs, rfl⟩ | hsame
  · refine .inl ⟨m, hp, ?_⟩
    cases m with
    | nil => rfl
    | cons c m => simpa using hafter
  · refine .inr (.inl ⟨m, hs, rfl, ?_⟩)
    by_cases hm : m = []
    · rw [hm]
      rfl
    · rwa [getLast?_append_of_ne_nil _ hm] at hbefore
  · exact .inr (.inr hsame)

theorem Connective.Meets.isSign {k : Connective} {z : Spelling} {p s : Text}
    (h : k.Meets z p s) : IsSign (k.sign z) p s := by
  refine ⟨k.sign_ne_nil z, fun c hc => ?_, ?_⟩
  · have hall : ∀ k : Connective, (k.sign z).all (fun c => !isBlank c) = true := by
      intro k
      cases k <;> cases z <;> decide
    simpa using List.all_eq_true.mp (hall k) c hc
  · cases z with
    | word => exact .inr ⟨all_isBlank_of_map h.1, all_isBlank_of_map h.2⟩
    | mark =>
        have hall : k.mark.all (fun c => !isWord c) = true := by
          cases k <;> decide
        exact .inl fun c hc => by simpa using List.all_eq_true.mp hall c hc

/-! ## Rows -/

/-- Conditions of which rows can be made with the connective: they are no such rows themselves
nor of a looser connective, and trimming them or writing their keyword operators as symbols, they
stay such conditions and hold alike. -/
structure IsSteady (k : Connective) (P : Text → Prop) : Prop where
  notBlank {t : Text} : P t → isBlankText t = false
  notDenies {t : Text} : P t → ¬ Denies t
  notJoins {t : Text} : P t → ¬ k.Joins t
  /-- OR is looser than AND. -/
  precedence {t : Text} : k = .and → P t → ¬ Connective.or.Joins t
  trimLeft {t : Text} : P t → P (trimLeft t)
  trimRight {t : Text} : P t → P (trimRight t)
  normalize {t : Text} : P t → P (normalize t)
  evaluate_normalize {t : Text} : P t → evaluate (Condition.normalize t) = evaluate t

theorem isSteady_isStable : IsSteady .and IsStable :=
  { notBlank := fun h => h.leaf.notBlank
    notDenies := fun h => h.leaf.notDenies
    notJoins := fun h => h.leaf.notJoins .and
    precedence := fun _ h => h.leaf.notJoins .or
    trimLeft := IsStable.trimLeft
    trimRight := IsStable.trimRight
    normalize := IsStable.normalize
    evaluate_normalize := fun h => funext fun _ => evaluate_congr_shape h.shape_normalize }

theorem evaluate_trimLeft (t : Text) : evaluate (trimLeft t) = evaluate t := by
  funext scope
  rw [← evaluate_trim, trim_trimLeft, evaluate_trim]

/-- A row of conditions joined by the connective, with what each of them says on its own. -/
inductive Row (k : Connective) (P : Text → Prop) : List (Scope → Bool) → Text → Prop
  | last {t : Text} : P t → Row k P [evaluate t] t
  | cons {p s : Text} {z : Spelling} {values : List (Scope → Bool)} : P p → k.Meets z p s →
    Row k P values s → Row k P (evaluate p :: values) (p ++ k.sign z ++ s)

/-- What conditions joined by the connective say together. -/
def Connective.combine (k : Connective) (values : List (Scope → Bool)) (scope : Scope) : Bool :=
  match k with
  | .or => values.any fun value => value scope
  | .and => values.all fun value => value scope

namespace Row

variable {k : Connective} {P : Text → Prop} {values : List (Scope → Bool)} {t : Text}

theorem notBlank (hP : IsSteady k P) (h : Row k P values t) : isBlankText t = false := by
  cases h with
  | last hp => exact hP.notBlank hp
  | cons hp =>
      rw [isBlankText_append, isBlankText_append, hP.notBlank hp]
      rfl

theorem trimLeft (hP : IsSteady k P) (h : Row k P values t) : Row k P values (trimLeft t) := by
  cases h with
  | last hp =>
      rw [← evaluate_trimLeft]
      exact .last (hP.trimLeft hp)
  | cons hp hmeets hs =>
      have hblank := hP.notBlank hp
      rw [List.append_assoc, trimLeft_append_of_not_blank hblank, ← List.append_assoc,
        ← evaluate_trimLeft]
      exact .cons (hP.trimLeft hp) (hmeets.trimLeft hblank) hs

theorem trimRight (hP : IsSteady k P) (h : Row k P values t) : Row k P values (trimRight t) := by
  induction h with
  | @last t hp =>
      have hvalue : evaluate (Text.trimRight t) = evaluate t := funext (evaluate_trimRight t)
      rw [← hvalue]
      exact .last (hP.trimRight hp)
  | cons hp hmeets hs ih =>
      have hblank := hs.notBlank hP
      rw [trimRight_append_of_not_blank _ hblank]
      exact .cons hp (hmeets.trimRight hblank) ih

theorem normalize (hP : IsSteady k P) (h : Row k P values t) : Row k P values (normalize t) := by
  induction h with
  | last hp =>
      rw [← hP.evaluate_normalize hp]
      exact .last (hP.normalize hp)
  | cons hp hmeets _ ih =>
      rw [Connective.normalize_sign hmeets, ← hP.evaluate_normalize hp]
      exact .cons (hP.normalize hp) hmeets.normalize ih

/-- What the outermost pattern of a row is looked for in is a row of the same. -/
theorem read (hP : IsSteady k P) (h : Row k P values t) :
    Row k P values (trim (Condition.normalize (trim t))) :=
  ((((h.trimLeft hP).trimRight hP).normalize hP).trimLeft hP).trimRight hP

/-- Cutting a row gives conditions that say what its own say. -/
theorem map_evaluate_splitBy (hP : IsSteady k P) (h : Row k P values t) :
    ((splitBy k.width t).map trim).map evaluate = values ∧
      ∀ p ∈ (splitBy k.width t).map trim, p.isEmpty = false := by
  have htrim : ∀ t, evaluate (trim t) = evaluate t := fun t => funext (evaluate_trim t)
  have hfilled : ∀ t, isBlankText t = false → (trim t).isEmpty = false := by
    intro t ht
    rw [List.isEmpty_eq_false_iff]
    intro hnil
    rw [← isBlankText_trim, hnil] at ht
    cases ht
  induction values generalizing t with
  | nil => cases h
  | cons value values ih =>
      cases h with
      | last hp =>
          rw [Connective.splitBy_of_not_splits (mt Connective.Splits.joins (hP.notJoins hp))]
          simpa [htrim] using hfilled t (hP.notBlank hp)
      | @cons p s z _ hp hmeets hs =>
          have hblank := hP.notBlank hp
          obtain ⟨hvalues, hempty⟩ := ih (hs.trimLeft hP)
          rw [Connective.splitBy_sign hblank (mt Connective.Splits.joins (hP.notJoins hp)) hmeets,
            List.map_cons, List.map_cons, hvalues, htrim, trim_trimRight]
          refine ⟨?_, List.forall_mem_cons.mpr ⟨hfilled p hblank, hempty⟩⟩
          rw [show evaluate (Text.trimRight p) = evaluate p from funext (evaluate_trimRight p)]

/-- A NOT before a row is one before its first condition. -/
theorem notDenies (hP : IsSteady k P) (h : Row k P values t) : ¬ Denies t := by
  cases h with
  | last hp => exact hP.notDenies hp
  | @cons p s z _ hp hmeets _ =>
      rintro ⟨before, after, heq, hbefore, hafter⟩
      have hother : "NOT".toList ≠ k.sign z := by
        cases k <;> cases z <;> decide
      rcases hmeets.isSign.side (by decide) heq.symm (getLast?_all_of_isBlankText hbefore) hafter
        with ⟨m, rfl, hm⟩ | ⟨m, -, rfl, -⟩ | ⟨-, hsame, -⟩
      · exact hP.notDenies hp ⟨before, m, rfl, hbefore, hm⟩
      · rw [isBlankText_append, isBlankText_append, hP.notBlank hp] at hbefore
        cases hbefore
      · exact hother hsame

/-- A row of one connective is none of another one, if its conditions are not. -/
theorem notJoins {j : Connective} (hne : j ≠ k) (hP : ∀ {p}, P p → ¬ j.Joins p)
    (h : Row k P values t) : ¬ j.Joins t := by
  induction h with
  | last hp => exact hP hp
  | @cons p s z _ hp hmeets _ ih =>
      rintro (⟨before, after, heq, hbefore, hafter⟩ | ⟨before, after, heq⟩)
      · have hword : isBareWord j.word = true := by
          cases j <;> decide
        have hother : j.word ≠ k.sign z := by
          revert hne
          cases j <;> cases k <;> cases z <;> decide
        rcases hmeets.isSign.side hword heq.symm hbefore hafter with
          ⟨m, rfl, hm⟩ | ⟨m, rfl, -, hm⟩ | ⟨-, hsame, -⟩
        · exact hP hp (.inl ⟨before, m, rfl, hbefore, hm⟩)
        · exact ih (.inl ⟨m, after, rfl, hm, hafter⟩)
        · exact hother hsame
      · have hapart : ∀ c ∈ j.mark, c ∉ k.sign z := by
          have hall : j.mark.all (fun c => !(k.sign z).contains c) = true := by
            revert hne
            cases j <;> cases k <;> cases z <;> decide
          intro c hc hmem
          have := List.all_eq_true.mp hall c hc
          simp [hmem] at this
        rcases append_eq_append_apart (j.sign_ne_nil .mark) (k.sign_ne_nil z) hapart heq with
          ⟨m, rfl, -⟩ | ⟨m, rfl, -⟩
        · exact hP hp (.inr ⟨before, m, rfl⟩)
        · exact ih (.inr ⟨m, after, rfl⟩)

/-- The outermost pattern of a row of several conditions. -/
theorem shapeOf_eq (hP : IsSteady k P) (h : Row k P values t) (hseveral : 2 ≤ values.length) :
    Condition.shapeOf t = k.shapeOf ((splitBy k.width t).map trim) := by
  obtain ⟨hvalues, hfilled⟩ := h.map_evaluate_splitBy hP
  have hcount : 2 ≤ ((splitBy k.width t).map trim).length := by
    rwa [← hvalues, List.length_map] at hseveral
  have hpieces := Connective.pieces?_eq_some rfl hcount
  have hnone : ((splitBy k.width t).map trim).any List.isEmpty = false := by
    rw [List.any_eq_false]
    exact fun p hp => by simp [hfilled p hp]
  rw [Condition.shapeOf, after?_eq_none_of_not_denies (h.notDenies hP)]
  cases k with
  | or =>
      rw [show pieces? widthOr t = _ from hpieces]
      simp only [hnone, Connective.shapeOf]
      rfl
  | and =>
      have hor : ¬ Connective.or.Joins t := h.notJoins (by decide) (hP.precedence rfl)
      have hor' : pieces? widthOr t = none :=
        pieces?_of_no_match (Connective.width_eq_zero (k := .or) (mt Connective.Splits.joins hor))
      rw [hor', show pieces? widthAnd t = _ from hpieces]
      simp only [hnone, Connective.shapeOf]
      rfl

/-- **A row holds** as its conditions hold on their own. -/
theorem evaluate_eq (hP : IsSteady k P) (h : Row k P values t) : evaluate t = k.combine values := by
  funext scope
  by_cases hseveral : 2 ≤ values.length
  · have hread := h.read hP
    have hvalues := (hread.map_evaluate_splitBy hP).1
    have hshape := (shape_of_not_blank (h.notBlank hP)).trans (hread.shapeOf_eq hP hseveral)
    cases k with
    | or =>
        rw [evaluate_of_shape_anyOf hshape, ← hvalues]
        simp only [Connective.combine, List.any_map]
        rfl
    | and =>
        rw [evaluate_of_shape_allOf hshape, ← hvalues]
        simp only [Connective.combine, List.all_map]
        rfl
  · cases h with
    | last => cases k <;> simp [Connective.combine]
    | cons _ _ hs =>
        cases hs <;> simp at hseveral

/-- Rows of a connective may stand in rows of a looser one. -/
theorem isSteady (hP : IsSteady .and P) (hloose : ∀ {t}, P t → ¬ Connective.or.Joins t) :
    IsSteady .or fun t => ∃ values, Row .and P values t :=
  { notBlank := fun ⟨_, h⟩ => h.notBlank hP
    notDenies := fun ⟨_, h⟩ => h.notDenies hP
    notJoins := fun ⟨_, h⟩ => h.notJoins (by decide) hloose
    precedence := by simp
    trimLeft := fun ⟨values, h⟩ => ⟨values, h.trimLeft hP⟩
    trimRight := fun ⟨values, h⟩ => ⟨values, h.trimRight hP⟩
    normalize := fun ⟨values, h⟩ => ⟨values, h.normalize hP⟩
    evaluate_normalize := fun ⟨_, h⟩ =>
      ((h.normalize hP).evaluate_eq hP).trans (h.evaluate_eq hP).symm }

end Row

end Questionnaire.Condition
