import Questionnaire.Proofs.Condition.Signs

/-!
# Keyword operators written as symbols

What `normalize` does to a condition with connectives. It leaves the blanks at
the edges as they are (`SameBlanks`), it makes no connective and no NOT
(`Joins.of_normalize`, `Denies.of_normalize`), and in a row it goes condition by
condition (`normalize_row`).
-/

namespace Questionnaire.Condition

open Text

/-- The condition begins with the word NOT. -/
def Denies (t : Text) : Prop :=
  ∃ before after, t = before ++ "NOT".toList ++ after ∧ isBlankText before = true ∧
    after.head?.all isBlank = true

theorem denies_iff {t : Text} : Denies t ↔ hasStart "NOT".toList (trimLeft t) = true ∧
    ((trimLeft t).drop "NOT".toList.length).head?.all isBlank = true := by
  have hword : ∀ s : Text, trimLeft ("NOT".toList ++ s) = "NOT".toList ++ s :=
    fun s => trimLeft_eq_self_of_head (by simp [isBlank])
  constructor
  · rintro ⟨before, after, rfl, hbefore, hafter⟩
    rw [List.append_assoc, trimLeft_append_of_blank hbefore, hword, List.drop_left, hasStart_iff]
    exact ⟨List.prefix_append _ _, hafter⟩
  · rintro ⟨hstart, hafter⟩
    obtain ⟨before, hsplit, hbefore, _⟩ := trimLeft_spec t
    obtain ⟨after, hrest⟩ := hasStart_iff.mp hstart
    rw [← hrest, List.drop_left] at hafter
    exact ⟨before, after, by rw [List.append_assoc, hrest, ← hsplit], hbefore, hafter⟩

instance (t : Text) : Decidable (Denies t) := decidable_of_iff' _ denies_iff

/-! ## Blanks at the edges -/

/-- The two texts are blank or not, and begin and end with blanks or not, as each other. -/
structure SameBlanks (t u : Text) : Prop where
  blank : isBlankText u = isBlankText t
  head : u.head?.map isBlank = t.head?.map isBlank
  last : u.getLast?.map isBlank = t.getLast?.map isBlank

theorem SameBlanks.refl (t : Text) : SameBlanks t t := ⟨rfl, rfl, rfl⟩

theorem SameBlanks.trans {t u v : Text} (h : SameBlanks t u) (h' : SameBlanks u v) :
    SameBlanks t v :=
  ⟨h'.blank.trans h.blank, h'.head.trans h.head, h'.last.trans h.last⟩

theorem SameBlanks.head_all {t u : Text} (h : SameBlanks t u) :
    u.head?.all isBlank = t.head?.all isBlank := by
  rw [all_isBlank_eq, h.head, ← all_isBlank_eq]

theorem SameBlanks.last_all {t u : Text} (h : SameBlanks t u) :
    u.getLast?.all isBlank = t.getLast?.all isBlank := by
  rw [all_isBlank_eq, h.last, ← all_isBlank_eq]

theorem SameBlanks.eq_nil {t : Text} (h : SameBlanks t []) : t = [] := by
  have := h.head
  cases t with
  | nil => rfl
  | cons c t => simp at this

/-! ## The characters of keyword operators and symbols -/

theorem isBlank_of_mem_keyword {keyword : Text × Relation} (h : keyword ∈ keywords) {c : Char}
    (hc : c ∈ keyword.1) : isBlank c = false := by
  have hall : keywords.all (fun keyword => keyword.1.all fun c => !isBlank c) = true := by decide
  simpa using List.all_eq_true.mp (List.all_eq_true.mp hall keyword h) c hc

theorem ne_nil_of_mem_keywords {keyword : Text × Relation} (h : keyword ∈ keywords) :
    keyword.1 ≠ [] := by
  have hall : keywords.all (fun keyword => !keyword.1.isEmpty) = true := by decide
  simpa using List.all_eq_true.mp hall keyword h

theorem isBlankText_keyword {keyword : Text × Relation} (h : keyword ∈ keywords) :
    isBlankText keyword.1 = false :=
  not_isBlankText_of_ne_nil (ne_nil_of_mem_keywords h) fun _ => isBlank_of_mem_keyword h

theorem isBlankText_symbol (relation : Relation) : isBlankText relation.symbol = false := by
  cases relation <;> decide

theorem rewrites_spaced (keyword : Text × Relation) (t : Text) :
    Rewrites keyword.1 keyword.2.symbol t
      (replaceBy (widthSpaced keyword.1) (spaced keyword.2) t) :=
  rewrites_replaceBy keyword.1 keyword.2.symbol t

theorem sameBlanks_of_rewrites {keyword : Text × Relation} (h : keyword ∈ keywords) {t u : Text}
    (hrewrites : Rewrites keyword.1 keyword.2.symbol t u) : SameBlanks t u :=
  ⟨hrewrites.isBlankText_eq (isBlankText_keyword h) (isBlankText_symbol _),
    hrewrites.head?_eq, hrewrites.getLast?_eq⟩

/-! ## One keyword after the other -/

/-- The text with the given keyword operators written as symbols. -/
def writeSymbols (operators : List (Text × Relation)) (t : Text) : Text :=
  operators.foldl (fun t keyword => replaceBy (widthSpaced keyword.1) (spaced keyword.2) t) t

theorem writeSymbols_cons (keyword : Text × Relation) (operators : List (Text × Relation))
    (t : Text) : writeSymbols (keyword :: operators) t
      = writeSymbols operators (replaceBy (widthSpaced keyword.1) (spaced keyword.2) t) := rfl

/-- What writing one keyword operator as its symbol preserves, writing all of them does. -/
theorem normalize_induction {P : Text → Prop} {t : Text} (h : P t)
    (hstep : ∀ keyword ∈ keywords, ∀ t, P t →
      P (replaceBy (widthSpaced keyword.1) (spaced keyword.2) t)) : P (normalize t) := by
  have hgen : ∀ operators : List (Text × Relation), (∀ keyword ∈ operators, keyword ∈ keywords) →
      ∀ t, P t → P (writeSymbols operators t) := by
    intro operators
    induction operators with
    | nil => exact fun _ _ h => h
    | cons keyword operators ih =>
        intro hmem t ht
        exact ih (fun k hk => hmem k (List.mem_cons_of_mem _ hk)) _
          (hstep keyword (hmem keyword List.mem_cons_self) t ht)
  exact hgen keywords (fun _ h => h) t h

theorem sameBlanks_normalize (t : Text) : SameBlanks t (normalize t) :=
  normalize_induction (P := SameBlanks t) (.refl t) fun keyword hk u h =>
    h.trans (sameBlanks_of_rewrites hk (rewrites_spaced keyword u))

/-! ## What is not made -/

/-- The text has neither blanks nor characters of symbols in it. -/
def IsWordlike (x : Text) : Prop :=
  ∀ c ∈ x, isBlank c = false ∧ ∀ relation : Relation, c ∉ relation.symbol

theorem isWordlike_of_all {x : Text}
    (h : x.all (fun c => !isBlank c && relations.all fun relation =>
      !relation.symbol.contains c) = true) : IsWordlike x := by
  intro c hc
  have hall := List.all_eq_true.mp h c hc
  simp only [Bool.and_eq_true, Bool.not_eq_true'] at hall
  refine ⟨hall.1, fun relation hmem => ?_⟩
  have hrelation := List.all_eq_true.mp hall.2 relation (by cases relation <;> simp [relations])
  simp [hmem] at hrelation

theorem isWordlike_of_mem_keywords {keyword : Text × Relation} (h : keyword ∈ keywords) :
    IsWordlike keyword.1 := by
  have hall : keywords.all (fun keyword => keyword.1.all fun c => !isBlank c &&
    relations.all fun relation => !relation.symbol.contains c) = true := by decide
  exact isWordlike_of_all (List.all_eq_true.mp hall keyword h)

/-- What is no symbol was there before a keyword operator was written as one. -/
theorem occurs_of_isWordlike {keyword : Text × Relation} {t x before after : Text} (hne : x ≠ [])
    (hx : IsWordlike x) (h : Rewrites keyword.1 keyword.2.symbol t (before ++ x ++ after)) :
    ∃ b a, t = b ++ x ++ a ∧ Rewrites keyword.1 keyword.2.symbol b before ∧
      Rewrites keyword.1 keyword.2.symbol a after := by
  rcases h.occurs hne fun c hc => (hx c hc).1 with
    hfound | ⟨front, back, _, _, _, _, _, _, hsymbol, _⟩
  · exact hfound
  · obtain ⟨c, x, rfl⟩ := List.exists_cons_of_ne_nil hne
    exact absurd (by simp [hsymbol]) ((hx c List.mem_cons_self).2 keyword.2)

/-- What is no symbol stands where it stands after keyword operators are written as symbols
because it stood there before. -/
theorem occurs_normalize {t x before after : Text} (hne : x ≠ []) (hx : IsWordlike x)
    (h : normalize t = before ++ x ++ after) :
    ∃ b a, t = b ++ x ++ a ∧ SameBlanks b before ∧ SameBlanks a after := by
  refine normalize_induction (P := fun u => ∀ before after, u = before ++ x ++ after →
    ∃ b a, t = b ++ x ++ a ∧ SameBlanks b before ∧ SameBlanks a after) ?_ ?_ before after h
  · exact fun before after h => ⟨before, after, h, .refl _, .refl _⟩
  · intro keyword hk u ih before after hv
    obtain ⟨b, a, hu, hb, ha⟩ := occurs_of_isWordlike hne hx (hv ▸ rewrites_spaced keyword u)
    obtain ⟨b', a', ht, hb', ha'⟩ := ih b a hu
    exact ⟨b', a', ht, hb'.trans (sameBlanks_of_rewrites hk hb),
      ha'.trans (sameBlanks_of_rewrites hk ha)⟩

theorem Denies.of_normalize {t : Text} (h : Denies (normalize t)) : Denies t := by
  obtain ⟨before, after, hsplit, hbefore, hafter⟩ := h
  obtain ⟨b, a, ht, hb, ha⟩ := occurs_normalize (by simp) (isWordlike_of_all (by decide)) hsplit
  exact ⟨b, a, ht, hb.blank ▸ hbefore, ha.head_all.symm.trans hafter⟩

theorem Denies.of_trimLeft {t : Text} (h : Denies (trimLeft t)) : Denies t := by
  obtain ⟨before, after, hsplit, hbefore, hafter⟩ := h
  obtain ⟨lead, ht, hlead, _⟩ := trimLeft_spec t
  refine ⟨lead ++ before, after, by rw [ht, hsplit]; simp, ?_, hafter⟩
  rw [isBlankText_append, hbefore, Bool.and_true]
  exact hlead

theorem Denies.of_trimRight {t : Text} (h : Denies (trimRight t)) : Denies t := by
  obtain ⟨before, after, hsplit, hbefore, hafter⟩ := h
  obtain ⟨tail, ht, htail, _⟩ := trimRight_spec t
  refine ⟨before, after ++ tail, by rw [ht, hsplit]; simp, hbefore, ?_⟩
  cases after with
  | nil => exact head?_all_of_isBlankText htail
  | cons c after => exact hafter

namespace Connective

variable {k : Connective}

theorem isWordlike_word : IsWordlike k.word := isWordlike_of_all (by cases k <;> decide)

theorem isWordlike_mark : IsWordlike k.mark := isWordlike_of_all (by cases k <;> decide)

theorem Joins.of_normalize {t : Text} (h : k.Joins (normalize t)) : k.Joins t := by
  rcases h with ⟨before, after, hsplit, hbefore, hafter⟩ | ⟨before, after, hsplit⟩
  · obtain ⟨b, a, ht, hb, ha⟩ := occurs_normalize k.word_ne_nil isWordlike_word hsplit
    exact .inl ⟨b, a, ht, hb.last_all.symm.trans hbefore, ha.head_all.symm.trans hafter⟩
  · obtain ⟨d, hmark, _⟩ := k.mark_eq
    obtain ⟨b, a, ht, _⟩ := occurs_normalize (by simp [hmark]) isWordlike_mark hsplit.symm
    exact .inr ⟨b, a, ht.symm⟩

theorem Meets.normalize {z : Spelling} {p s : Text} (h : k.Meets z p s) :
    k.Meets z (normalize p) (normalize s) := by
  cases z with
  | word => exact ⟨(sameBlanks_normalize p).last.trans h.1, (sameBlanks_normalize s).head.trans h.2⟩
  | mark =>
      obtain ⟨d, hmark, _⟩ := k.mark_eq
      intro hlast
      rw [hmark, List.head?_cons, List.getLast?_eq_some_iff] at hlast
      obtain ⟨before, hlast⟩ := hlast
      have hd : IsWordlike [d] := fun c hc => isWordlike_mark (k := k) c (by simp_all)
      rw [← List.append_nil (before ++ [d])] at hlast
      obtain ⟨b, a, rfl, _, ha⟩ := occurs_normalize (by simp) hd hlast
      obtain rfl := ha.eq_nil
      exact h (by simp [hmark])

end Connective

/-! ## Piece by piece -/

/-- The sign between the two texts is not part of a keyword operator: it has a character that
none has, or it is another word that stands alone. -/
def IsApart (z p s : Text) : Prop :=
  (∃ d, z.head? = some d ∧ ∀ keyword ∈ keywords, d ∉ keyword.1) ∨
    (∀ keyword ∈ keywords, keyword.1 ≠ z) ∧ p.getLast?.all isBlank = true ∧
      s.head?.all isBlank = true

theorem IsApart.of_sameBlanks {z p s p' s' : Text} (h : IsApart z p s) (hp : SameBlanks p p')
    (hs : SameBlanks s s') : IsApart z p' s' := by
  rcases h with h | ⟨hne, hlast, hhead⟩
  · exact .inl h
  · exact .inr ⟨hne, hp.last_all.trans hlast, hs.head_all.trans hhead⟩

/-- **Keyword operators on both sides of a sign** are written as symbols each on its own. -/
theorem normalize_append_sign {z p s : Text} (hne : z ≠ []) (hz : ∀ c ∈ z, isBlank c = false)
    (h : IsApart z p s) : normalize (p ++ z ++ s) = normalize p ++ z ++ normalize s := by
  have hgen : ∀ operators : List (Text × Relation), (∀ keyword ∈ operators, keyword ∈ keywords) →
      ∀ p s, IsApart z p s → writeSymbols operators (p ++ z ++ s)
        = writeSymbols operators p ++ z ++ writeSymbols operators s := by
    intro operators
    induction operators with
    | nil => exact fun _ _ _ _ => rfl
    | cons keyword operators ih =>
        intro hmem p s h
        have hk := hmem keyword List.mem_cons_self
        have hwithin : EndsWithin keyword.1 p (z ++ s) := by
          rcases h with ⟨d, hd, hkeywords⟩ | ⟨hne, hlast, hhead⟩
          · refine endsWithin_of_not_mem (hz d (List.mem_of_head? hd)) (hkeywords _ hk) ?_
            rw [List.head?_append, hd]
            rfl
          · exact endsWithin_of_ne (fun c => isBlank_of_mem_keyword hk) hz (hne _ hk) hlast hhead
        have hrest := h.of_sameBlanks
          (sameBlanks_of_rewrites hk (rewrites_spaced keyword p))
          (sameBlanks_of_rewrites hk (rewrites_spaced keyword s))
        rw [writeSymbols_cons, replaceBy_append_sign _ hne hz hwithin]
        exact ih (fun k hk => hmem k (List.mem_cons_of_mem _ hk)) _ _ hrest
  exact hgen keywords (fun _ h => h) p s h

/-- A NOT is such a sign. -/
theorem normalize_append_not {lead t : Text} (hlead : isBlankText lead = true)
    (ht : t.head?.all isBlank = true) :
    normalize (lead ++ "NOT".toList ++ t) = normalize lead ++ "NOT".toList ++ normalize t := by
  have hapart : IsApart "NOT".toList lead t :=
    .inr ⟨by decide, getLast?_all_of_isBlankText hlead, ht⟩
  exact normalize_append_sign (by decide) (by simp [isBlank]) hapart

namespace Connective

variable {k : Connective}

theorem Meets.isApart {z : Spelling} {p s : Text} (h : k.Meets z p s) :
    IsApart (k.sign z) p s := by
  cases z with
  | word =>
      exact .inr ⟨by cases k <;> decide, all_isBlank_of_map h.1, all_isBlank_of_map h.2⟩
  | mark =>
      cases k with
      | or => exact .inl ⟨'|', by decide⟩
      | and => exact .inl ⟨'&', by decide⟩

theorem normalize_sign {z : Spelling} {p s : Text} (h : k.Meets z p s) :
    normalize (p ++ k.sign z ++ s) = normalize p ++ k.sign z ++ normalize s := by
  obtain ⟨d, hmark, hd, _⟩ := k.mark_eq
  refine normalize_append_sign ?_ ?_ h.isApart
  · cases z with
    | word => exact k.word_ne_nil
    | mark => simp [sign, hmark]
  · cases z with
    | word => exact fun c => k.isBlank_of_mem_word
    | mark => simp [sign, hmark, hd]

/-- Every condition of the row with its keyword operators written as symbols. -/
def normalized (pieces : List (Text × Spelling)) : List (Text × Spelling) :=
  pieces.map fun piece => (normalize piece.1, piece.2)

theorem normalize_row {pieces : List (Text × Spelling)} {last : Text}
    (h : k.Stands pieces last) :
    normalize (k.row pieces last) = k.row (normalized pieces) (normalize last) := by
  induction pieces with
  | nil => rfl
  | cons piece rest ih =>
      obtain ⟨p, z⟩ := piece
      rw [row, normalize_sign h.2.2.1, ih h.2.2.2]
      rfl

theorem Stands.normalize {pieces : List (Text × Spelling)} {last : Text}
    (h : k.Stands pieces last) : k.Stands (normalized pieces) (normalize last) := by
  induction pieces with
  | nil => trivial
  | cons piece rest ih =>
      obtain ⟨p, z⟩ := piece
      refine ⟨(sameBlanks_normalize p).blank.trans h.1, fun hjoins => h.2.1 hjoins.of_normalize,
        ?_, ih h.2.2.2⟩
      have hmeets := h.2.2.1.normalize
      rwa [normalize_row h.2.2.2] at hmeets

end Connective

end Questionnaire.Condition
