import Questionnaire.Proofs.Condition.Normalization
import Questionnaire.Proofs.Text.LowerCase
import Questionnaire.Proofs.Text.Visible

/-!
# Malformed conditions

A condition without connectives that is no test (`IsMalformed`): it has no
symbol and no keyword operator with something on both sides. That stays so
wherever it stands in a larger condition, where blanks around it can make
keyword operators of the words at its two ends (`IsBroken`). There is one
exception (`EndsOpen`): a last word GREATER_THAN_OR_EQUAL or LESS_THAN_OR_EQUAL
with a blank behind it becomes a symbol of which the first character alone is a
symbol too, and then the second is something on its right.
-/

namespace Questionnaire.Condition

open Text

/-! ## Comparisons -/

theorem relationAt?_eq_some {t right : Text} {relation : Relation}
    (h : relationAt? t = some (relation, right)) : t = relation.symbol ++ right ∧ right ≠ [] := by
  obtain ⟨tried, _, htried⟩ := List.exists_of_findSome?_eq_some h
  split at htried
  · rename_i c rest hafter
    cases htried
    exact ⟨after?_eq_some.mp hafter, by simp⟩
  · cases htried

theorem relationAt?_ne_none (relation : Relation) {right : Text} (h : right ≠ []) :
    relationAt? (relation.symbol ++ right) ≠ none := by
  obtain ⟨c, right, rfl⟩ := List.exists_cons_of_ne_nil h
  intro hnone
  have := List.findSome?_eq_none_iff.mp hnone relation (by cases relation <;> simp [relations])
  simp at this

/-- A comparison is found exactly where a symbol has something on both sides. -/
theorem find?_eq_none_iff {before t : Text} : Comparison.find? before t = none ↔
    ∀ (relation : Relation) (left right : Text), t = left ++ relation.symbol ++ right →
      before = [] ∧ left = [] ∨ right = [] := by
  induction t generalizing before with
  | nil =>
      have hsymbol : ∀ relation : Relation, relation.symbol ≠ [] := by
        intro relation
        cases relation <;> decide
      simp [Comparison.find?, hsymbol]
  | cons c t ih =>
      -- What stands further on is what is found from the next character on.
      have hnext : Comparison.find? (c :: before) t = none ↔
          ∀ (relation : Relation) (d : Char) (left right : Text),
            c :: t = d :: left ++ relation.symbol ++ right → right = [] := by
        rw [ih]
        constructor
        · intro h relation d left right hsplit
          simp only [List.cons_append, List.cons.injEq] at hsplit
          simpa using h relation left right hsplit.2
        · intro h relation left right hsplit
          exact .inr (h relation c left right (by simp [hsplit]))
      have hsplit : (∀ (relation : Relation) (left right : Text),
            c :: t = left ++ relation.symbol ++ right → before = [] ∧ left = [] ∨ right = []) ↔
          (∀ (relation : Relation) (right : Text), c :: t = relation.symbol ++ right →
            before = [] ∨ right = []) ∧
          ∀ (relation : Relation) (d : Char) (left right : Text),
            c :: t = d :: left ++ relation.symbol ++ right → right = [] := by
        constructor
        · refine fun h => ⟨fun relation right hright => ?_, fun relation d left right hright => ?_⟩
          · simpa using h relation [] right (by simpa using hright)
          · simpa using h relation (d :: left) right hright
        · rintro ⟨hhere, hbehind⟩ relation left right hright
          cases left with
          | nil => simpa using hhere relation right (by simpa using hright)
          | cons d left => exact .inr (hbehind relation d left right hright)
      rw [Comparison.find?, hsplit, ← hnext]
      by_cases hbefore : before = []
      · simp [hbefore]
      · simp only [List.isEmpty_iff, hbefore, if_false, false_or]
        cases hat : relationAt? (c :: t) with
        | none =>
            refine ⟨fun h => ⟨fun relation right hright => ?_, h⟩, fun h => h.2⟩
            by_cases hnil : right = []
            · exact hnil
            · exact absurd hat (hright ▸ relationAt?_ne_none relation hnil)
        | some found =>
            obtain ⟨relation, right⟩ := found
            obtain ⟨hright, hnil⟩ := relationAt?_eq_some hat
            simp only [reduceCtorEq, false_iff, not_and]
            exact fun h => absurd (h relation right hright) hnil

/-! ## Symbols with something on both sides -/

/-- No symbol has something on both sides. -/
def HasNoComparison (t : Text) : Prop :=
  ∀ (relation : Relation) (left right : Text), t = left ++ relation.symbol ++ right →
    isBlankText left = true ∨ isBlankText right = true

theorem symbol_ne_nil (relation : Relation) : relation.symbol ≠ [] := by
  cases relation <;> decide

theorem isBlank_of_mem_symbol {relation : Relation} {c : Char} (h : c ∈ relation.symbol) :
    isBlank c = false := by
  have hall : relation.symbol.all (fun c => !isBlank c) = true := by
    cases relation <;> decide
  simpa using List.all_eq_true.mp hall c h

/-- A text that neither begins nor ends with a blank. -/
def IsTrimmed (t : Text) : Prop :=
  (∀ c, t.head? = some c → isBlank c = false) ∧ ∀ c, t.getLast? = some c → isBlank c = false

theorem isTrimmed_trim (t : Text) : IsTrimmed (trim t) := ⟨fun _ => trim_head, fun _ => trim_last⟩

theorem IsTrimmed.left_eq_nil {t left rest : Text} (h : IsTrimmed t) (hsplit : t = left ++ rest)
    (hleft : isBlankText left = true) : left = [] := by
  cases left with
  | nil => rfl
  | cons c left =>
      have := h.1 c (by simp [hsplit])
      rw [isBlankText, List.all_cons, this] at hleft
      cases hleft

theorem IsTrimmed.right_eq_nil {t right rest : Text} (h : IsTrimmed t)
    (hsplit : t = rest ++ right) (hright : isBlankText right = true) : right = [] := by
  rcases List.eq_nil_or_concat right with rfl | ⟨right, c, rfl⟩
  · rfl
  · rw [List.concat_eq_append] at hsplit hright
    have := h.2 c (by simp [hsplit, ← List.append_assoc])
    simp [isBlankText, this] at hright

/-- What stands between texts that are not blank stands between their trimmed ends. -/
theorem trim_append {left x right : Text} (hleft : isBlankText left = false)
    (hright : isBlankText right = false) :
    trim (left ++ x ++ right) = trimLeft left ++ x ++ trimRight right := by
  rw [trim, List.append_assoc, trimLeft_append_of_not_blank hleft, ← List.append_assoc,
    trimRight_append_of_not_blank _ hright]

theorem hasNoComparison_of_trim {t : Text} (h : Comparison.ofText? (trim t) = none) :
    HasNoComparison t := by
  rw [Comparison.ofText?, trim_trim, find?_eq_none_iff] at h
  rintro relation left right rfl
  by_cases hleft : isBlankText left = true
  · exact .inl hleft
  by_cases hright : isBlankText right = true
  · exact .inr hright
  rw [Bool.not_eq_true] at hleft hright
  rcases h relation _ _ (trim_append hleft hright) with ⟨_, hnil⟩ | hnil
  · exact absurd hnil (trimLeft_ne_nil hleft)
  · exact absurd hnil (trimRight_ne_nil hright)

theorem HasNoComparison.ofText?_eq_none {t : Text} (h : HasNoComparison t) (ht : IsTrimmed t) :
    Comparison.ofText? t = none := by
  rw [Comparison.ofText?, trim_eq_self ht.1 ht.2, find?_eq_none_iff]
  intro relation left right hsplit
  rcases h relation left right hsplit with hleft | hright
  · exact .inl ⟨rfl, ht.left_eq_nil (by rw [hsplit, List.append_assoc]) hleft⟩
  · exact .inr (ht.right_eq_nil hsplit hright)

/-- Without a comparison there is no quantified one. -/
theorem HasNoComparison.quantified?_eq_none {t : Text} (h : HasNoComparison t)
    (ht : IsTrimmed t) : quantified? t = none := by
  rw [quantified?]
  cases hafter : after? "STARTS_WITH".toList t with
  | none => rfl
  | some rest =>
      rw [Option.bind_some]
      split
      · rfl
      · simp only
        split
        · rfl
        · rw [Option.map_eq_none_iff]
          cases hat : relationAt? (trimLeft ((trimLeft rest).dropWhile isWord)) with
          | none => rfl
          | some found =>
              obtain ⟨relation, right⟩ := found
              obtain ⟨hright, hne⟩ := relationAt?_eq_some hat
              obtain ⟨b, hb, _⟩ := trimLeft_spec rest
              obtain ⟨b', hb', _⟩ := trimLeft_spec ((trimLeft rest).dropWhile isWord)
              have hsplit : t = ("STARTS_WITH".toList ++ b
                  ++ (trimLeft rest).takeWhile isWord ++ b') ++ relation.symbol ++ right := by
                rw [after?_eq_some.mp hafter]
                simp only [List.append_assoc]
                rw [← hright, ← hb', List.takeWhile_append_dropWhile, ← hb]
              rcases h relation _ _ hsplit with hleft | hblank
              · have hword : "STARTS_WITH".toList.all isBlank = false := by decide
                simp only [isBlankText, List.all_append, hword, Bool.false_and] at hleft
                cases hleft
              · exact absurd (ht.right_eq_nil hsplit hblank) hne

/-! ## Keyword operators with something on both sides -/

/-- A symbol with something on both sides stays when keyword operators are written as symbols. -/
theorem HasNoComparison.of_replaceBy {keyword : Text × Relation} (hk : keyword ∈ keywords)
    {t : Text} (h : HasNoComparison (replaceBy (widthSpaced keyword.1) (spaced keyword.2) t)) :
    HasNoComparison t := by
  rintro relation left right rfl
  have hapart : ∀ c ∈ relation.symbol, isBlank c = false ∧ c ∉ keyword.1 := by
    have hall : keywords.all (fun keyword =>
        relation.symbol.all fun c => !keyword.1.contains c) = true := by
      cases relation <;> decide
    intro c hc
    refine ⟨isBlank_of_mem_symbol hc, fun hmem => ?_⟩
    have := List.all_eq_true.mp (List.all_eq_true.mp hall keyword hk) c hc
    simp [hmem] at this
  obtain ⟨b, a, hsplit, hb, ha⟩ :=
    (rewrites_spaced keyword _).survives (symbol_ne_nil relation) hapart
  rw [← (sameBlanks_of_rewrites hk hb).blank, ← (sameBlanks_of_rewrites hk ha).blank]
  exact h relation b a hsplit

theorem HasNoComparison.of_writeSymbols {operators : List (Text × Relation)}
    (hmem : ∀ keyword ∈ operators, keyword ∈ keywords) {t : Text}
    (h : HasNoComparison (writeSymbols operators t)) : HasNoComparison t := by
  induction operators generalizing t with
  | nil => exact h
  | cons keyword operators ih =>
      exact (ih (fun k hk => hmem k (List.mem_cons_of_mem _ hk)) h).of_replaceBy
        (hmem keyword List.mem_cons_self)

/-- The symbol for a keyword operator in a trimmed text has something on both sides. -/
theorem HasNoComparison.widthSpaced_eq_zero {keyword : Text × Relation} (hk : keyword ∈ keywords)
    {t : Text} (ht : IsTrimmed t)
    (h : HasNoComparison (replaceBy (widthSpaced keyword.1) (spaced keyword.2) t)) :
    ∀ s, s <:+ t → widthSpaced keyword.1 s = 0 := by
  rcases replaceBy_cases keyword.1 keyword.2.symbol t with hzero |
    ⟨b, l, r, a, a', hsplit, hl, hr, hbl, hbr, ha, hreplace⟩
  · exact hzero
  · have hsymbol : replaceBy (widthSpaced keyword.1) (spaced keyword.2) t
        = (b ++ [' ']) ++ keyword.2.symbol ++ (' ' :: a') := by
      rw [spaced, hreplace]
      simp
    have hblanks := (sameBlanks_of_rewrites hk ha).blank
    have hleft : t = (b ++ l) ++ (keyword.1 ++ r ++ a) := by
      rw [hsplit]
      simp
    have hright : t = (b ++ l ++ keyword.1) ++ (r ++ a) := by
      rw [hsplit]
      simp
    rcases h _ _ _ hsymbol with hblank | hblank
    · rw [isBlankText, List.all_append, Bool.and_eq_true] at hblank
      have hnil := ht.left_eq_nil hleft (by rw [isBlankText, List.all_append, hblank.1]; exact hbl)
      exact absurd (List.append_eq_nil_iff.mp hnil).2 hl
    · rw [isBlankText, List.all_cons, Bool.and_eq_true] at hblank
      have ha' : isBlankText a = true := hblanks.symm.trans hblank.2
      have hnil := ht.right_eq_nil hright (by
        rw [isBlankText, List.all_append, ← isBlankText, ← isBlankText, hbr, ha']
        rfl)
      exact absurd (List.append_eq_nil_iff.mp hnil).1 hr

/-- A trimmed text in which no comparison comes to light has no keyword operator. -/
theorem normalize_of_hasNoComparison {t : Text} (ht : IsTrimmed t)
    (h : HasNoComparison (normalize t)) : normalize t = t ∧
      ∀ keyword ∈ keywords, ∀ s, s <:+ t → widthSpaced keyword.1 s = 0 := by
  have hgen : ∀ operators : List (Text × Relation), (∀ keyword ∈ operators, keyword ∈ keywords) →
      HasNoComparison (writeSymbols operators t) → writeSymbols operators t = t ∧
        ∀ keyword ∈ operators, ∀ s, s <:+ t → widthSpaced keyword.1 s = 0 := by
    intro operators
    induction operators with
    | nil => simp [writeSymbols]
    | cons keyword operators ih =>
        intro hmem h
        have hrest := fun k hk => hmem k (List.mem_cons_of_mem keyword hk)
        rw [writeSymbols_cons] at h ⊢
        have hzero := (h.of_writeSymbols hrest).widthSpaced_eq_zero
          (hmem keyword List.mem_cons_self) ht
        rw [replaceBy_of_no_match _ hzero] at h ⊢
        obtain ⟨heq, hall⟩ := ih hrest h
        exact ⟨heq, List.forall_mem_cons.mpr ⟨hzero, hall⟩⟩
  exact hgen keywords (fun _ h => h) h

/-! ## Tests of one word -/

/-- The condition is a truth word or a bare name. -/
def IsSingleWord (t : Text) : Prop :=
  isBareWord t = true ∨ lower t = "true".toList ∨ lower t = "false".toList

theorem not_isSingleWord {t : Text} {relation : Relation} (h : relation.symbol ⊆ t) :
    ¬ IsSingleWord t := by
  obtain ⟨c, hc, hword, hlower, hcase, htrue, hfalse⟩ : ∃ c ∈ relation.symbol,
      isWord c = false ∧ lowerChar c = [c] ∧ c ≠ 'Σ' ∧ c ∉ "true".toList ∧ c ∉ "false".toList := by
    cases relation with
    | equal => exact ⟨'=', by decide⟩
    | different => exact ⟨'=', by decide⟩
    | atLeast => exact ⟨'>', by decide⟩
    | atMost => exact ⟨'<', by decide⟩
    | above => exact ⟨'>', by decide⟩
    | below => exact ⟨'<', by decide⟩
  rintro (hbare | ht | hf)
  · simp only [isBareWord, Bool.and_eq_true, List.all_eq_true] at hbare
    rw [hbare.2 c (h hc)] at hword
    cases hword
  · exact htrue (ht ▸ mem_lower (h hc) hlower hcase)
  · exact hfalse (hf ▸ mem_lower (h hc) hlower hcase)

/-! ## Leaves -/

/-- A condition without connectives. -/
structure IsLeaf (t : Text) : Prop where
  /-- It is there to be seen. -/
  notBlank : isBlankText t = false
  /-- It joins nothing. -/
  notJoins : ∀ k : Connective, ¬ k.Joins t
  /-- It denies nothing. -/
  notDenies : ¬ Denies t

theorem isLeaf_iff {t : Text} : IsLeaf t ↔ isBlankText t = false ∧ ¬ Connective.or.Joins t ∧
    ¬ Connective.and.Joins t ∧ ¬ Denies t := by
  constructor
  · exact fun h => ⟨h.notBlank, h.notJoins .or, h.notJoins .and, h.notDenies⟩
  · rintro ⟨hblank, hor, hand, hdenies⟩
    refine ⟨hblank, fun k => ?_, hdenies⟩
    cases k with
    | or => exact hor
    | and => exact hand

instance (t : Text) : Decidable (IsLeaf t) := decidable_of_iff' _ isLeaf_iff

/-- The last word of a text. -/
def lastWord (t : Text) : Text :=
  ((trim t).reverse.takeWhile fun c => !isBlank c).reverse

/-- A condition without connectives that is no test. -/
structure IsMalformed (t : Text) : Prop where
  leaf : IsLeaf t
  unrecognized : ∃ u, shape t = .test (.unrecognized u)

/-- The text ends with one of the two keyword operators that, once they have a blank behind them,
are read as a symbol with something on its right. -/
def EndsOpen (t : Text) : Prop :=
  (lastWord t = "GREATER_THAN_OR_EQUAL".toList ∨ lastWord t = "LESS_THAN_OR_EQUAL".toList) ∧
    t.getLast?.map isBlank = some true

instance (t : Text) : Decidable (EndsOpen t) :=
  inferInstanceAs (Decidable ((lastWord t = _ ∨ lastWord t = _) ∧ _ = _))

/-- No keyword operator has something on both sides, and none that would become two symbols
has a blank behind it at the end. -/
def HasNoOperator (t : Text) : Prop :=
  ∀ keyword ∈ keywords, ∀ left right, t = left ++ keyword.1 ++ right →
    left.getLast?.all isBlank = true → right.head?.all isBlank = true →
    isBlankText left = true ∨
      isBlankText right = true ∧ (right = [] ∨ keyword.2 ≠ .atLeast ∧ keyword.2 ≠ .atMost)

/-- What makes a condition malformed wherever it stands: nothing in it compares, and it is not
one word. -/
structure IsBroken (t : Text) : Prop where
  comparison : HasNoComparison t
  operator : HasNoOperator t
  word : ¬ IsSingleWord (trim t)

/-- No symbol begins with another one but those of the two relations that allow equality. -/
theorem symbol_eq_of_prefix {relation within : Relation} : relation ≠ .atLeast →
    relation ≠ .atMost → within.symbol <+: relation.symbol → within.symbol = relation.symbol := by
  cases relation <;> cases within <;> decide

theorem symbol_eq_append {relation within : Relation} {front back : Text}
    (h : relation.symbol = front ++ within.symbol ++ back) :
    front = [] ∧ (relation ≠ .atLeast → relation ≠ .atMost → back = []) := by
  have hsecond : ∀ c d rest, relation.symbol = c :: d :: rest → d = '=' ∧ rest = [] := by
    cases relation <;> simp [Relation.symbol, eq_comm]
  obtain ⟨e, last, hwithin, hlast⟩ :
      ∃ e last, within.symbol = e :: last ∧ (e = '=' → last ≠ []) := by
    cases within <;> exact ⟨_, _, rfl, by decide⟩
  cases front with
  | nil =>
      refine ⟨rfl, fun hleast hmost => ?_⟩
      have heq := symbol_eq_of_prefix hleast hmost ⟨back, h.symm⟩
      rw [List.nil_append, heq] at h
      exact List.self_eq_append_right.mp h
  | cons c front =>
      -- Of a symbol only a sign of equality is left behind its first character.
      rw [hwithin] at h
      cases front with
      | nil =>
          obtain ⟨he, hnil⟩ := hsecond c e (last ++ back) h
          exact absurd (List.append_eq_nil_iff.mp hnil).1 (hlast he)
      | cons d front =>
          obtain ⟨_, hnil⟩ := hsecond c d _ h
          simp at hnil

/-! ## Staying malformed -/

section Padded

variable {lead t tail : Text}

/-- Blanks at the two ends are nothing to compare. -/
theorem HasNoComparison.of_padded (hlead : isBlankText lead = true)
    (htail : isBlankText tail = true) (h : HasNoComparison (lead ++ t ++ tail)) :
    HasNoComparison t := by
  intro relation left right hsplit
  have := h relation (lead ++ left) (right ++ tail) (by simp [hsplit])
  simpa [isBlankText_append, hlead, htail] using this

theorem HasNoOperator.of_padded (hlead : isBlankText lead = true)
    (htail : isBlankText tail = true) (h : HasNoOperator (lead ++ t ++ tail)) :
    HasNoOperator t := by
  intro keyword hk left right hsplit hl hr
  have hfirst : (lead ++ left).getLast?.all isBlank = true := by
    cases left with
    | nil =>
        rw [List.append_nil]
        exact getLast?_all_of_isBlankText hlead
    | cons c left => rwa [getLast?_append_of_ne_nil _ (by simp)]
  have hlast : (right ++ tail).head?.all isBlank = true := by
    cases right with
    | nil => exact head?_all_of_isBlankText htail
    | cons c right => exact hr
  rcases h keyword hk (lead ++ left) (right ++ tail) (by simp [hsplit]) hfirst hlast with
    hleft | ⟨hright, hends⟩
  · exact .inl (by simpa [isBlankText_append, hlead] using hleft)
  · refine .inr ⟨by simpa [isBlankText_append, htail] using hright, hends.imp_left fun hnil => ?_⟩
    exact (List.append_eq_nil_iff.mp hnil).1

theorem IsBroken.of_padded (hlead : isBlankText lead = true) (htail : isBlankText tail = true)
    (h : IsBroken (lead ++ t ++ tail)) : IsBroken t := by
  have htrim : trim (lead ++ t ++ tail) = trim t := by
    rw [trim_append_blank _ htail, trim, trimLeft_append_of_blank hlead, trim]
  exact ⟨h.comparison.of_padded hlead htail, h.operator.of_padded hlead htail, htrim ▸ h.word⟩

end Padded

theorem IsBroken.trimLeft {t : Text} (h : IsBroken t) : IsBroken (trimLeft t) := by
  obtain ⟨lead, hsplit, hlead, _⟩ := trimLeft_spec t
  rw [hsplit, ← List.append_nil (lead ++ _)] at h
  exact of_padded hlead rfl h

theorem IsBroken.trimRight {t : Text} (h : IsBroken t) : IsBroken (trimRight t) := by
  obtain ⟨tail, hsplit, htail, _⟩ := trimRight_spec t
  rw [hsplit, ← List.nil_append (Text.trimRight t)] at h
  exact of_padded rfl htail h

section Rewritten

variable {keyword : Text × Relation} {t u : Text}

/-- A keyword operator at one of the two ends becomes a symbol at that end. -/
theorem HasNoComparison.of_rewrites (hk : keyword ∈ keywords)
    (hrewrites : Rewrites keyword.1 keyword.2.symbol t u) (h : HasNoComparison t)
    (hoperator : HasNoOperator t) : HasNoComparison u := by
  intro relation left right hsplit
  rcases (hsplit ▸ hrewrites).occurs (symbol_ne_nil relation) fun c => isBlank_of_mem_symbol with
    ⟨b, a, ht, hb, ha⟩ |
    ⟨front, back, b, l, r, a, b', a', hsymbol, rfl, rfl, ht, hl, hr, hbl, hbr, hb, ha⟩
  · rw [(sameBlanks_of_rewrites hk hb).blank, (sameBlanks_of_rewrites hk ha).blank]
    exact h relation b a ht
  · obtain ⟨rfl, hback⟩ := symbol_eq_append hsymbol
    have hb' := (sameBlanks_of_rewrites hk hb).blank
    have ha' := (sameBlanks_of_rewrites hk ha).blank
    have hends := hoperator keyword hk (b ++ l) (r ++ a) (by rw [ht]; simp)
      (by rw [getLast?_append_of_ne_nil _ hl]; exact getLast?_all_of_isBlankText hbl)
      (by rw [head?_append_of_ne_nil hr]; exact head?_all_of_isBlankText hbr)
    have hne : r ++ a ≠ [] := by simp [hr]
    simp only [isBlankText_append, Bool.and_eq_true, hne, false_or] at hends
    rcases hends with hleft | ⟨hright, hleast, hmost⟩
    · left
      rw [isBlankText_append, hb', hleft.1]
      rfl
    · right
      rw [hback hleast hmost, List.nil_append, isBlankText, List.all_cons, isBlank_space]
      exact ha'.trans hright.2

/-- Writing a keyword operator as its symbol makes no other one. -/
theorem HasNoOperator.of_rewrites (hk : keyword ∈ keywords)
    (hrewrites : Rewrites keyword.1 keyword.2.symbol t u) (h : HasNoOperator t) :
    HasNoOperator u := by
  intro other ho left right hsplit hl hr
  obtain ⟨b, a, ht, hb, ha⟩ := occurs_of_isWordlike (ne_nil_of_mem_keywords ho)
    (isWordlike_of_mem_keywords ho) (hsplit ▸ hrewrites)
  have hb' := sameBlanks_of_rewrites hk hb
  have ha' := sameBlanks_of_rewrites hk ha
  rw [hb'.last_all] at hl
  rw [ha'.head_all] at hr
  rw [hb'.blank, ha'.blank]
  exact (h other ho b a ht hl hr).imp_right (And.imp_right (Or.imp_left ha.eq_nil_iff.mpr))

end Rewritten

theorem IsBroken.normalize {t : Text} (h : IsBroken t) : IsBroken (normalize t) := by
  refine normalize_induction h fun keyword hk u hu => ?_
  have hrewrites := rewrites_spaced keyword u
  refine ⟨hu.comparison.of_rewrites hk hrewrites hu.operator, hu.operator.of_rewrites hk hrewrites,
    ?_⟩
  -- Where nothing is written as a symbol, the word is the same; else there is a symbol in it.
  rcases replaceBy_cases keyword.1 keyword.2.symbol u with hzero |
    ⟨b, l, r, a, a', hsplit, _, _, _, _, _, hreplace⟩
  · rw [replaceBy_of_no_match _ hzero]
    exact hu.word
  · have hsymbol : keyword.2.symbol ⊆ replaceBy (widthSpaced keyword.1) (spaced keyword.2) u := by
      rw [spaced, hreplace]
      exact fun c hc => by simp [hc]
    exact not_isSingleWord fun c hc => mem_trim_of_mem (hsymbol hc) (isBlank_of_mem_symbol hc)

theorem IsLeaf.normalize {t : Text} (h : IsLeaf t) : IsLeaf (normalize t) :=
  ⟨(sameBlanks_normalize t).blank.trans h.notBlank,
    fun k hjoins => h.notJoins k hjoins.of_normalize,
    fun hdenies => h.notDenies hdenies.of_normalize⟩

theorem IsLeaf.trimLeft {t : Text} (h : IsLeaf t) : IsLeaf (trimLeft t) :=
  ⟨(isBlankText_trimLeft t).trans h.notBlank, fun k hjoins => h.notJoins k hjoins.of_trimLeft,
    fun hdenies => h.notDenies hdenies.of_trimLeft⟩

theorem IsLeaf.trimRight {t : Text} (h : IsLeaf t) : IsLeaf (trimRight t) :=
  ⟨(isBlankText_trimRight t).trans h.notBlank, fun k hjoins => h.notJoins k hjoins.of_trimRight,
    fun hdenies => h.notDenies hdenies.of_trimRight⟩

theorem IsMalformed.trimRight {t : Text} (h : IsMalformed t) : IsMalformed (trimRight t) :=
  ⟨h.leaf.trimRight, (shape_trimRight t).symm ▸ h.unrecognized⟩

theorem not_endsOpen_trimRight (t : Text) : ¬ EndsOpen (trimRight t) := by
  rintro ⟨_, hblank⟩
  obtain ⟨_, _, _, hlast⟩ := trimRight_spec t
  cases hedge : (trimRight t).getLast? with
  | none => simp [hedge] at hblank
  | some c => simp [hedge, hlast c hedge] at hblank

/-! ## Reading a malformed condition -/

theorem after?_eq_none_of_not_denies {t : Text} (h : ¬ Denies t) :
    after? "NOT ".toList t = none := by
  cases hafter : after? "NOT ".toList t with
  | none => rfl
  | some rest => exact absurd ⟨[], ' ' :: rest, by rw [after?_eq_some.mp hafter]; rfl, rfl, rfl⟩ h

/-- Without a NOT before it and a connective in it a condition is one test. -/
theorem shapeOf_of_not_joins {t : Text} (hnot : after? "NOT ".toList t = none)
    (hjoins : ∀ k : Connective, ¬ k.Joins t) : shapeOf t = .test (testOf t) := by
  have hor : pieces? widthOr t = none :=
    pieces?_of_no_match (Connective.width_eq_zero (mt Connective.Splits.joins (hjoins .or)))
  have hand : pieces? widthAnd t = none :=
    pieces?_of_no_match (Connective.width_eq_zero (mt Connective.Splits.joins (hjoins .and)))
  rw [shapeOf, hnot, hor, hand]

/-- A leaf is read as the test that it makes. -/
theorem IsLeaf.shapeOf_eq {t : Text} (h : IsLeaf t) : shapeOf t = .test (testOf t) :=
  shapeOf_of_not_joins (after?_eq_none_of_not_denies h.notDenies) h.notJoins

/-- A broken condition is read as no test. -/
theorem IsBroken.testOf_eq {t : Text} (h : IsBroken t) (ht : IsTrimmed t) :
    testOf t = .unrecognized t := by
  have hword := h.word
  rw [trim_eq_self ht.1 ht.2] at hword
  simp only [IsSingleWord, not_or, Bool.not_eq_true] at hword
  obtain ⟨hbare, htrue, hfalse⟩ := hword
  rw [testOf, if_neg htrue, if_neg hfalse, hbare, h.comparison.quantified?_eq_none ht,
    h.comparison.ofText?_eq_none ht]
  rfl

theorem quantified?_ne_unrecognized (t u : Text) : quantified? t ≠ some (.unrecognized u) := by
  rw [quantified?]
  cases after? "STARTS_WITH".toList t with
  | none => simp
  | some rest =>
      simp only [Option.bind_some]
      split
      · simp
      · split <;> simp

theorem of_testOf_eq_unrecognized {t u : Text} (h : testOf t = .unrecognized u) :
    ¬ IsSingleWord t ∧ Comparison.ofText? t = none := by
  rw [testOf] at h
  split at h
  · cases h
  rename_i htrue
  split at h
  · cases h
  rename_i hfalse
  split at h
  · cases h
  rename_i hbare
  refine ⟨not_or.mpr ⟨hbare, not_or.mpr ⟨htrue, hfalse⟩⟩, ?_⟩
  split at h
  · rename_i quantified hquantified
    exact absurd (h ▸ hquantified) (quantified?_ne_unrecognized t u)
  · split at h
    · cases h
    · assumption

/-- The word behind the last blank is the last word. -/
theorem lastWord_append {left word right : Text} (hleft : isBlankText left = false)
    (hlast : left.getLast?.all isBlank = true) (hne : word ≠ [])
    (hword : ∀ c ∈ word, isBlank c = false) (hright : isBlankText right = true) :
    lastWord (left ++ word ++ right) = word := by
  have hend : trimRight word = word :=
    trimRight_eq_self_of_last fun c hc => hword c (List.mem_of_getLast? hc)
  have htrim : trim (left ++ word ++ right) = trimLeft left ++ word := by
    rw [trim_append_blank _ hright, trim, trimLeft_append_of_not_blank hleft,
      trimRight_append_of_not_blank _ (not_isBlankText_of_ne_nil hne hword), hend]
  rw [← getLast?_trimLeft hleft] at hlast
  rw [lastWord, htrim, List.reverse_append,
    takeWhile_append_edge (by simpa using hword) (by simpa using hlast), List.reverse_reverse]

theorem HasNoComparison.of_trim {t : Text} (h : HasNoComparison (trim t)) : HasNoComparison t := by
  intro relation left right hsplit
  by_cases hleft : isBlankText left = true
  · exact .inl hleft
  by_cases hright : isBlankText right = true
  · exact .inr hright
  rw [Bool.not_eq_true] at hleft hright
  have := h relation _ _ (hsplit ▸ trim_append hleft hright)
  rwa [isBlankText_trimLeft, isBlankText_trimRight] at this

/-- A keyword operator with something on both sides is found in the trimmed text. -/
theorem exists_widthSpaced_ne_zero {keyword : Text × Relation} (hk : keyword ∈ keywords)
    {left right : Text} (hleft : isBlankText left = false) (hright : isBlankText right = false)
    (hl : left.getLast?.all isBlank = true) (hr : right.head?.all isBlank = true) :
    ∃ s, s <:+ trim (left ++ keyword.1 ++ right) ∧ widthSpaced keyword.1 s ≠ 0 := by
  rw [← getLast?_trimLeft hleft] at hl
  rw [← head?_trimRight hright] at hr
  have hbehind := map_isBlank_of_all hr (mt List.head?_eq_none_iff.mp (trimRight_ne_nil hright))
  rcases List.eq_nil_or_concat (trimLeft left) with hnil | ⟨first, c, hfirst⟩
  · exact absurd hnil (trimLeft_ne_nil hleft)
  · rw [List.concat_eq_append] at hfirst
    rw [hfirst, List.getLast?_concat] at hl
    refine ⟨[c] ++ (keyword.1 ++ trimRight right), ⟨first, ?_⟩, ?_⟩
    · rw [trim_append hleft hright, hfirst]
      simp
    · rw [widthSpaced_between (by simpa [isBlankText] using hl) (by simp) ?_
        (blanks_ne_zero hbehind), List.length_singleton]
      · omega
      · intro d hd
        rw [head?_append_of_ne_nil (ne_nil_of_mem_keywords hk)] at hd
        exact isBlank_of_mem_keyword hk (List.mem_of_head? hd)

theorem hasNoOperator_of_trim {t : Text} (hends : ¬ EndsOpen t)
    (hzero : ∀ keyword ∈ keywords, ∀ s, s <:+ trim t → widthSpaced keyword.1 s = 0) :
    HasNoOperator t := by
  intro keyword hk left right hsplit hl hr
  by_cases hleft : isBlankText left = true
  · exact .inl hleft
  rw [Bool.not_eq_true] at hleft
  by_cases hright : isBlankText right = true
  · -- At the end stands the last word; it is none of the two, or nothing is behind it.
    have hlast : lastWord t = keyword.1 := by
      rw [hsplit]
      exact lastWord_append hleft hl (ne_nil_of_mem_keywords hk)
        (fun _ => isBlank_of_mem_keyword hk) hright
    have hatLeast : ∀ keyword ∈ keywords, keyword.2 = .atLeast →
        keyword.1 = "GREATER_THAN_OR_EQUAL".toList := by decide
    have hatMost : ∀ keyword ∈ keywords, keyword.2 = .atMost →
        keyword.1 = "LESS_THAN_OR_EQUAL".toList := by decide
    refine .inr ⟨hright, ?_⟩
    by_cases hnil : right = []
    · exact .inl hnil
    have hedge : t.getLast?.map isBlank = some true := by
      rw [hsplit, getLast?_append_of_ne_nil _ hnil]
      exact getLast?_of_isBlankText hnil hright
    exact .inr ⟨fun h => hends ⟨.inl (hlast.trans (hatLeast keyword hk h)), hedge⟩,
      fun h => hends ⟨.inr (hlast.trans (hatMost keyword hk h)), hedge⟩⟩
  · rw [Bool.not_eq_true] at hright
    obtain ⟨s, hsuffix, hfound⟩ := exists_widthSpaced_ne_zero hk hleft hright hl hr
    exact absurd (hzero keyword hk s (hsplit ▸ hsuffix)) hfound

/-- **A malformed condition is broken**: what keeps it from being a test is in the text itself. -/
theorem IsMalformed.isBroken {t : Text} (h : IsMalformed t) (hends : ¬ EndsOpen t) :
    IsBroken t := by
  obtain ⟨u, hu⟩ := h.unrecognized
  have hread : IsLeaf (trim (normalize (trim t))) :=
    h.leaf.trimLeft.trimRight.normalize.trimLeft.trimRight
  rw [shape, h.leaf.notBlank] at hu
  simp only [Bool.false_eq_true, if_false, hread.shapeOf_eq, Shape.test.injEq] at hu
  obtain ⟨hword, hnone⟩ := of_testOf_eq_unrecognized hu
  have hcomparison := hasNoComparison_of_trim hnone
  obtain ⟨heq, hzero⟩ := normalize_of_hasNoComparison (isTrimmed_trim t) hcomparison
  rw [heq] at hcomparison hword
  rw [trim_trim] at hword
  exact ⟨hcomparison.of_trim, hasNoOperator_of_trim hends hzero, hword⟩

end Questionnaire.Condition
