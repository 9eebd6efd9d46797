import Questionnaire.Proofs.Condition.Reads
import Questionnaire.Proofs.Condition.Rows

/-!
# Keyword operators that are left

Writing keyword operators as symbols leaves one that stands directly behind
another: the blank between them was taken for the first. So in a text that was
written with symbols before, every keyword operator between blanks stands behind
a symbol (`Settled`). Doing it again, as is done for every condition in a
condition, keeps a row in its parts (`IsRow.normalize`) and brings no name to
light in them (`candidates_normalize`).
-/

namespace Questionnaire.Condition

open Text Validation

/-! ## Settled texts -/

/-- The text stands in the other with a blank on each side. -/
def StandsSpaced (x t : Text) : Prop :=
  ∃ before after, t = before ++ x ++ after ∧ before.getLast?.map isBlank = some true ∧
    after.head?.map isBlank = some true

/-- The word stands twice in a row between blanks. -/
def Doubled (word t : Text) : Prop :=
  ∃ before gap after, t = before ++ word ++ gap ++ word ++ after ∧
    before.getLast?.map isBlank = some true ∧ gap ≠ [] ∧ isBlankText gap = true ∧
    after.head?.map isBlank = some true

/-- Between blanks the word stands only behind a symbol and one space. -/
def SettledBy (word t : Text) : Prop :=
  ∀ before after, t = before ++ word ++ after → before.getLast?.map isBlank = some true →
    after.head?.map isBlank = some true → ∃ b, ∃ relation : Relation,
      before = b ++ relation.symbol ++ [' ']

/-- Every keyword operator between blanks stands behind a symbol and one space. -/
def Settled (t : Text) : Prop := ∀ keyword ∈ keywords, SettledBy keyword.1 t

theorem Settled.of_excerpt {r u : Text} (hu : Settled u) (h : IsExcerpt r u) : Settled r := by
  obtain ⟨first, last, rfl, hfirst⟩ := h
  rintro keyword hk before after rfl hbefore hafter
  have hsplit : first ++ (before ++ keyword.1 ++ after) ++ last
      = (first ++ before) ++ keyword.1 ++ (after ++ last) := by simp
  have hne : before ≠ [] := by
    rintro rfl
    simp at hbefore
  have hane : after ≠ [] := by
    rintro rfl
    simp at hafter
  obtain ⟨b, relation, heq⟩ := hu keyword hk _ _ hsplit
    (by rwa [getLast?_append_of_ne_nil _ hne]) (by rwa [head?_append_of_ne_nil hane])
  -- The symbol is in the text, since nothing before the text ends within a symbol.
  rw [List.append_assoc b] at heq
  rcases List.append_eq_append_iff.mp heq with ⟨m, rfl, hm⟩ | ⟨m, rfl, hm⟩
  · exact ⟨m, relation, by simpa using hm⟩
  · rcases List.eq_nil_or_concat m with rfl | ⟨m, c, rfl⟩
    · exact ⟨[], relation, by simpa using hm.symm⟩
    · obtain ⟨before, d, rfl⟩ := (List.eq_nil_or_concat before).resolve_left hne
      have hends : relation.symbol ++ [' '] = m ++ [c] ++ before ++ [d] := by simpa using hm
      have hsymbol : relation.symbol = m ++ [c] ++ before := (List.append_inj' hends rfl).1
      exact absurd (by simp [hsymbol]) (hfirst c (by simp) relation)

/-! ## Writing symbols settles a text -/

/-- A keyword between blanks would be found. -/
theorem widthSpaced_ne_zero {word before after : Text} (hword : word ≠ [])
    (hblank : ∀ c ∈ word, isBlank c = false) (hbefore : before.getLast?.map isBlank = some true)
    (hafter : after.head?.map isBlank = some true) :
    ∃ q, q ≠ [] ∧ q <:+ before ∧ widthSpaced word (q ++ (word ++ after)) ≠ 0 := by
  rcases List.eq_nil_or_concat before with rfl | ⟨first, c, rfl⟩
  · simp at hbefore
  · rw [List.concat_eq_append] at hbefore ⊢
    rw [List.getLast?_concat, Option.map_some, Option.some.injEq] at hbefore
    have hhead : ∀ d, (word ++ after).head? = some d → isBlank d = false := by
      intro d hd
      rw [head?_append_of_ne_nil hword] at hd
      exact hblank d (List.mem_of_head? hd)
    refine ⟨[c], by simp, List.suffix_append _ _, ?_⟩
    rw [widthSpaced_between (by simpa [isBlankText] using hbefore) (by simp) hhead
      (blanks_ne_zero hafter), List.length_singleton]
    omega

/-- No keyword operator is taken for a part of what is written for one. -/
theorem not_mem_spaced {word : Text} (h : IsWordlike word) (relation : Relation) :
    ∀ c ∈ word, c ∉ spaced relation := by
  intro c hc hmem
  obtain ⟨hblank, hsymbol⟩ := h c hc
  have hspace : c ≠ ' ' := by
    rintro rfl
    exact absurd hblank (by decide)
  simp only [spaced, List.cons_append, List.mem_cons, List.mem_append, hspace,
    hsymbol relation, List.not_mem_nil, or_false] at hmem

/-- **A keyword operator between blanks is left** only where it stood behind another one, which
took the blank before it. -/
theorem left_of_replaceBy {keyword : Text × Relation} (hk : keyword ∈ keywords)
    {t before after : Text}
    (h : replaceBy (widthSpaced keyword.1) (spaced keyword.2) t = before ++ keyword.1 ++ after)
    (hbefore : before.getLast?.map isBlank = some true)
    (hafter : after.head?.map isBlank = some true) :
    Doubled keyword.1 t ∧ ∃ b, before = b ++ spaced keyword.2 := by
  have hwordlike := isWordlike_of_mem_keywords hk
  have hblank : ∀ c ∈ keyword.1, isBlank c = false := fun c hc => (hwordlike c hc).1
  have hword := ne_nil_of_mem_keywords hk
  induction hn : t.length using Nat.strongRecOn generalizing t before after with
  | ind n ih =>
      rcases exists_first_match (widthSpaced keyword.1) t with hnone | ⟨p, s, rfl, hmatch, hfirst⟩
      · rw [replaceBy_of_no_match _ hnone] at h
        obtain ⟨q, -, ⟨first, rfl⟩, hfound⟩ := widthSpaced_ne_zero hword hblank hbefore hafter
        exact absurd (hnone _ ⟨first, by simp [h]⟩) hfound
      · obtain ⟨l, r, rest, hsplit, hl, hr, hlb, hrb, hwidth⟩ := widthSpaced_spec hmatch
        have hreplace : replaceBy (widthSpaced keyword.1) (spaced keyword.2) (p ++ s)
            = p ++ spaced keyword.2
              ++ replaceBy (widthSpaced keyword.1) (spaced keyword.2) rest := by
          rw [replaceBy_first _ hfirst hmatch (widthSpaced_le _ _), hwidth, hsplit, List.drop_left]
        have hlength : rest.length < n := by
          have := List.length_pos_iff.mpr hl
          rw [hsplit] at hn
          simp only [List.length_append] at hn
          omega
        rw [hreplace] at h
        rcases append_eq_append_apart hword (by simp [spaced]) (not_mem_spaced hwordlike _) h.symm
          with ⟨m, rfl, rfl⟩ | ⟨m, hm, rfl⟩
        · -- It would have been found before the first one.
          have hafter' : (m ++ s).head?.map isBlank = some true := by
            cases m with
            | nil =>
                rw [List.nil_append, hsplit, List.append_assoc, List.append_assoc,
                  head?_append_of_ne_nil hl]
                exact head?_of_isBlankText hl hlb
            | cons c m => simpa using hafter
          obtain ⟨q, hq, ⟨first, rfl⟩, hfound⟩ :=
            widthSpaced_ne_zero hword hblank hbefore hafter'
          have hzero := hfirst (q ++ keyword.1 ++ m) (by simp [hq]) ⟨first, by simp⟩
          simp only [List.append_assoc] at hzero
          exact absurd hzero hfound
        · by_cases hnil : m = []
          · -- It stands directly behind the first one.
            subst hnil
            rw [List.nil_append] at hm
            obtain ⟨a, rfl, ha⟩ := Rewrites.of_append hblank
              (hm ▸ rewrites_spaced keyword rest)
            have hhead := (sameBlanks_of_rewrites hk ha).head.symm.trans hafter
            refine ⟨⟨p ++ l, r, a, by rw [hsplit]; simp, ?_, hr, hrb, hhead⟩, p, by simp⟩
            rw [getLast?_append_of_ne_nil _ hl]
            exact getLast?_of_isBlankText hl hlb
          · rw [getLast?_append_of_ne_nil _ hnil] at hbefore
            obtain ⟨⟨b, gap, a, rfl, hb, hgap⟩, b', rfl⟩ :=
              ih _ hlength hm hbefore hafter rfl
            have hne : b ≠ [] := by
              rintro rfl
              simp at hb
            refine ⟨⟨p ++ (l ++ keyword.1 ++ r) ++ b, gap, a, by rw [hsplit]; simp, ?_, hgap⟩,
              p ++ spaced keyword.2 ++ b', by simp⟩
            rwa [getLast?_append_of_ne_nil _ hne]

theorem settledBy_replaceBy {keyword : Text × Relation} (hk : keyword ∈ keywords) (t : Text) :
    SettledBy keyword.1 (replaceBy (widthSpaced keyword.1) (spaced keyword.2) t) := by
  intro before after h hbefore hafter
  obtain ⟨-, b, rfl⟩ := left_of_replaceBy hk h hbefore hafter
  exact ⟨b ++ [' '], keyword.2, by simp [spaced]⟩

/-- Writing another keyword operator as its symbol leaves symbols and spaces as they are. -/
theorem SettledBy.replaceBy {word : Text} {keyword : Text × Relation} (hk : keyword ∈ keywords)
    {t : Text} (hne : word ≠ []) (hwordlike : IsWordlike word) (h : SettledBy word t) :
    SettledBy word (replaceBy (widthSpaced keyword.1) (spaced keyword.2) t) := by
  intro before after hsplit hbefore hafter
  obtain ⟨b, a, ht, hb, ha⟩ :=
    occurs_of_isWordlike hne hwordlike (hsplit ▸ rewrites_spaced keyword t)
  obtain ⟨b, relation, rfl⟩ := h b a ht (hb.getLast?_eq ▸ hbefore) (ha.head?_eq ▸ hafter)
  obtain ⟨b', a', rfl, -, hspace⟩ :=
    hb.survives (symbol_ne_nil relation) fun c hc => ⟨isBlank_of_mem_symbol hc, fun hmem =>
      (isWordlike_of_mem_keywords hk c hmem).2 relation hc⟩
  exact ⟨b', relation, by rw [hspace.eq_of_singleton]⟩

theorem settled_normalize (t : Text) : Settled (normalize t) := by
  have hgen : ∀ operators : List (Text × Relation), (∀ keyword ∈ operators, keyword ∈ keywords) →
      ∀ word, word ≠ [] → IsWordlike word → ∀ t,
        (SettledBy word t ∨ ∃ keyword ∈ operators, keyword.1 = word) →
        SettledBy word (writeSymbols operators t) := by
    intro operators
    induction operators with
    | nil =>
        rintro - word - - t (h | ⟨keyword, hmem, -⟩)
        · exact h
        · cases hmem
    | cons keyword operators ih =>
        intro hmem word hne hword t h
        have hk := hmem keyword List.mem_cons_self
        refine ih (fun k hk => hmem k (List.mem_cons_of_mem _ hk)) word hne hword _ ?_
        rcases h with h | ⟨found, hfound, rfl⟩
        · exact .inl (h.replaceBy hk hne hword)
        · rcases List.mem_cons.mp hfound with rfl | hfound
          · exact .inl (settledBy_replaceBy hk t)
          · exact .inr ⟨found, hfound, rfl⟩
  intro keyword hk
  exact hgen keywords (fun _ h => h) keyword.1 (ne_nil_of_mem_keywords hk)
    (isWordlike_of_mem_keywords hk) t (.inr ⟨keyword, hk, rfl⟩)

/-! ## What is written anew -/

/-- A symbol between blanks stays when keyword operators are written as symbols. -/
theorem StandsSpaced.writeSymbols {relation : Relation} {operators : List (Text × Relation)}
    (hmem : ∀ keyword ∈ operators, keyword ∈ keywords) {t : Text}
    (h : StandsSpaced relation.symbol t) :
    StandsSpaced relation.symbol (writeSymbols operators t) := by
  induction operators generalizing t with
  | nil => exact h
  | cons keyword operators ih =>
      have hk := hmem keyword List.mem_cons_self
      refine ih (fun k hk => hmem k (List.mem_cons_of_mem _ hk)) ?_
      obtain ⟨before, after, rfl, hbefore, hafter⟩ := h
      obtain ⟨b, a, hsplit, hb, ha⟩ := (rewrites_spaced keyword _).survives
        (symbol_ne_nil relation) fun c hc => ⟨isBlank_of_mem_symbol hc, fun hmem =>
          (isWordlike_of_mem_keywords hk c hmem).2 relation hc⟩
      exact ⟨b, a, hsplit, hb.getLast?_eq.trans hbefore, ha.head?_eq.trans hafter⟩

/-- **Writing symbols** leaves a text as it is, or there is a keyword operator in the text and a
symbol in what is written. -/
theorem normalize_cases (t : Text) : normalize t = t ∨
    (∃ keyword ∈ keywords, StandsSpaced keyword.1 t) ∧
      ∃ relation : Relation, StandsSpaced relation.symbol (normalize t) := by
  have hgen : ∀ operators : List (Text × Relation), (∀ keyword ∈ operators, keyword ∈ keywords) →
      writeSymbols operators t = t ∨ (∃ keyword ∈ operators, StandsSpaced keyword.1 t) ∧
        ∃ relation : Relation, StandsSpaced relation.symbol (writeSymbols operators t) := by
    intro operators
    induction operators with
    | nil => exact fun _ => .inl rfl
    | cons keyword operators ih =>
        intro hmem
        have hrest := fun k hk => hmem k (List.mem_cons_of_mem keyword hk)
        rw [writeSymbols_cons]
        rcases replaceBy_cases keyword.1 keyword.2.symbol t with hzero |
          ⟨b, l, r, a, a', hsplit, hl, hr, hbl, hbr, -, hreplace⟩
        · rw [replaceBy_of_no_match _ hzero]
          rcases ih hrest with heq | ⟨⟨found, hfound, hword⟩, hsymbol⟩
          · exact .inl heq
          · exact .inr ⟨⟨found, List.mem_cons_of_mem _ hfound, hword⟩, hsymbol⟩
        · refine .inr ⟨⟨keyword, List.mem_cons_self, b ++ l, r ++ a, by rw [hsplit]; simp, ?_, ?_⟩,
            keyword.2, StandsSpaced.writeSymbols hrest ⟨b ++ [' '], ' ' :: a', ?_, ?_, rfl⟩⟩
          · rw [getLast?_append_of_ne_nil _ hl]
            exact getLast?_of_isBlankText hl hbl
          · rw [head?_append_of_ne_nil hr]
            exact head?_of_isBlankText hr hbr
          · rw [spaced, hreplace]
            simp
          · simp [isBlank]
  exact hgen keywords fun _ h => h

/-! ## Blanks and negations before a settled text -/

theorem normalize_of_isBlankText {b : Text} (hb : isBlankText b = true) : normalize b = b := by
  rcases normalize_cases b with h | ⟨⟨keyword, hk, before, after, rfl, -⟩, -⟩
  · exact h
  · rw [isBlankText_append, isBlankText_append, isBlankText_keyword hk] at hb
    simp at hb

/-- One word has no blank behind it. -/
theorem not_standsSpaced_of_word {keyword : Text × Relation} (hk : keyword ∈ keywords) {b w : Text}
    (hb : isBlankText b = true) (hw : ∀ c ∈ w, isBlank c = false) :
    ¬ StandsSpaced keyword.1 (b ++ w) := by
  rintro ⟨before, after, hsplit, -, hafter⟩
  obtain ⟨c, after, rfl⟩ := List.exists_cons_of_ne_nil (show after ≠ [] by
    rintro rfl
    simp at hafter)
  have hc : isBlank c = true := by simpa using hafter
  rcases List.append_eq_append_iff.mp hsplit with ⟨m, -, rfl⟩ | ⟨m, rfl, -⟩
  · have := hw c (by simp)
    rw [hc] at this
    cases this
  · rw [isBlankText_append, isBlankText_append, isBlankText_keyword hk] at hb
    simp at hb

/-- The text begins with a keyword operator and a blank. -/
def BeginsWithOperator (t : Text) : Prop :=
  ∃ keyword ∈ keywords, ∃ rest, t = keyword.1 ++ rest ∧ rest.head?.map isBlank = some true

/-- Blanks before a text stay before it, where they make no keyword operator of its beginning. -/
theorem normalize_blank_append_of_not_begins {b s : Text} (hb : isBlankText b = true)
    (hs : ∀ c, s.head? = some c → isBlank c = false) (h : ¬ BeginsWithOperator s) :
    normalize (b ++ s) = b ++ normalize s := by
  -- The first word of the text is no keyword operator, so symbols are written on its two sides.
  obtain ⟨w, r, rfl, hw, hr⟩ := exists_first_word s
  cases r with
  | nil =>
      have hword : ∀ b, isBlankText b = true → normalize (b ++ w) = b ++ w := by
        intro b hb
        rcases normalize_cases (b ++ w) with h | ⟨⟨keyword, hk, hspaced⟩, -⟩
        · exact h
        · exact absurd hspaced (not_standsSpaced_of_word hk hb hw)
      rw [List.append_nil, hword b hb]
      exact congrArg (b ++ ·) (hword [] rfl).symm
  | cons c r =>
      have hc : isBlank c = true := hr
      have hne : w ≠ [] := by
        rintro rfl
        rw [hs c rfl] at hc
        cases hc
      have hkeyword : ∀ keyword ∈ keywords, keyword.1 ≠ w := by
        rintro keyword hk rfl
        exact h ⟨keyword, hk, c :: r, rfl, by simp [hc]⟩
      have hapart : ∀ p : Text, isBlankText p = true → IsApart w p (c :: r) := fun p hp =>
        .inr ⟨hkeyword, getLast?_all_of_isBlankText hp, by simp [hc]⟩
      have hhere := normalize_append_sign hne hw (hapart [] rfl)
      rw [← List.append_assoc, normalize_append_sign hne hw (hapart b hb),
        normalize_of_isBlankText hb, List.append_assoc]
      exact congrArg (b ++ ·) hhere.symm

/-- Blanks before a settled text stay before it. -/
theorem normalize_blank_append {b s : Text} (hb : isBlankText b = true)
    (hs : ∀ c, s.head? = some c → isBlank c = false) (hsettled : Settled (b ++ s)) :
    normalize (b ++ s) = b ++ normalize s := by
  by_cases hbnil : b = []
  · rw [hbnil]
    rfl
  refine normalize_blank_append_of_not_begins hb hs ?_
  rintro ⟨keyword, hk, rest, rfl, hrest⟩
  obtain ⟨first, relation, heq⟩ := hsettled keyword hk b rest (by simp)
    (getLast?_of_isBlankText hbnil hb) hrest
  rw [heq, isBlankText_append, isBlankText_append, isBlankText_symbol relation] at hb
  simp at hb

theorem excerpt_of_denial {b : Text} (hb : isBlankText b = true) (s : Text) :
    IsExcerpt s ("NOT".toList ++ b ++ s) := by
  refine .of_append_left (fun c hc relation hmem => ?_) s
  rcases List.mem_append.mp hc with hc | hc
  · have hall : ∀ relation : Relation,
        "NOT".toList.all (fun c => !relation.symbol.contains c) = true := by
      intro relation
      cases relation <;> decide
    have := List.all_eq_true.mp (hall relation) c hc
    simp [hmem] at this
  · have := List.all_eq_true.mp hb c hc
    rw [isBlank_of_mem_symbol hmem] at this
    cases this

/-- A negation before a text stays before it if the blanks behind it do. -/
theorem normalize_denial_of_blank {b s : Text} (hb : isBlankText b = true) (hne : b ≠ [])
    (hblank : normalize (b ++ s) = b ++ normalize s) :
    normalize ("NOT".toList ++ b ++ s) = "NOT".toList ++ b ++ normalize s := by
  have hhead : (b ++ s).head?.all isBlank = true := by
    rw [head?_append_of_ne_nil hne]
    exact head?_all_of_isBlankText hb
  have hsplit := normalize_append_not (show isBlankText [] = true from rfl) hhead
  rw [List.append_assoc, List.append_assoc _ b (normalize s), ← hblank]
  exact hsplit

/-- A negation before a settled text stays before it. -/
theorem normalize_denial {b s : Text} (hb : isBlankText b = true) (hne : b ≠ [])
    (hs : ∀ c, s.head? = some c → isBlank c = false) (hsettled : Settled ("NOT".toList ++ b ++ s)) :
    normalize ("NOT".toList ++ b ++ s) = "NOT".toList ++ b ++ normalize s := by
  have hexcerpt : IsExcerpt (b ++ s) ("NOT".toList ++ b ++ s) := by
    simpa using excerpt_of_denial (b := []) rfl (b ++ s)
  exact normalize_denial_of_blank hb hne
    (normalize_blank_append hb hs (hsettled.of_excerpt hexcerpt))

/-! ## The core of a settled text -/

theorem core_append_of_blank {b : Text} (hb : isBlankText b = true) (s : Text) :
    core (b ++ s) = core s := by
  rw [← core_trimLeft, trimLeft_append_of_blank hb, core_trimLeft]

/-- What trimming shows of a negation is there before. -/
theorem denial_of_trim {s rest : Text} (hs : ∀ c, s.head? = some c → isBlank c = false)
    (h : after? "NOT ".toList (trim s) = some rest) :
    ∃ t, s = "NOT ".toList ++ t ∧ isBlankText t = false := by
  have htrim := after?_eq_some.mp h
  have hlast : isBlankText rest = false := by
    rw [Bool.eq_false_iff]
    intro hblank
    have hedge : (trim s).getLast?.map isBlank = some true := by
      rw [htrim, show "NOT ".toList ++ rest = "NOT".toList ++ ([' '] ++ rest) from rfl,
        getLast?_append_of_ne_nil _ (by simp)]
      exact getLast?_of_isBlankText (by simp) (by simpa [isBlankText, isBlank] using hblank)
    obtain ⟨c, hc, hblank⟩ := Option.map_eq_some_iff.mp hedge
    rw [trim_last hc] at hblank
    cases hblank
  obtain ⟨tail, hsplit, -⟩ := trimRight_spec s
  rw [trim, trimLeft_eq_self_of_head hs] at htrim
  refine ⟨rest ++ tail, ?_, by rw [isBlankText_append, hlast, Bool.false_and]⟩
  rw [hsplit, htrim, List.append_assoc]

theorem head?_normalize {p : Text} (hp : ∀ c, p.head? = some c → isBlank c = false) :
    ∀ c, (normalize p).head? = some c → isBlank c = false := by
  intro c hc
  have hsame := (sameBlanks_normalize p).head
  rw [hc, Option.map_some] at hsame
  obtain ⟨d, hd, hblank⟩ := Option.map_eq_some_iff.mp hsame.symm
  rw [← hblank, hp d hd]

/-- A negation is made by no keyword operator. -/
theorem after?_denial_normalize {p : Text} (hsettled : Settled p)
    (hp : ∀ c, p.head? = some c → isBlank c = false) (h : after? "NOT ".toList (trim p) = none) :
    after? "NOT ".toList (trim (normalize p)) = none := by
  cases hafter : after? "NOT ".toList (trim (normalize p)) with
  | none => rfl
  | some rest =>
      obtain ⟨t, heq, ht⟩ := denial_of_trim (head?_normalize hp) hafter
      -- The word was there before, and so were the blanks behind it.
      have hword : normalize p = [] ++ "NOT".toList ++ ' ' :: t := heq
      obtain ⟨b, a, hsplit, hb, ha⟩ := occurs_normalize (by simp) (isWordlike_of_all (by decide))
        hword
      obtain rfl := hb.eq_nil
      rw [List.nil_append] at hsplit
      obtain ⟨b, hbsplit, hblank, hhead⟩ := trimLeft_spec a
      generalize trimLeft a = s at hbsplit hhead
      subst hbsplit
      have hne : b ≠ [] := by
        rintro rfl
        obtain ⟨c, hc, hcblank⟩ := Option.map_eq_some_iff.mp (ha.head.symm.trans rfl)
        rw [hhead c hc] at hcblank
        exact absurd hcblank (by decide)
      rw [hsplit, ← List.append_assoc] at hsettled heq
      rw [normalize_denial hblank hne hhead hsettled, List.append_assoc] at heq
      obtain ⟨c, b, rfl⟩ := List.exists_cons_of_ne_nil hne
      obtain rfl : c = ' ' := by
        rw [show "NOT ".toList ++ t = "NOT".toList ++ ' ' :: t from rfl, List.append_cancel_left_eq,
          List.cons_append, List.cons.injEq] at heq
        exact heq.1
      have hfilled : isBlankText (b ++ s) = false := by
        have hsame := ha.blank
        rw [isBlankText, List.all_cons, ← isBlankText, ht, Bool.and_false, List.cons_append,
          isBlankText, List.all_cons, ← isBlankText] at hsame
        simpa [isBlank] using hsame.symm
      have hp : p = "NOT ".toList ++ (b ++ s) := by rw [hsplit]; rfl
      rw [hp, trim_denial hfilled, after?_append] at h
      cases h

/-- **The core of a settled text** and the core of what it is written as come from one text
without negations. -/
theorem exists_core_normalize {p : Text} (hsettled : Settled p) :
    ∃ q, Settled q ∧ (∀ c, q.head? = some c → isBlank c = false) ∧ core p = trim q ∧
      core (normalize p) = trim (normalize q) := by
  induction hn : p.length using Nat.strongRecOn generalizing p with
  | ind n ih =>
      obtain ⟨b, hsplit, hb, hhead⟩ := trimLeft_spec p
      generalize trimLeft p = s at hsplit hhead
      have hs : Settled s := hsettled.of_excerpt (hsplit ▸ .of_append_left
        (fun c hc relation hmem =>
          absurd (List.all_eq_true.mp hb c hc) (by simp [isBlank_of_mem_symbol hmem])) s)
      have hnormalize : normalize p = b ++ normalize s := by
        rw [hsplit, normalize_blank_append hb hhead (hsplit ▸ hsettled)]
      rw [hnormalize, core_append_of_blank hb, hsplit, core_append_of_blank hb]
      cases hafter : after? "NOT ".toList (trim s) with
      | none =>
          exact ⟨s, hs, hhead, core_of_not_after hafter,
            core_of_not_after (after?_denial_normalize hs hhead hafter)⟩
      | some rest =>
          obtain ⟨t, rfl, ht⟩ := denial_of_trim hhead hafter
          obtain ⟨c, hsplit', hc, hhead'⟩ := trimLeft_spec t
          generalize trimLeft t = v at hsplit' hhead'
          subst hsplit'
          have hspaces : isBlankText (' ' :: c) = true := by simpa [isBlankText, isBlank] using hc
          have hform : "NOT ".toList ++ (c ++ v) = "NOT".toList ++ (' ' :: c) ++ v := by simp
          rw [hform] at hs
          have hv := hs.of_excerpt (excerpt_of_denial hspaces v)
          have hlength : v.length < n := by
            rw [hsplit] at hn
            simp only [List.length_append] at hn
            have : ("NOT ".toList).length = 4 := by decide
            omega
          obtain ⟨q, hq, hqhead, hcore, hcore'⟩ := ih _ hlength hv rfl
          have hwritten : normalize ("NOT ".toList ++ (c ++ v))
              = "NOT ".toList ++ (c ++ normalize v) := by
            rw [hform, normalize_denial hspaces (by simp) hhead' hs]
            simp
          have hfilled : isBlankText (c ++ normalize v) = false := by
            rw [isBlankText_append] at ht ⊢
            rw [(sameBlanks_normalize v).blank, ht]
          refine ⟨q, hq, hqhead, ?_, ?_⟩
          · rw [core_denial ht, core_append_of_blank hc, hcore]
          · rw [hwritten, core_denial hfilled, core_append_of_blank hc, hcore']

/-! ## Rows written anew -/

theorem Connective.Splits.of_normalize {k : Connective} {t : Text} (h : k.Splits (normalize t)) :
    k.Splits t := by
  rcases h with ⟨before, after, hsplit, hbefore, hafter⟩ | ⟨before, after, hsplit⟩
  · obtain ⟨b, a, ht, hb, ha⟩ := occurs_normalize k.word_ne_nil Connective.isWordlike_word hsplit
    rw [hb.last_all] at hbefore
    exact .inl ⟨b, a, ht, hbefore, ha.head.symm.trans hafter⟩
  · obtain ⟨b, a, ht, _⟩ := occurs_normalize (k.sign_ne_nil .mark) Connective.isWordlike_mark
      hsplit.symm
    exact .inr ⟨b, a, ht.symm⟩

theorem IsPart.normalize {p : Text} (h : IsPart p) : IsPart (normalize p) :=
  ⟨(sameBlanks_normalize p).blank.trans h.filled, fun k hsplits => h.apart k hsplits.of_normalize⟩

/-- The link with the keyword operators of its part written as symbols. -/
def Link.normalized (link : Link) : Link := { link with part := normalize link.part }

/-- Keyword operators are written as symbols part by part. -/
theorem normalize_rowOf {links : List Link} {last : Text} (h : Parted links last) :
    normalize (rowOf links last) = rowOf (links.map Link.normalized) (normalize last) ∧
      Parted (links.map Link.normalized) (normalize last) := by
  induction links with
  | nil => exact ⟨rfl, IsPart.normalize h⟩
  | cons link rest ih =>
      obtain ⟨hrow, hparted⟩ := ih h.2.2
      have hmeets := h.2.1
      refine ⟨?_, h.1.normalize, ?_, hparted⟩
      · rw [rowOf, Link.sign, Connective.normalize_sign hmeets, hrow]
        rfl
      · rw [← hrow]
        exact Connective.Meets.normalize hmeets

/-- The parts of a row. -/
def texts (links : List Link) (last : Text) : List Text := links.map Link.part ++ [last]

theorem map_core_texts (links : List Link) (last : Text) :
    (texts links last).map core = cores links last := by
  simp [texts, cores]

theorem isExcerpt_of_mem_texts {links : List Link} {last p : Text} (h : p ∈ texts links last) :
    IsExcerpt p (rowOf links last) := by
  induction links with
  | nil =>
      obtain rfl : p = last := by simpa [texts] using h
      exact .refl p
  | cons link rest ih =>
      rcases List.mem_cons.mp h with rfl | h
      · rw [rowOf, List.append_assoc]
        exact .of_append _ _
      · exact (ih h).trans (.of_sign _ _ _ _)

/-- **A row written anew** is a row of its parts written anew. -/
theorem IsRow.normalize {ys : List Text} {u : Text} (h : IsRow ys u) :
    ∃ ps : List Text, (∀ p ∈ ps, IsExcerpt p u) ∧ ps.map core = ys ∧
      IsRow (ps.map fun p => core (normalize p)) (normalize u) := by
  obtain ⟨links, last, rfl, hparted, rfl⟩ := h
  obtain ⟨hrow, hparted'⟩ := normalize_rowOf hparted
  refine ⟨texts links last, fun p => isExcerpt_of_mem_texts, map_core_texts _ _, _, _, hrow,
    hparted', ?_⟩
  simp [texts, cores, Link.normalized]

end Questionnaire.Condition
