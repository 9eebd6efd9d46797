import Questionnaire.Proofs.Condition.Leaves
import Questionnaire.Proofs.Condition.Selection

/-!
# Reading a comparison

A comparison with spaces around its operator (`compares`). Both sides are terms,
texts without an operator between blanks and without a connective; the right one may
be anything else. With a name on the left it is read as the comparison of that name
(`evaluate_compares`), with the quantifier and the beginning of a name as the same
of all names with that beginning (`evaluate_quantifies`).
-/

namespace Questionnaire.Condition

open Text

/-! ## Terms -/

/-- A side of a comparison: nothing in it is read as an operator or a connective. -/
structure IsTerm (t : Text) : Prop where
  notBlank : isBlankText t = false
  noKeyword : HasNoKeyword t
  notJoins : ∀ k : Connective, ¬ k.Joins t

theorem isTerm_iff {t : Text} : IsTerm t ↔ isBlankText t = false ∧
    (∀ keyword ∈ keywords, ¬ StandsAlone keyword.1 t) ∧
      ∀ k ∈ [Connective.or, .and], ¬ k.Joins t := by
  constructor
  · exact fun h => ⟨h.notBlank, h.noKeyword, fun k _ => h.notJoins k⟩
  · exact fun h => ⟨h.1, h.2.1, fun k => h.2.2 k (by cases k <;> decide)⟩

instance (t : Text) : Decidable (IsTerm t) := decidable_of_iff' _ isTerm_iff

variable {t u : Text}

theorem Connective.Joins.congr_trim {k : Connective} (h : k.Joins u) (heq : trim u = trim t) :
    k.Joins t := by
  rcases h with h | h
  · exact .inl (heq ▸ h.trim k.word_ne_nil fun _ => k.isBlank_of_mem_word).of_trim
  · have hin := infix_trim (k.sign_ne_nil .mark)
      (fun _ hc => (Connective.isBlank_of_mem_mark hc).1) h
    exact .inr ((heq ▸ hin).trans (isInfix_trim t))

theorem HasNoKeyword.congr_trim (h : HasNoKeyword t) (heq : trim u = trim t) : HasNoKeyword u :=
  fun keyword hk hstands => h keyword hk
    (heq ▸ hstands.trim (ne_nil_of_mem_keywords hk) fun _ => isBlank_of_mem_keyword hk).of_trim

/-- Whether a text is a term does not depend on the blanks around it. -/
theorem IsTerm.congr_trim (h : IsTerm t) (heq : trim u = trim t) : IsTerm u := by
  refine ⟨?_, h.noKeyword.congr_trim heq, fun k hjoins => h.notJoins k (hjoins.congr_trim heq)⟩
  rw [← isBlankText_trim, heq, isBlankText_trim, h.notBlank]

/-- A word that stands alone is a word of the text. -/
theorem mem_openWords_of_standsAlone {word : Text} (hword : isBareWord word = true)
    (h : StandsAlone word t) : word ∈ openWords t := by
  obtain ⟨before, after, rfl, hbefore, hafter⟩ := h
  exact mem_openWords_between hword
    (fun c hc => isBreak_of_isBlank (by simpa [hc] using hbefore))
    (fun c hc => isBreak_of_isBlank (by simpa [hc] using hafter))

theorem mark_not_infix_of_word {k : Connective} {w : Text}
    (h : ∀ c ∈ w, isWord c = true ∨ c = ' ') : ¬ k.mark <:+: w := by
  obtain ⟨d, hmark, -⟩ := k.mark_eq
  intro hin
  have hd : d ∈ k.mark := by simp [hmark]
  obtain ⟨hblank, hword⟩ := Connective.isBlank_of_mem_mark hd
  rcases h d (hin.subset hd) with h | rfl
  · rw [hword] at h
    cases h
  · exact absurd hblank (by decide)

/-- Words with spaces between them are a term if none of them is an operator or a connective. -/
theorem isTerm_of_openWords (hblank : isBlankText t = false)
    (hchars : ∀ c ∈ t, isWord c = true ∨ c = ' ')
    (hwords : ∀ w ∈ openWords t, w ∉ keywords.map Prod.fst ∧ ∀ k : Connective, w ≠ k.word) :
    IsTerm t := by
  refine ⟨hblank, fun keyword hk hstands => ?_, ?_⟩
  · have hmem := mem_openWords_of_standsAlone
      (isBareWord_of_mem_conditionWords (mem_conditionWords_of_mem_keywords hk)) hstands
    exact (hwords _ hmem).1 (List.mem_map_of_mem hk)
  · rintro k (hstands | hmark)
    · have hword : isBareWord k.word = true := by cases k <;> decide
      exact (hwords _ (mem_openWords_of_standsAlone hword hstands)).2 k rfl
    · exact mark_not_infix_of_word hchars hmark

/-- A name is a term. -/
theorem isTerm_of_name {x : Text} (hx : isBareWord x = true) (hkey : x ∉ conditionWords) :
    IsTerm x := by
  obtain ⟨hne, hchars⟩ := isBareWord_iff.mp hx
  refine isTerm_of_openWords (not_isBlankText_of_ne_nil hne fun c hc =>
    isBlank_of_isWord (hchars c hc)) (fun c hc => .inl (hchars c hc)) fun w hw => ?_
  rw [openWords_of_isBareWord hx, List.mem_singleton] at hw
  subst hw
  refine ⟨fun hmem => hkey (List.mem_append_left _ hmem), fun k hk => hkey ?_⟩
  rw [hk]
  cases k <;> decide

/-! ## Comparisons -/

/-- Two sides with an operator and spaces around it. -/
def compares (left : Text) (operator : Operator) (right : Text) : Text :=
  left ++ ' ' :: (operator.text ++ ' ' :: right)

/-- The same of all names with a beginning. -/
def quantifies (start : Text) (operator : Operator) (right : Text) : Text :=
  "STARTS_WITH ".toList ++ compares start operator right

theorem compares_eq (left : Text) (operator : Operator) (right : Text) :
    compares left operator right = (left ++ [' ']) ++ operator.text ++ (' ' :: right) := by
  simp [compares]

theorem compares_eq_append (left : Text) (operator : Operator) (right : Text) :
    compares left operator right = left ++ ' ' :: (operator.text ++ [' ']) ++ right := by
  simp [compares]

variable {left right : Text}

theorem fits_spaces (operator : Operator) : operator.Fits (left ++ [' ']) (' ' :: right) := by
  cases operator with
  | symbol relation => exact trivial
  | keyword entry hk => exact ⟨by simp [isBlank_space], by simp [isBlank_space]⟩

theorem trim_concat_space (t : Text) : trim (t ++ [' ']) = trim t :=
  trim_concat_blank isBlank_space t

theorem trim_cons_space (t : Text) : trim (' ' :: t) = trim t :=
  trim_cons_blank isBlank_space t

/-- Nothing but one space is between a text that does not end with a blank and a space
behind it. -/
theorem eq_of_append_blanks {p l q : Text} (hq : ∀ c, q.getLast? = some c → isBlank c = false)
    (hne : l ≠ []) (hl : isBlankText l = true) (h : p ++ l = q ++ [' ']) : p = q := by
  obtain rfl | ⟨l, c, rfl⟩ := List.eq_nil_or_concat l
  · exact absurd rfl hne
  · rw [List.concat_eq_append, ← List.append_assoc] at h
    have hpl : p ++ l = q := List.append_inj_left' h rfl
    rcases List.eq_nil_or_concat l with rfl | ⟨l, d, rfl⟩
    · simpa using hpl
    · have hd : isBlank d = true := by
        rw [isBlankText, List.all_eq_true] at hl
        exact hl d (by simp)
      exact absurd hd (by simp [hq d (by simp [← hpl])])

/-- **The operator is written as its symbol**, and the left side stays. -/
theorem normalize_compares (hleft : IsTerm left) (hright : IsTerm right)
    (hlast : ∀ c, left.getLast? = some c → isBlank c = false) (operator : Operator) :
    ∃ rest, trim rest = trim right ∧
      normalize (compares left operator right)
        = compares left (.symbol operator.relation) rest := by
  have hl : HasNoKeyword (left ++ [' ']) := hleft.noKeyword.congr_trim (trim_concat_space left)
  have hr : HasNoKeyword (' ' :: right) := hright.noKeyword.congr_trim (trim_cons_space right)
  rw [compares_eq]
  cases operator with
  | symbol relation =>
      refine ⟨right, rfl, ?_⟩
      rw [compares_eq]
      exact normalize_symbol hl hr relation
  | keyword entry hk =>
      obtain ⟨p, l, r, rest, hp, hrest, hne, hbl, hbr, hreplace⟩ :=
        replaceBy_keyword hl hr hk (fits_spaces (.keyword entry hk))
      obtain rfl := eq_of_append_blanks hlast hne hbl hp.symm
      refine ⟨rest, ?_, ?_⟩
      · rw [← trim_cons_space right, hrest, trim, trim, trimLeft_append_of_blank hbr]
      · refine (normalize_keyword hl hr hk (fits_spaces (.keyword entry hk))).trans
          (hreplace.trans ?_)
        simp [spaced, compares, Operator.text, Operator.relation]

/-- A comparison of terms joins nothing. -/
theorem not_joins_compares (hleft : IsTerm left) (hright : IsTerm right) (relation : Relation)
    (k : Connective) : ¬ k.Joins (compares left (.symbol relation) right) := by
  have hl : ¬ k.Joins (left ++ [' ']) := fun h =>
    hleft.notJoins k (h.congr_trim (trim_concat_space left))
  have hr : ¬ k.Joins (' ' :: right) := fun h =>
    hright.notJoins k (h.congr_trim (trim_cons_space right))
  rw [compares_eq]
  rintro (⟨before, after, h, hbefore, hafter⟩ | ⟨before, after, h⟩)
  · have hword : isBareWord k.word = true ∧ k.word ≠ relation.symbol := by
      cases k <;> cases relation <;> decide
    exact hword.2 (eq_operator_of_mem (Operator.fits_symbol relation) hword.1
      (fun h => hl (.inl h)) (fun h => hr (.inl h)) h hbefore hafter).2.1
  · rcases append_eq_append_apart (k.sign_ne_nil .mark) (symbol_ne_nil relation)
      (fun c hc => (Operator.not_mem_of_mem_mark hc : c ∉ (Operator.symbol relation).text)) h with
      ⟨m, hm, -⟩ | ⟨m, hm, -⟩
    · exact hl (.inr ⟨before, m, hm.symm⟩)
    · exact hr (.inr ⟨m, after, hm.symm⟩)

/-- **A comparison of terms is one test**, with its operator written as a symbol. -/
theorem shape_compares (hleft : IsTerm left) (hright : IsTerm right) (htrim : IsTrimmed left)
    (hnot : ∀ rest, after? "NOT ".toList (left ++ ' ' :: rest) = none) (operator : Operator) :
    ∃ rest, rest ≠ [] ∧ (∀ c, rest.getLast? = some c → isBlank c = false) ∧
      trim rest = trim right ∧ shape (compares left operator right)
        = .test (testOf (compares left (.symbol operator.relation) rest)) := by
  have hedges : ∀ (operator : Operator) {right : Text}, isBlankText right = false →
      trim (compares left operator right) = compares left operator (trimRight right) := by
    intro operator right hright
    rw [compares_eq_append, compares_eq_append, trim_append hleft.notBlank hright,
      trimLeft_eq_self_of_head htrim.1]
  have htrimmed : IsTerm (trimRight right) := hright.congr_trim (trim_trimRight right)
  obtain ⟨rest, hrest, hnormal⟩ := normalize_compares hleft htrimmed htrim.2 operator
  have hterm : IsTerm (trimRight rest) := hright.congr_trim (by
    rw [trim_trimRight, hrest, trim_trimRight])
  refine ⟨trimRight rest, ?_, ?_, ?_, ?_⟩
  · rintro hnil
    exact absurd hterm.notBlank (by simp [hnil, isBlankText])
  · obtain ⟨after, -, -, hlast⟩ := trimRight_spec rest
    exact hlast
  · rw [trim_trimRight, hrest, trim_trimRight]
  · have hblank : isBlankText (compares left operator right) = false := by
      rw [compares, isBlankText_append, hleft.notBlank, Bool.false_and]
    have hrestBlank : isBlankText rest = false := by
      rw [← isBlankText_trimRight]
      exact hterm.notBlank
    have hnone : after? "NOT ".toList
        (compares left (.symbol operator.relation) (trimRight rest)) = none := hnot _
    rw [shape_of_not_blank hblank, hedges operator hright.notBlank, hnormal, hedges _ hrestBlank,
      shapeOf_of_not_joins hnone (not_joins_compares hleft hterm _)]

/-! ## The test of a comparison -/

/-- A comparison is no single word, so it is quantified or one of two sides. -/
theorem testOf_compares (left : Text) (relation : Relation) (rest : Text) :
    testOf (compares left (.symbol relation) rest)
      = match quantified? (compares left (.symbol relation) rest) with
        | some quantified => quantified
        | none =>
          match Comparison.ofText? (compares left (.symbol relation) rest) with
          | some comparison => .compare comparison
          | none => .unrecognized (compares left (.symbol relation) rest) := by
  have hsymbol : relation.symbol ⊆ compares left (.symbol relation) rest := fun c hc => by
    rw [compares_eq]
    exact List.mem_append_left _ (List.mem_append_right _ hc)
  have hword := not_isSingleWord hsymbol
  simp only [IsSingleWord, not_or] at hword
  exact (if_neg hword.2.1).trans ((if_neg hword.2.2).trans (if_neg hword.1))

/-- A symbol between spaces is not taken for a longer one. -/
theorem isSeparated_spaces (left right : Text) : IsSeparated (left ++ [' ']) (' ' :: right) := by
  refine ⟨fun c hc relation hmem => ?_, by simp⟩
  rw [List.getLast?_concat, Option.some.injEq] at hc
  rw [← hc] at hmem
  exact absurd (isBlank_of_mem_symbol hmem) (by decide)

theorem symbol_not_infix_of_name {x : Text} (hx : isBareWord x = true) (relation : Relation) :
    ¬ relation.symbol <:+: x ++ [' '] := by
  intro hin
  obtain ⟨c, hc, hword, hspace⟩ : ∃ c ∈ relation.symbol, isWord c = false ∧ c ≠ ' ' := by
    cases relation with
    | equal => exact ⟨'=', by decide⟩
    | different => exact ⟨'=', by decide⟩
    | atLeast => exact ⟨'>', by decide⟩
    | atMost => exact ⟨'<', by decide⟩
    | above => exact ⟨'>', by decide⟩
    | below => exact ⟨'<', by decide⟩
  rcases List.mem_append.mp (hin.subset hc) with hmem | hmem
  · rw [(isBareWord_iff.mp hx).2 c hmem] at hword
    cases hword
  · exact hspace (List.mem_singleton.mp hmem)

theorem testOf_name {x rest : Text} (hx : isBareWord x = true) (hkey : x ∉ conditionWords)
    (relation : Relation) (hne : rest ≠ [])
    (hlast : ∀ c, rest.getLast? = some c → isBlank c = false) :
    testOf (compares x (.symbol relation) rest) = .compare ⟨x, relation, trim rest⟩ := by
  obtain ⟨hxne, hchars⟩ := isBareWord_iff.mp hx
  have hblank : ∀ c ∈ x, isBlank c = false := fun c hc => isBlank_of_isWord (hchars c hc)
  have htrim : trim (compares x (.symbol relation) rest) = compares x (.symbol relation) rest := by
    refine trim_eq_self (fun c hc => ?_) (fun c hc => ?_)
    · rw [compares, head?_append_of_ne_nil hxne] at hc
      exact hblank c (List.mem_of_head? hc)
    · refine hlast c ?_
      rwa [compares_eq_append, getLast?_append_of_ne_nil _ hne] at hc
  have hquantified : quantified? (compares x (.symbol relation) rest) = none :=
    quantified?_symbol (List.all_eq_true.mpr hchars) hkey _
  have hfound : Comparison.ofText? (compares x (.symbol relation) rest)
      = some ⟨x, relation, trim rest⟩ := by
    rw [Comparison.ofText?, htrim, compares_eq]
    refine (find?_symbol [] (.inr (by simp)) (symbol_not_infix_of_name hx) (by simp)
      (isSeparated_spaces x rest)).trans ?_
    rw [List.reverse_nil, List.nil_append, trim_concat_space, trim_cons_space,
      trim_of_no_blank hblank]
  rw [testOf_compares, hquantified, hfound]

theorem testOf_quantifies {start : Text} (hstart : isBareWord start = true)
    (relation : Relation) (rest : Text) :
    testOf (compares ("STARTS_WITH ".toList ++ start) (.symbol relation) rest)
      = .anyStarting start relation (trim rest) := by
  obtain ⟨hne, hchars⟩ := isBareWord_iff.mp hstart
  obtain ⟨c, name, hname⟩ := List.exists_cons_of_ne_nil hne
  have hc : isBlank c = false := isBlank_of_isWord (hchars c (by simp [hname]))
  have hrelation : relationAt? (relation.symbol ++ ' ' :: rest) = some (relation, ' ' :: rest) :=
    relationAt?_symbol (by simp) (by simp)
  -- What follows the word, the beginning and the space behind it.
  generalize htail : ' ' :: (relation.symbol ++ ' ' :: rest) = tail
  have hsplit : compares ("STARTS_WITH ".toList ++ start) (.symbol relation) rest
      = "STARTS_WITH".toList ++ ' ' :: (start ++ tail) := by
    simp [compares, Operator.text, ← htail]
  have hblanks : blanks (' ' :: (start ++ tail)) ≠ 0 := by
    simp [blanks, isBlank_space]
  have hleft : trimLeft (' ' :: (start ++ tail)) = start ++ tail := by
    simp [trimLeft, isBlank_space, hname, hc]
  have hword : (start ++ tail).takeWhile isWord = start := by
    rw [← htail]
    exact takeWhile_isWord _ (List.all_eq_true.mpr hchars)
  have hrest : (start ++ tail).dropWhile isWord = tail := by
    rw [List.dropWhile_append_of_pos hchars, ← htail, List.dropWhile_cons_of_neg (by decide)]
  have hsymbol : trimLeft tail = relation.symbol ++ ' ' :: rest := by
    obtain ⟨d, symbol, hd⟩ := List.exists_cons_of_ne_nil (symbol_ne_nil relation)
    have hmem : d ∈ relation.symbol := hd ▸ List.mem_cons_self
    have hblank := isBlank_of_mem_symbol hmem
    simp [← htail, trimLeft, isBlank_space, hd, hblank]
  have hquantified : quantified? (compares ("STARTS_WITH ".toList ++ start) (.symbol relation) rest)
      = some (.anyStarting start relation (trim rest)) := by
    rw [hsplit, quantified?, after?_append, Option.bind_some, if_neg hblanks, hleft, hword, hrest,
      hsymbol, hrelation, if_neg (by simpa using hne), Option.map_some, trim_cons_space]
  rw [testOf_compares, hquantified]

/-- The quantifier and the beginning of a name are a term if the beginning is one. -/
theorem isTerm_quantifier {start : Text} (hstart : isBareWord start = true)
    (hterm : IsTerm start) : IsTerm ("STARTS_WITH ".toList ++ start) := by
  obtain ⟨hne, hchars⟩ := isBareWord_iff.mp hstart
  have hword : isBareWord "STARTS_WITH".toList = true := by decide
  have hopen : openWords ("STARTS_WITH".toList ++ ' ' :: start)
      = ["STARTS_WITH".toList, start] := by
    rw [openWords_append_break _ _ (by decide), openWords_of_isBareWord hword,
      openWords_of_isBareWord hstart, List.singleton_append]
  have halone : StandsAlone start start := ⟨[], [], by simp, rfl, rfl⟩
  refine isTerm_of_openWords ?_ (fun c hc => ?_) ?_
  · rw [isBlankText_append, hterm.notBlank, Bool.and_false]
  · rcases List.mem_append.mp hc with hc | hc
    · have hall : ("STARTS_WITH ".toList.all fun c => isWord c || c = ' ') = true := by decide
      simpa using List.all_eq_true.mp hall c hc
    · exact .inl (hchars c hc)
  · show ∀ w ∈ openWords ("STARTS_WITH".toList ++ ' ' :: start), _
    rw [hopen]
    refine List.forall_mem_cons.mpr ⟨⟨by decide, fun k => by cases k <;> decide⟩,
      List.forall_mem_singleton.mpr ⟨fun hmem => ?_, ?_⟩⟩
    · obtain ⟨keyword, hk, rfl⟩ := List.mem_map.mp hmem
      exact hterm.noKeyword keyword hk halone
    · rintro k rfl
      exact hterm.notJoins k (.inl halone)

/-! ## Whether a comparison holds -/

/-- **A comparison of a name** holds as its test does. -/
theorem evaluate_compares {x t : Text} (hx : isBareWord x = true) (hkey : x ∉ conditionWords)
    (ht : IsTerm t) (operator : Operator) (scope : Scope) :
    evaluate (compares x operator t) scope
      = (Test.compare ⟨x, operator.relation, trim t⟩).holds scope := by
  obtain ⟨hne, hchars⟩ := isBareWord_iff.mp hx
  have hblank : ∀ c ∈ x, isBlank c = false := fun c hc => isBlank_of_isWord (hchars c hc)
  have hnot : ∀ rest, after? "NOT ".toList (x ++ ' ' :: rest) = none := by
    intro rest
    cases hafter : after? "NOT ".toList (x ++ ' ' :: rest) with
    | none => rfl
    | some behind =>
        have hword := takeWhile_isWord rest (List.all_eq_true.mpr hchars)
        rw [after?_eq_some.mp hafter] at hword
        exact absurd (hword ▸ (by decide : "NOT".toList ∈ conditionWords)) hkey
  obtain ⟨rest, hrest, hlast, htrim, hshape⟩ := shape_compares (isTerm_of_name hx hkey) ht
    ⟨fun c hc => hblank c (List.mem_of_head? hc), fun c hc => hblank c (List.mem_of_getLast? hc)⟩
    hnot operator
  rw [testOf_name hx hkey _ hrest hlast, htrim] at hshape
  exact evaluate_of_shape_test hshape scope

/-- **A quantified comparison** holds as its test does. -/
theorem evaluate_quantifies {start t : Text} (hstart : isBareWord start = true)
    (hterm : IsTerm start) (ht : IsTerm t) (operator : Operator) (scope : Scope) :
    evaluate (quantifies start operator t) scope
      = (Test.anyStarting start operator.relation (trim t)).holds scope := by
  obtain ⟨hne, hchars⟩ := isBareWord_iff.mp hstart
  have htrimmed : IsTrimmed ("STARTS_WITH ".toList ++ start) := by
    refine ⟨fun c hc => ?_, fun c hc => ?_⟩
    · rw [head?_append_of_ne_nil (by decide), show "STARTS_WITH ".toList.head? = some 'S' from rfl,
        Option.some.injEq] at hc
      rw [← hc]
      rfl
    · rw [getLast?_append_of_ne_nil _ hne] at hc
      exact isBlank_of_isWord (hchars c (List.mem_of_getLast? hc))
  have hnot : ∀ rest, after? "NOT ".toList ("STARTS_WITH ".toList ++ start ++ ' ' :: rest) = none :=
    fun rest => by simp [after?]
  obtain ⟨rest, -, -, htrim, hshape⟩ := shape_compares (isTerm_quantifier hstart hterm) ht htrimmed
    hnot operator
  rw [testOf_quantifies hstart, htrim] at hshape
  have hsplit : compares ("STARTS_WITH ".toList ++ start) operator t
      = quantifies start operator t := List.append_assoc _ _ _
  rw [← hsplit]
  exact evaluate_of_shape_test hshape scope

end Questionnaire.Condition
