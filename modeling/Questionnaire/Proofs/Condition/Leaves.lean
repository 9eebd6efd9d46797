import Mathlib.Data.List.Infix
import Questionnaire.Proofs.Condition.Stable

/-!
# Conditions without connectives

The leaves of a condition: single words and comparisons with a symbol or a keyword
operator (`Leaf`). A leaf is stable, so it can be joined to others (`Leaf.isStable`),
and it holds as its test does, however its operator is spelled (`Leaf.evaluate_eq`):
a keyword operator is written as its symbol and nothing else is
(`normalize_keyword`), and no symbol or condition word stands in a side.
-/

namespace Questionnaire.Condition

open Text

/-! ## Leaves -/

/-- A side of a comparison: nothing in it is read as a part of a condition. -/
structure IsSide (t : Text) : Prop where
  notBlank : isBlankText t = false
  /-- No condition word stands alone in it. -/
  words : ∀ word ∈ conditionWords, ¬ StandsAlone word t
  /-- There is no symbol in it. -/
  symbols : ∀ relation : Relation, ¬ relation.symbol <:+: t
  /-- There is no character of a mark in it. -/
  marks : ∀ k : Connective, ∀ c ∈ k.mark, c ∉ t

theorem isSide_iff {t : Text} : IsSide t ↔ isBlankText t = false ∧
    (∀ word ∈ conditionWords, ¬ StandsAlone word t) ∧
    (∀ relation ∈ relations, ¬ relation.symbol <:+: t) ∧
    ∀ k ∈ [Connective.or, .and], k.mark.all (fun c => !t.contains c) = true := by
  have hmark : ∀ k : Connective,
      k.mark.all (fun c => !t.contains c) = true ↔ ∀ c ∈ k.mark, c ∉ t := by
    intro k
    simp
  simp only [hmark]
  constructor
  · exact fun h => ⟨h.notBlank, h.words, fun relation _ => h.symbols relation,
      fun k _ => h.marks k⟩
  · exact fun h => ⟨h.1, h.2.1, fun relation => h.2.2.1 relation (by cases relation <;> decide),
      fun k => h.2.2.2 k (by cases k <;> decide)⟩

instance (t : Text) : Decidable (IsSide t) := decidable_of_iff' _ isSide_iff

/-- A relation as it is written. -/
inductive Operator where
  | symbol (relation : Relation)
  | keyword (entry : Text × Relation) (h : entry ∈ keywords)

namespace Operator

def text : Operator → Text
  | symbol relation => relation.symbol
  | keyword entry _ => entry.1

def relation : Operator → Relation
  | symbol relation => relation
  | keyword entry _ => entry.2

/-- A keyword operator has a blank on either side. -/
def Fits (left right : Text) : Operator → Prop
  | symbol _ => True
  | keyword _ _ => left.getLast?.map isBlank = some true ∧ right.head?.map isBlank = some true

instance (left right : Text) : (operator : Operator) → Decidable (operator.Fits left right)
  | symbol _ => isTrue trivial
  | keyword _ _ => inferInstanceAs (Decidable
      (left.getLast?.map isBlank = some true ∧ right.head?.map isBlank = some true))

theorem fits_symbol (relation : Relation) {left right : Text} :
    (symbol relation).Fits left right :=
  trivial

end Operator

/-- A condition without connectives: a truth word or a name between blanks, or a comparison. -/
inductive Leaf where
  | word (lead w tail : Text) (hlead : isBlankText lead = true) (htail : isBlankText tail = true)
      (hbare : isBareWord w = true) (hfree : w ∉ conditionWords)
  | compare (left : Text) (operator : Operator) (right : Text) (hleft : IsSide left)
      (hright : IsSide right) (hfits : operator.Fits left right)

def Leaf.text : Leaf → Text
  | word lead w tail _ _ _ _ => lead ++ w ++ tail
  | compare left operator right _ _ _ => left ++ operator.text ++ right

/-! ## Leaves are stable -/

theorem isBlank_of_mem_conditionWords {word : Text} (h : word ∈ conditionWords) :
    word ≠ [] ∧ ∀ c ∈ word, isBlank c = false := by
  obtain ⟨hne, hword⟩ := isBareWord_iff.mp (isBareWord_of_mem_conditionWords h)
  exact ⟨hne, fun c hc => isBlank_of_isWord (hword c hc)⟩

theorem Connective.isBlank_of_mem_mark {k : Connective} {c : Char} (h : c ∈ k.mark) :
    isBlank c = false ∧ isWord c = false := by
  have hall : k.mark.all (fun c => !isBlank c && !isWord c) = true := by
    cases k <;> decide
  simpa using List.all_eq_true.mp hall c h

/-- Whether a text is a side does not depend on the blanks around it. -/
theorem IsSide.congr_trim {t u : Text} (h : IsSide t) (heq : trim u = trim t) : IsSide u := by
  refine ⟨?_, fun word hword hstands => ?_, fun relation hinfix => ?_, ?_⟩
  · rw [← isBlankText_trim, heq, isBlankText_trim, h.notBlank]
  · obtain ⟨hne, hblank⟩ := isBlank_of_mem_conditionWords hword
    exact h.words word hword (heq ▸ hstands.trim hne hblank).of_trim
  · have hinfix := infix_trim (symbol_ne_nil relation) (fun _ => isBlank_of_mem_symbol) hinfix
    exact h.symbols relation ((heq ▸ hinfix).trans (isInfix_trim t))
  · intro k c hc hmem
    have hvisible := mem_trim_of_mem hmem (Connective.isBlank_of_mem_mark hc).1
    exact h.marks k c hc (mem_of_mem_trim (heq ▸ hvisible))

theorem Operator.isSign {operator : Operator} {left right : Text}
    (h : operator.Fits left right) : IsSign operator.text left right := by
  cases operator with
  | symbol relation =>
      have hall : relation.symbol.all (fun c => !isWord c) = true := by
        cases relation <;> decide
      have hword : ∀ c ∈ relation.symbol, isWord c = false := fun c hc => by
        simpa using List.all_eq_true.mp hall c hc
      exact ⟨symbol_ne_nil relation, fun c hc =>
        isBlank_of_mem_symbol (show c ∈ relation.symbol from hc), .inl hword⟩
  | keyword entry hk =>
      exact ⟨ne_nil_of_mem_keywords hk, fun c hc => isBlank_of_mem_keyword hk hc,
        .inr ⟨all_isBlank_of_map h.1, all_isBlank_of_map h.2⟩⟩

/-- A word that stands alone in a comparison but in neither side is the operator. -/
theorem eq_operator_of_mem {left right : Text} {operator : Operator}
    (hfits : operator.Fits left right) {word before after : Text} (hword : isBareWord word = true)
    (hleft : ¬ StandsAlone word left) (hright : ¬ StandsAlone word right)
    (h : left ++ operator.text ++ right = before ++ word ++ after)
    (hbefore : before.getLast?.all isBlank = true) (hafter : after.head?.all isBlank = true) :
    before = left ∧ word = operator.text ∧ after = right := by
  rcases (Operator.isSign hfits).side hword h.symm hbefore hafter with
    ⟨m, rfl, hm⟩ | ⟨m, rfl, -, hm⟩ | hsame
  · exact absurd ⟨before, m, rfl, hbefore, hm⟩ hleft
  · exact absurd ⟨m, after, rfl, hm, hafter⟩ hright
  · exact hsame

theorem Operator.mem_keywords {operator : Operator} (h : operator.text ∈ conditionWords) :
    operator.text ∈ keywords.map Prod.fst := by
  cases operator with
  | symbol relation =>
      have hnone : relation.symbol ∉ conditionWords := by
        cases relation <;> decide
      exact absurd h hnone
  | keyword entry hk => exact List.mem_map_of_mem (f := Prod.fst) hk

theorem Operator.not_mem_of_mem_mark {operator : Operator} {k : Connective} {c : Char}
    (hc : c ∈ k.mark) : c ∉ operator.text := by
  intro hmem
  cases operator with
  | symbol relation =>
      have hall : k.mark.all (fun c => !relation.symbol.contains c) = true := by
        cases k <;> cases relation <;> decide
      have := List.all_eq_true.mp hall c hc
      simp [show c ∈ relation.symbol from hmem] at this
  | keyword entry hk =>
      have hall : keywords.all (fun entry => k.mark.all fun c => !entry.1.contains c) = true := by
        cases k <;> decide
      have := List.all_eq_true.mp (List.all_eq_true.mp hall entry hk) c hc
      simp [show c ∈ entry.1 from hmem] at this

theorem not_mem_compare {left right : Text} {operator : Operator} (hleft : IsSide left)
    (hright : IsSide right) {k : Connective} {c : Char} (hc : c ∈ k.mark) :
    c ∉ left ++ operator.text ++ right := by
  intro hmem
  rw [List.mem_append, List.mem_append] at hmem
  rcases hmem with (hmem | hmem) | hmem
  · exact hleft.marks k c hc hmem
  · exact Operator.not_mem_of_mem_mark hc hmem
  · exact hright.marks k c hc hmem

theorem isStable_compare {left right : Text} {operator : Operator} (hleft : IsSide left)
    (hright : IsSide right) (hfits : operator.Fits left right) :
    IsStable (left ++ operator.text ++ right) := by
  refine isStable_of_words ?_ (fun k c hc => not_mem_compare hleft hright hc) ?_
  · rw [isBlankText_append, hright.notBlank, Bool.and_false]
  · intro word hword before after h hbefore hafter
    obtain ⟨rfl, rfl, rfl⟩ := eq_operator_of_mem hfits (isBareWord_of_mem_conditionWords hword)
      (hleft.words word hword) (hright.words word hword) h hbefore hafter
    exact ⟨Operator.mem_keywords hword, hleft.notBlank, hright.notBlank, hright.words _ hword⟩

theorem not_mem_word {lead w tail : Text} (hlead : isBlankText lead = true)
    (htail : isBlankText tail = true) (hbare : isBareWord w = true) {k : Connective} {c : Char}
    (hc : c ∈ k.mark) : c ∉ lead ++ w ++ tail := by
  obtain ⟨hblank, hword⟩ := Connective.isBlank_of_mem_mark hc
  intro hmem
  simp only [List.mem_append, not_mem_of_isBlankText hlead hblank,
    not_mem_of_isBlankText htail hblank, false_or, or_false] at hmem
  rw [(isBareWord_iff.mp hbare).2 c hmem] at hword
  cases hword

/-- A word between blanks that means nothing in a condition is stable. -/
theorem isStable_word {lead w tail : Text} (hlead : isBlankText lead = true)
    (htail : isBlankText tail = true) (hbare : isBareWord w = true) (hfree : w ∉ conditionWords) :
    IsStable (lead ++ w ++ tail) := by
  obtain ⟨hne, hchars⟩ := isBareWord_iff.mp hbare
  have hblank : ∀ c ∈ w, isBlank c = false := fun c hc => isBlank_of_isWord (hchars c hc)
  refine isStable_of_words ?_ (fun k c hc => not_mem_word hlead htail hbare hc) ?_
  · rw [isBlankText_append, isBlankText_append, not_isBlankText_of_ne_nil hne hblank]
    simp
  · -- A word that stands alone in a word is the whole of it.
    intro word hword before after h hbefore hafter
    obtain ⟨hwordne, hwordblank⟩ := isBlank_of_mem_conditionWords hword
    obtain ⟨m, n, rfl, rfl, rfl⟩ := exists_of_padded hlead htail hwordne hwordblank h
    obtain rfl : m = [] := by
      rcases List.eq_nil_or_concat m with hnil | ⟨m, c, rfl⟩
      · exact hnil
      · rw [List.concat_eq_append, ← List.append_assoc, List.getLast?_concat, Option.all_some,
          hblank c (by simp)] at hbefore
        cases hbefore
    obtain rfl : n = [] := by
      cases n with
      | nil => rfl
      | cons c n =>
          rw [List.cons_append, List.head?_cons, Option.all_some, hblank c (by simp)] at hafter
          cases hafter
    exact absurd (by simpa using hword) hfree

/-- The blanks around a text do not count. -/
theorem trim_padded {b a : Text} (hb : isBlankText b = true) (ha : isBlankText a = true)
    (t : Text) : trim (b ++ t ++ a) = trim t := by
  rw [trim_append_blank _ ha, trim, trimLeft_append_of_blank hb, trim]

theorem evaluate_padded {b a : Text} (hb : isBlankText b = true) (ha : isBlankText a = true)
    (t : Text) : evaluate (b ++ t ++ a) = evaluate t := by
  funext scope
  rw [← evaluate_trim, trim_padded hb ha, evaluate_trim]

theorem Operator.Fits.padded {operator : Operator} {left right : Text} (b a : Text)
    (hleft : isBlankText left = false) (hright : isBlankText right = false)
    (h : operator.Fits left right) : operator.Fits (b ++ left) (right ++ a) := by
  cases operator with
  | symbol relation => trivial
  | keyword entry hk =>
      have hne : ∀ {t : Text}, isBlankText t = false → t ≠ [] := by
        rintro _ ht rfl
        cases ht
      refine ⟨?_, ?_⟩
      · rw [getLast?_append_of_ne_nil _ (hne hleft)]
        exact h.1
      · rw [head?_append_of_ne_nil (hne hright)]
        exact h.2

/-- **A leaf is stable**, with any blanks around it. -/
theorem Leaf.isStable (leaf : Leaf) {b a : Text} (hb : isBlankText b = true)
    (ha : isBlankText a = true) : IsStable (b ++ leaf.text ++ a) := by
  cases leaf with
  | word lead w tail hlead htail hbare hfree =>
      have hpads : isBlankText (b ++ lead) = true ∧ isBlankText (tail ++ a) = true := by
        simp [isBlankText_append, hb, ha, hlead, htail]
      simpa [Leaf.text] using isStable_word hpads.1 hpads.2 hbare hfree
  | compare left operator right hleft hright hfits =>
      have hleft' : IsSide (b ++ left) :=
        hleft.congr_trim (by simpa using trim_padded hb (a := []) rfl left)
      have hright' : IsSide (right ++ a) :=
        hright.congr_trim (by simpa using trim_padded (b := []) rfl ha right)
      simpa [Leaf.text] using isStable_compare hleft' hright'
        (hfits.padded b a hleft.notBlank hright.notBlank)

theorem Leaf.not_mem_text (leaf : Leaf) {k : Connective} {c : Char} (hc : c ∈ k.mark) :
    c ∉ leaf.text := by
  cases leaf with
  | word lead w tail hlead htail hbare => exact not_mem_word hlead htail hbare hc
  | compare left operator right hleft hright => exact not_mem_compare hleft hright hc

/-! ## Reading a comparison -/

/-- What separates a symbol from the sides: it is not taken for a longer one, nor for one that
begins in the left side. -/
def IsSeparated (left right : Text) : Prop :=
  (∀ c, left.getLast? = some c → ∀ relation : Relation, c ∉ relation.symbol) ∧
    right.head? ≠ some '='

theorem relationAt?_symbol {relation : Relation} {right : Text} (hne : right ≠ [])
    (hright : right.head? ≠ some '=') :
    relationAt? (relation.symbol ++ right) = some (relation, right) := by
  obtain ⟨c, right, rfl⟩ := List.exists_cons_of_ne_nil hne
  have hc : c ≠ '=' := by simpa using hright
  cases relation <;>
    simp [relationAt?, relations, Relation.symbol, after?, Ne.symm hc]

/-- The comparison is found at the symbol between the sides. -/
theorem find?_symbol {relation : Relation} {left right : Text} (before : Text)
    (hbefore : before ≠ [] ∨ left ≠ [])
    (hsymbols : ∀ relation : Relation, ¬ relation.symbol <:+: left) (hright : right ≠ [])
    (hseparated : IsSeparated left right) :
    Comparison.find? before (left ++ relation.symbol ++ right)
      = some ⟨trim (before.reverse ++ left), relation, trim right⟩ := by
  induction left generalizing before with
  | nil =>
      have hbefore : before.isEmpty = false := by simpa using hbefore
      have hat : relationAt? (relation.symbol ++ right) = some (relation, right) :=
        relationAt?_symbol hright hseparated.2
      obtain ⟨c, rest, hsymbol⟩ := List.exists_cons_of_ne_nil (symbol_ne_nil relation)
      rw [hsymbol, List.cons_append] at hat
      rw [List.nil_append, hsymbol, List.cons_append, Comparison.find?, hbefore, hat]
      simp
  | cons c left ih =>
      have hlast : ∀ d, left.getLast? = some d → ∀ relation : Relation, d ∉ relation.symbol := by
        intro d hd
        refine hseparated.1 d ?_
        rw [← List.singleton_append, getLast?_append_of_ne_nil _ (by rintro rfl; simp at hd), hd]
      have hnone : relationAt? (c :: left ++ relation.symbol ++ right) = none := by
        cases hat : relationAt? (c :: left ++ relation.symbol ++ right) with
        | none => rfl
        | some found =>
            -- It would stand in the left side or reach beyond its last character.
            have hsplit := (relationAt?_eq_some hat).1
            rw [List.append_assoc] at hsplit
            rcases List.append_eq_append_iff.mp hsplit with ⟨m, hm, -⟩ | ⟨m, hm, -⟩
            · obtain ⟨d, hd⟩ : ∃ d, (c :: left).getLast? = some d :=
                Option.ne_none_iff_exists'.mp (by simp)
              have hmem : d ∈ found.1.symbol := by
                rw [hm]
                exact List.mem_append_left _ (List.mem_of_getLast? hd)
              exact absurd hmem (hseparated.1 d hd found.1)
            · exact absurd ⟨[], m, by simpa using hm.symm⟩ (hsymbols found.1)
      have hrest := ih (c :: before) (.inl (by simp))
        (fun relation h => hsymbols relation (h.trans (List.suffix_cons c left).isInfix))
        ⟨hlast, hseparated.2⟩
      rw [List.cons_append, List.cons_append] at hnone ⊢
      rw [Comparison.find?, hnone]
      simpa using hrest

theorem IsSide.trimLeft {t : Text} (h : IsSide t) : IsSide (trimLeft t) :=
  h.congr_trim (trim_trimLeft t)

theorem IsSide.trimRight {t : Text} (h : IsSide t) : IsSide (trimRight t) :=
  h.congr_trim (trim_trimRight t)

theorem IsSide.ne_nil {t : Text} (h : IsSide t) : t ≠ [] := by
  rintro rfl
  exact absurd h.notBlank (by decide)

/-- **A single word** between blanks is read as a test of it. -/
theorem shape_word {lead w tail : Text} (hlead : isBlankText lead = true)
    (htail : isBlankText tail = true) (hbare : isBareWord w = true) (hfree : w ∉ conditionWords) :
    shape (lead ++ w ++ tail) = .test (testOf w) := by
  have hstable := isStable_word hlead htail hbare hfree
  have htrim : trim (lead ++ w ++ tail) = w := by
    rw [trim_padded hlead htail]
    exact trim_of_no_blank fun c hc => isBlank_of_isWord ((isBareWord_iff.mp hbare).2 c hc)
  have hwritten : normalize w = w := by
    refine normalize_of_no_word fun word hword => ?_
    rw [openWords_of_isBareWord hbare, List.mem_singleton] at hword
    exact hword ▸ hfree
  have hleaf := hstable.trimLeft.trimRight.leaf
  rw [← trim, htrim] at hleaf
  rw [shape_of_not_blank hstable.leaf.notBlank, htrim, hwritten, ← htrim, trim_trim, htrim,
    hleaf.shapeOf_eq]

section Reading

variable {left right : Text}

theorem mem_conditionWords_of_mem_keywords {keyword : Text × Relation} (h : keyword ∈ keywords) :
    keyword.1 ∈ conditionWords :=
  List.mem_append_left _ (List.mem_map_of_mem h)

theorem symbol_not_mem_conditionWords (relation : Relation) :
    relation.symbol ∉ conditionWords := by
  cases relation <;> decide

/-- No keyword operator stands alone in the text. -/
def HasNoKeyword (t : Text) : Prop := ∀ keyword ∈ keywords, ¬ StandsAlone keyword.1 t

theorem IsSide.hasNoKeyword {t : Text} (h : IsSide t) : HasNoKeyword t := fun _ hk =>
  h.words _ (mem_conditionWords_of_mem_keywords hk)

/-- A keyword operator between blanks in a comparison is the one of the comparison. -/
theorem eq_operator_of_standsSpaced {operator : Operator} (hleft : HasNoKeyword left)
    (hright : HasNoKeyword right) (hfits : operator.Fits left right) {keyword : Text × Relation}
    (hk : keyword ∈ keywords) {before after : Text}
    (h : left ++ operator.text ++ right = before ++ keyword.1 ++ after)
    (hbefore : before.getLast?.map isBlank = some true)
    (hafter : after.head?.map isBlank = some true) :
    before = left ∧ keyword.1 = operator.text ∧ after = right :=
  eq_operator_of_mem hfits
    (isBareWord_of_mem_conditionWords (mem_conditionWords_of_mem_keywords hk)) (hleft _ hk)
    (hright _ hk) h (all_isBlank_of_map hbefore) (all_isBlank_of_map hafter)

/-- A comparison with a symbol is left as it is. -/
theorem normalize_symbol (hleft : HasNoKeyword left) (hright : HasNoKeyword right)
    (relation : Relation) :
    normalize (left ++ relation.symbol ++ right) = left ++ relation.symbol ++ right := by
  rcases normalize_cases (left ++ relation.symbol ++ right) with
    heq | ⟨⟨keyword, hk, before, after, h, hbefore, hafter⟩, -⟩
  · exact heq
  · have hsame := (eq_operator_of_standsSpaced hleft hright (Operator.fits_symbol relation) hk h
      hbefore hafter).2.1
    have hword := mem_conditionWords_of_mem_keywords hk
    rw [hsame] at hword
    exact absurd hword (symbol_not_mem_conditionWords relation)

/-- The word for a quantifier does not begin a comparison. -/
theorem quantified?_symbol_of_isSide (hleft : IsSide left) (hright : IsSide right) (relation : Relation) :
    quantified? (left ++ relation.symbol ++ right) = none := by
  rw [quantified?]
  cases hafter : after? "STARTS_WITH".toList (left ++ relation.symbol ++ right) with
  | none => rfl
  | some rest =>
      by_cases hblanks : blanks rest = 0
      · rw [Option.bind_some, if_pos hblanks]
      · have hhead : rest.head?.all isBlank = true := by
          cases rest with
          | nil => rfl
          | cons c rest =>
              cases hc : isBlank c with
              | true => simpa using hc
              | false => exact absurd (by simp [blanks, hc]) hblanks
        have hsplit : left ++ relation.symbol ++ right = [] ++ "STARTS_WITH".toList ++ rest :=
          after?_eq_some.mp hafter
        have hsame := (eq_operator_of_mem (Operator.fits_symbol relation) (by decide)
          (hleft.words _ (by decide)) (hright.words _ (by decide)) hsplit rfl hhead).1
        exact absurd hsame.symm hleft.ne_nil

theorem testOf_symbol_of_isSide (hleft : IsSide left) (hright : IsSide right)
    {relation : Relation} (hseparated : IsSeparated left right)
    (htrimmed : IsTrimmed (left ++ relation.symbol ++ right)) :
    testOf (left ++ relation.symbol ++ right) = .compare ⟨trim left, relation, trim right⟩ := by
  have hword : ¬ IsSingleWord (left ++ relation.symbol ++ right) :=
    not_isSingleWord (show relation.symbol ⊆ _ from fun c hc => by simp [hc])
  simp only [IsSingleWord, not_or] at hword
  have hfound : Comparison.ofText? (left ++ relation.symbol ++ right)
      = some ⟨trim left, relation, trim right⟩ := by
    rw [Comparison.ofText?, trim_eq_self htrimmed.1 htrimmed.2,
      find?_symbol [] (.inr hleft.ne_nil) hleft.symbols hright.ne_nil hseparated]
    rfl
  rw [testOf, if_neg hword.2.1, if_neg hword.2.2, if_neg hword.1,
    quantified?_symbol_of_isSide hleft hright, hfound]

/-- **A comparison with a symbol** is read as one of its two sides. -/
theorem shape_symbol (hleft : IsSide left) (hright : IsSide right) (relation : Relation)
    (hseparated : IsSeparated left right) : shape (left ++ relation.symbol ++ right)
      = .test (.compare ⟨trim left, relation, trim right⟩) := by
  have hstable : IsStable (left ++ relation.symbol ++ right) :=
    isStable_compare hleft hright (Operator.fits_symbol relation)
  have htrim := trim_append (x := relation.symbol) hleft.notBlank hright.notBlank
  have hseparated' : IsSeparated (trimLeft left) (trimRight right) := by
    rw [IsSeparated, getLast?_trimLeft hleft.notBlank, head?_trimRight hright.notBlank]
    exact hseparated
  have htrimmed := isTrimmed_trim (left ++ relation.symbol ++ right)
  have hleaf := hstable.trimLeft.trimRight.leaf
  rw [← trim, htrim] at hleaf
  rw [htrim] at htrimmed
  rw [shape_of_not_blank hstable.leaf.notBlank, htrim,
    normalize_symbol hleft.trimLeft.hasNoKeyword hright.trimRight.hasNoKeyword, trim_eq_self htrimmed.1 htrimmed.2,
    hleaf.shapeOf_eq,
    testOf_symbol_of_isSide hleft.trimLeft hright.trimRight hseparated' htrimmed,
    trim_trimLeft, trim_trimRight]

/-- Where a keyword operator stands nowhere between blanks, nothing is written for it. -/
theorem eq_of_not_standsSpaced {word symbol t u : Text} (h : Rewrites word symbol t u)
    (hno : ¬ StandsSpaced word t) : u = t := by
  induction h with
  | nil => rfl
  | @keep c t u _ ih =>
      rw [ih]
      rintro ⟨before, after, rfl, hbefore, hafter⟩
      refine hno ⟨c :: before, after, rfl, ?_, hafter⟩
      rwa [← List.singleton_append, getLast?_append_of_ne_nil _ (by rintro rfl; simp at hbefore)]
  | @swap l r t u hl hr hbl hbr _ _ =>
      refine absurd ⟨l, r ++ t, by simp, getLast?_of_isBlankText hl hbl, ?_⟩ hno
      rw [head?_append_of_ne_nil hr]
      exact head?_of_isBlankText hr hbr

theorem writeSymbols_append (front back : List (Text × Relation)) (t : Text) :
    writeSymbols (front ++ back) t = writeSymbols back (writeSymbols front t) :=
  List.foldl_append

theorem writeSymbols_of_not_standsSpaced {operators : List (Text × Relation)} {t : Text}
    (h : ∀ keyword ∈ operators, ¬ StandsSpaced keyword.1 t) : writeSymbols operators t = t := by
  induction operators with
  | nil => rfl
  | cons keyword operators ih =>
      rw [writeSymbols_cons, eq_of_not_standsSpaced (rewrites_spaced keyword t)
        (h keyword List.mem_cons_self)]
      exact ih fun k hk => h k (List.mem_cons_of_mem _ hk)

section Keyword

variable {keyword : Text × Relation} (hleft : HasNoKeyword left) (hright : HasNoKeyword right)
  (hk : keyword ∈ keywords) (hfits : (Operator.keyword keyword hk).Fits left right)

include hleft hright hfits

/-- No other keyword operator stands between blanks in a comparison. -/
theorem eq_keyword_of_standsSpaced {other : Text × Relation} (ho : other ∈ keywords)
    (h : StandsSpaced other.1 (left ++ keyword.1 ++ right)) : other = keyword := by
  obtain ⟨before, after, h, hbefore, hafter⟩ := h
  have hinj : ∀ a ∈ keywords, ∀ b ∈ keywords, a.1 = b.1 → a = b := by decide
  exact hinj other ho keyword hk
    (eq_operator_of_standsSpaced hleft hright hfits ho h hbefore hafter).2.1

/-- And this one stands there once. -/
theorem not_doubled_keyword : ¬ Doubled keyword.1 (left ++ keyword.1 ++ right) := by
  rintro ⟨before, gap, after, h, hbefore, hgap, hblank, hafter⟩
  have hgaps : (gap ++ keyword.1 ++ after).head?.map isBlank = some true := by
    rw [List.append_assoc, head?_append_of_ne_nil hgap]
    exact head?_of_isBlankText hgap hblank
  obtain ⟨-, -, rfl⟩ := eq_operator_of_standsSpaced hleft hright hfits hk
    (by rw [Operator.text, h]; simp) hbefore hgaps
  exact hright _ hk ⟨gap, after, rfl, getLast?_all_of_isBlankText hblank, all_isBlank_of_map hafter⟩

/-- The keyword operator of a comparison is written as its symbol, with one space for the blanks
on either side. -/
theorem replaceBy_keyword : ∃ p l r rest, left = p ++ l ∧ right = r ++ rest ∧ l ≠ [] ∧
    isBlankText l = true ∧ isBlankText r = true ∧
    replaceBy (widthSpaced keyword.1) (spaced keyword.2) (left ++ keyword.1 ++ right)
      = p ++ spaced keyword.2 ++ rest := by
  rcases replaceBy_cases keyword.1 keyword.2.symbol (left ++ keyword.1 ++ right) with hnone |
    ⟨p, l, r, rest, rest', hsplit, hl, hr, hbl, hbr, hrest, hreplace⟩
  · obtain ⟨q, -, ⟨first, rfl⟩, hfound⟩ := widthSpaced_ne_zero (ne_nil_of_mem_keywords hk)
      (fun _ => isBlank_of_mem_keyword hk) hfits.1 hfits.2
    exact absurd (hnone _ ⟨first, by simp⟩) hfound
  · have hedge : (p ++ l).getLast?.map isBlank = some true := by
      rw [getLast?_append_of_ne_nil _ hl]
      exact getLast?_of_isBlankText hl hbl
    have hedge' : (r ++ rest).head?.map isBlank = some true := by
      rw [head?_append_of_ne_nil hr]
      exact head?_of_isBlankText hr hbr
    obtain ⟨hp, -, hr'⟩ := eq_operator_of_standsSpaced hleft hright hfits hk
      (by rw [Operator.text, hsplit]; simp) hedge hedge'
    -- Behind the first one there is none, so the rest is as it was.
    obtain rfl : rest' = rest := by
      refine eq_of_not_standsSpaced hrest ?_
      rintro ⟨before, after, rfl, hbefore, hafter⟩
      refine hright _ hk ⟨r ++ before, after, by rw [← hr']; simp, ?_, all_isBlank_of_map hafter⟩
      rw [getLast?_append_of_ne_nil _ (by rintro rfl; simp at hbefore)]
      exact all_isBlank_of_map hbefore
    exact ⟨p, l, r, rest', hp.symm, hr'.symm, hl, hbl, hbr, hreplace⟩

/-- Writing all keyword operators of a comparison as symbols is writing its own one. -/
theorem normalize_keyword : normalize (left ++ keyword.1 ++ right)
    = replaceBy (widthSpaced keyword.1) (spaced keyword.2) (left ++ keyword.1 ++ right) := by
  obtain ⟨front, back, hkeywords, hfront⟩ := List.eq_append_cons_of_mem hk
  have hmem : ∀ other ∈ front ++ keyword :: back, other ∈ keywords := fun other ho =>
    hkeywords ▸ ho
  have hbefore : writeSymbols front (left ++ keyword.1 ++ right) = left ++ keyword.1 ++ right :=
    writeSymbols_of_not_standsSpaced fun other ho hspaced => hfront
      (eq_keyword_of_standsSpaced hleft hright hk hfits (hmem other (List.mem_append_left _ ho))
        hspaced ▸ ho)
  have hafter : ∀ other ∈ back, ¬ StandsSpaced other.1
      (replaceBy (widthSpaced keyword.1) (spaced keyword.2) (left ++ keyword.1 ++ right)) := by
    intro other ho hspaced
    have hother := hmem other (List.mem_append_right _ (List.mem_cons_of_mem _ ho))
    obtain rfl := eq_keyword_of_standsSpaced hleft hright hk hfits hother
      (hspaced.of_replaceBy hk (ne_nil_of_mem_keywords hother) (isWordlike_of_mem_keywords hother))
    obtain ⟨before, after, h, hbefore, hafter⟩ := hspaced
    exact not_doubled_keyword hleft hright hk hfits (left_of_replaceBy hk h hbefore hafter).1
  have hall : normalize (left ++ keyword.1 ++ right)
      = writeSymbols (keyword :: back) (writeSymbols front (left ++ keyword.1 ++ right)) := by
    rw [← writeSymbols_append, ← hkeywords]
    rfl
  rw [hall, hbefore, writeSymbols_cons, writeSymbols_of_not_standsSpaced hafter]

end Keyword

/-- **A comparison with a keyword operator** is read as the one with its symbol. -/
theorem shape_keyword {keyword : Text × Relation} (hleft : IsSide left) (hright : IsSide right)
    (hk : keyword ∈ keywords) (hfits : (Operator.keyword keyword hk).Fits left right) :
    shape (left ++ keyword.1 ++ right) = .test (.compare ⟨trim left, keyword.2, trim right⟩) := by
  have hstable : IsStable (left ++ keyword.1 ++ right) := isStable_compare hleft hright hfits
  obtain ⟨p, l, r, rest, hp, hr, -, hbl, hbr, hreplace⟩ :=
    replaceBy_keyword hleft.hasNoKeyword hright.hasNoKeyword hk hfits
  have hspace : isBlankText [' '] = true := by decide
  have hpleft : trim (p ++ [' ']) = trim left := by
    rw [hp, trim_append_blank _ hspace, trim_append_blank _ hbl]
  have hrright : trim (' ' :: rest) = trim right := by
    rw [hr, trim_cons_blank isBlank_space, trim, trim, trimLeft_append_of_blank hbr]
  have hseparated : IsSeparated (p ++ [' ']) (' ' :: rest) := by
    refine ⟨fun c hc relation hmem => ?_, by simp⟩
    rw [List.getLast?_concat, Option.some.injEq] at hc
    rw [← hc] at hmem
    exact absurd (isBlank_of_mem_symbol hmem) (by decide)
  have hwritten : normalize (left ++ keyword.1 ++ right)
      = (p ++ [' ']) ++ keyword.2.symbol ++ ' ' :: rest := by
    rw [normalize_keyword hleft.hasNoKeyword hright.hasNoKeyword hk hfits, hreplace, spaced]
    simp
  rw [← hstable.shape_normalize, hwritten,
    shape_symbol (hleft.congr_trim hpleft) (hright.congr_trim hrright) _ hseparated, hpleft,
    hrright]

end Reading

/-! ## The value of a leaf -/

namespace Leaf

/-- The test that a leaf writes. -/
def test : Leaf → Test
  | word _ w _ _ _ _ _ => testOf w
  | compare left operator right _ _ _ => .compare ⟨trim left, operator.relation, trim right⟩

/-- The symbol of a comparison is not taken for a longer one or for one that begins before it. -/
def IsSeparated : Leaf → Prop
  | word _ _ _ _ _ _ _ => True
  | compare left operator right _ _ _ =>
    match operator with
    | .symbol _ => Condition.IsSeparated left right
    | .keyword _ _ => True

/-- **A leaf holds** as its test does, however it is spelled. -/
theorem evaluate_eq (leaf : Leaf) (h : leaf.IsSeparated) (scope : Scope) :
    evaluate leaf.text scope = leaf.test.holds scope := by
  refine evaluate_of_shape_test ?_ scope
  cases leaf with
  | word lead w tail hlead htail hbare hfree => exact shape_word hlead htail hbare hfree
  | compare left operator right hleft hright hfits =>
      cases operator with
      | symbol relation => exact shape_symbol hleft hright relation h
      | keyword entry hk => exact shape_keyword hleft hright hk hfits

/-- Two leaves that differ at most in how they are spelled. -/
def Alike (leaf other : Leaf) : Prop :=
  leaf = other ∨ leaf.IsSeparated ∧ other.IsSeparated ∧ leaf.test = other.test

theorem alike_refl (leaf : Leaf) : leaf.Alike leaf := .inl rfl

theorem Alike.evaluate {leaf other : Leaf} (h : leaf.Alike other) (scope : Scope) :
    evaluate leaf.text scope = evaluate other.text scope := by
  rcases h with rfl | ⟨hleaf, hother, htest⟩
  · rfl
  · rw [leaf.evaluate_eq hleaf, other.evaluate_eq hother, htest]

end Leaf

end Questionnaire.Condition
