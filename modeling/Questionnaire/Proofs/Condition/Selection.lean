import Questionnaire.Proofs.Condition.Shape
import Questionnaire.Proofs.Text.LowerCase

/-!
# Asking for an option

A condition `v IS label` about the answer to a question. Whatever the label is,
as long as it has no word and no sign that conditions use, the whole text reads
as one comparison of `v` with the label (`shape_isText`); and unless the label is a
number, quoted, declared or a computation, the comparison is one of texts
(`evaluate_isText`).
-/

namespace Questionnaire.Condition

open Text Decimal

/-- A label that conditions take as it stands: it is no plain number and not
quoted, nobody has declared it as a name, and it holds no word of conditions and
no connective. -/
structure IsPlainLabel (declared : List Text) (label : Text) : Prop where
  /-- It is no plain number. -/
  notNumber : isPlainNumber label = false
  /-- It does not stand between two equal quotation marks. -/
  notQuoted : ∀ mark inner, mark = '\'' ∨ mark = '"' → label ≠ mark :: inner ++ [mark]
  /-- It is no declared name. -/
  notDeclared : label ∉ declared
  /-- None of its words means something in a condition. -/
  noWord : ∀ word ∈ words label, word.2 ∉ conditionWords
  /-- It holds no OR. -/
  noOr : ¬ "||".toList <:+: label
  /-- It holds no AND. -/
  noAnd : ¬ "&&".toList <:+: label

/-- The condition that an option has been chosen. -/
def isText (v label : Text) : Text := v ++ " IS ".toList ++ label

/-- A name, a word and a label with a space between each two. -/
def between (v word label : Text) : Text := v ++ ' ' :: (word ++ ' ' :: label)

/-! ## Reading the comparison -/

private theorem infix_of_infix_append {mark p s : Text} (hne : mark ≠ [])
    (hp : ∀ c ∈ mark, c ∉ p) (h : mark <:+: p ++ s) : mark <:+: s := by
  induction p with
  | nil => exact h
  | cons d p ih =>
      rw [List.cons_append, List.infix_cons_iff] at h
      rcases h with hpre | h
      · obtain ⟨c, mark, rfl⟩ := List.exists_cons_of_ne_nil hne
        rw [List.cons_prefix_cons] at hpre
        exact absurd (by simp [hpre.1]) (hp c List.mem_cons_self)
      · exact ih (fun c hc hmem => hp c hc (List.mem_cons_of_mem _ hmem)) h

/-- A run of word characters ends at a space. -/
theorem takeWhile_isWord {v : Text} (rest : Text) (h : v.all isWord = true) :
    (v ++ ' ' :: rest).takeWhile isWord = v := by
  rw [List.takeWhile_append_of_pos (by simpa using h)]
  simp [show isWord ' ' = false by decide]

section Reading

variable {v label : Text}

private theorem isText_eq (v label : Text) : isText v label = between v "IS".toList label := by
  simp [isText, between]

private theorem openWords_isText (hv : isBareWord v = true) :
    openWords (isText v label) = v :: "IS".toList :: openWords label := by
  rw [isText_eq, between, openWords_append_break _ _ (by decide),
    openWords_append_break _ _ (by decide), openWords_of_isBareWord hv,
    openWords_of_isBareWord (t := "IS".toList) (by decide)]
  rfl

/-- **The keyword becomes a symbol and nothing else changes.** -/
private theorem normalize_isText (hv : isBareWord v = true) (hkey : v ∉ conditionWords)
    (hhead : ∀ c, label.head? = some c → isBlank c = false)
    (hwords : ∀ w ∈ openWords label, w ∉ conditionWords) :
    normalize (isText v label) = between v Relation.equal.symbol label := by
  -- `IS` is the last keyword; the ones before it are words of neither side.
  have hfirst : ∀ k ∈ keywords.take 5, replaceBy (widthSpaced k.1) (spaced k.2) (isText v label)
      = isText v label := by
    intro k hk
    have hcond : k.1 ∈ conditionWords :=
      List.mem_append_left _ (List.mem_map_of_mem (List.mem_of_mem_take hk))
    refine replaceBy_of_no_word _ (isBareWord_of_mem_conditionWords hcond) ?_
    rw [openWords_isText hv]
    intro hmem
    rcases List.mem_cons.mp hmem with h | h
    · exact hkey (h ▸ hcond)
    rcases List.mem_cons.mp h with h | h
    · have hnot : ∀ k ∈ keywords.take 5, k.1 ≠ "IS".toList := by decide
      exact hnot k hk h
    · exact hwords _ h hcond
  have hlast : replaceBy (widthSpaced "IS".toList) (spaced .equal) (isText v label)
      = between v Relation.equal.symbol label := by
    have hall : v.all isWord = true := by
      simp only [isBareWord, Bool.and_eq_true] at hv
      exact hv.2
    have := replaceBy_word "IS".toList (spaced .equal) (by decide) hall hhead
      (fun hmem => hwords _ hmem (by decide))
    rw [isText_eq, between, this]
    simp [spaced, between]
  simp only [keywords, List.take_succ_cons, List.take_zero, List.mem_cons, List.not_mem_nil,
    or_false, forall_eq_or_imp, forall_eq] at hfirst
  simp only [normalize, keywords, List.foldl_cons, List.foldl_nil, hfirst, hlast]

private theorem trim_between (hv : v.all isWord = true) (hne : v ≠ []) (hlabel : label ≠ [])
    (htrim : trim label = label) (word : Text) :
    trim (between v word label) = between v word label := by
  refine trim_eq_self (fun c hc => ?_) (fun c hc => ?_)
  · obtain ⟨d, v, rfl⟩ := List.exists_cons_of_ne_nil hne
    have hd : d = c := by simpa [between] using hc
    exact isBlank_of_isWord (List.all_eq_true.mp hv c (hd ▸ List.mem_cons_self))
  · refine trim_last (t := label) (c := c) ?_
    obtain ⟨d, rest, rfl⟩ := List.exists_cons_of_ne_nil hlabel
    rw [htrim]
    have hsplit : between v word (d :: rest) = (v ++ ' ' :: (word ++ [' '])) ++ d :: rest := by
      simp [between]
    rw [hsplit, List.getLast?_append] at hc
    simpa using hc

/-- The quantifier would have to be `v`, or go on behind the beginning of `v`. -/
theorem quantified?_symbol (hv : v.all isWord = true) (hkey : v ∉ conditionWords)
    (rest : Text) : quantified? (v ++ ' ' :: rest) = none := by
  cases ha : after? "STARTS_WITH".toList (v ++ ' ' :: rest) with
  | none => rw [quantified?, ha, Option.bind_none]
  | some behind =>
      have hblanks : blanks behind = 0 := by
        have hword := takeWhile_isWord rest hv
        rw [after?_eq_some.mp ha, List.takeWhile_append_of_pos (List.all_eq_true.mp (by decide))]
          at hword
        cases behind with
        | nil => rfl
        | cons c behind =>
            by_cases hc : isWord c = true
            · simp [blanks, isBlank_of_isWord hc]
            · rw [List.takeWhile_cons_of_neg hc, List.append_nil] at hword
              exact absurd (hword ▸ by decide) hkey
      rw [quantified?, ha, Option.bind_some, if_pos hblanks]

private theorem ofText?_symbol (hv : v.all isWord = true) (hne : v ≠ []) (hlabel : label ≠ [])
    (htrim : trim label = label) :
    Comparison.ofText? (between v Relation.equal.symbol label) = some ⟨v, .equal, label⟩ := by
  have hblank : ∀ c ∈ v, isBlank c = false := fun c hc =>
    isBlank_of_isWord (List.all_eq_true.mp hv c hc)
  have hspace : isBlank ' ' = true := by decide
  have htrimv : trim (v ++ [' ']) = v := by
    rw [trim_concat_blank hspace, trim_of_no_blank hblank]
  have hskip : ∀ c ∈ v ++ [' '], c ≠ '=' ∧ c ≠ '!' ∧ c ≠ '>' ∧ c ≠ '<' := by
    intro c hc
    rcases List.mem_append.mp hc with hc | hc
    · have hword := List.all_eq_true.mp hv c hc
      refine ⟨?_, ?_, ?_, ?_⟩ <;> (rintro rfl; exact absurd hword (by decide))
    · rw [List.mem_singleton.mp hc]
      decide
  have hfind := find?_append [] ('=' :: '=' :: ' ' :: label) hskip
  rw [Comparison.ofText?, trim_between hv hne hlabel htrim, between, Relation.symbol]
  rw [List.append_assoc, List.singleton_append] at hfind
  refine hfind.trans ?_
  simp [Comparison.find?, relationAt?, relations, Relation.symbol, after?, htrimv,
    trim_cons_blank hspace, htrim]

private theorem testOf_symbol (hv : isBareWord v = true) (hkey : v ∉ conditionWords)
    (hlabel : label ≠ []) (htrim : trim label = label) :
    testOf (between v Relation.equal.symbol label) = .compare ⟨v, .equal, label⟩ := by
  have hspace : ' ' ∈ between v Relation.equal.symbol label := by simp [between]
  have hlower : ∀ w : Text, ' ' ∉ w → lower (between v Relation.equal.symbol label) ≠ w :=
    fun w hw h => hw (h ▸ mem_lower hspace (by decide) (by decide))
  simp only [isBareWord, Bool.and_eq_true, Bool.not_eq_true', List.isEmpty_eq_false_iff] at hv
  have hbare : isBareWord (between v Relation.equal.symbol label) = false := by
    simp [between, isBareWord, show isWord ' ' = false by decide]
  rw [testOf, if_neg (hlower _ (by decide)), if_neg (hlower _ (by decide)), hbare,
    between, quantified?_symbol hv.2 hkey, ← between, ofText?_symbol hv.2 hv.1 hlabel htrim]
  rfl

/-- **The condition is one comparison.** -/
theorem shape_isText {declared : List Text} (hv : isBareWord v = true)
    (hkey : v ∉ conditionWords) (hplain : IsPlainLabel declared label) (hlabel : label ≠ [])
    (htrim : trim label = label) :
    shape (isText v label) = .test (.compare ⟨v, .equal, label⟩) := by
  have hwords : ∀ w ∈ openWords label, w ∉ conditionWords := by
    intro w hw
    obtain ⟨before, hmem⟩ := mem_words_of_mem_openWords hw
    exact hplain.noWord _ hmem
  have hvall : v.all isWord = true ∧ v ≠ [] := by
    simp only [isBareWord, Bool.and_eq_true, Bool.not_eq_true', List.isEmpty_eq_false_iff] at hv
    exact ⟨hv.2, hv.1⟩
  have hhead : ∀ c, label.head? = some c → isBlank c = false := by
    rw [← htrim]
    exact fun c => trim_head
  have hblank : isBlankText (isText v label) = false := by
    obtain ⟨c, v, rfl⟩ := List.exists_cons_of_ne_nil hvall.2
    have hc : isBlank c = false := isBlank_of_isWord (List.all_eq_true.mp hvall.1 c (by simp))
    simp [isBlankText, isText, hc]
  have hopen : openWords (between v Relation.equal.symbol label) = v :: openWords label := by
    rw [between, openWords_append_break _ _ (by decide), openWords_of_isBareWord hv,
      openWords_append_breaks_left (by decide), openWords_cons_break (by decide)]
    rfl
  -- Every connective is looked for and not found.
  have hnot : after? "NOT ".toList (between v Relation.equal.symbol label) = none := by
    cases ha : after? "NOT ".toList (between v Relation.equal.symbol label) with
    | none => rfl
    | some rest =>
        have hword := takeWhile_isWord (Relation.equal.symbol ++ ' ' :: label) hvall.1
        rw [between] at ha
        rw [after?_eq_some.mp ha] at hword
        exact absurd (hword ▸ (by decide : "NOT".toList ∈ conditionWords)) hkey
  have hconnective : ∀ word ∈ ["OR".toList, "AND".toList],
      word ∉ openWords (between v Relation.equal.symbol label) := by
    intro word hword hmem
    have hcond : word ∈ conditionWords := by
      have hall : ∀ w ∈ ["OR".toList, "AND".toList], w ∈ conditionWords := by decide
      exact hall word hword
    rw [hopen] at hmem
    rcases List.mem_cons.mp hmem with rfl | hmem
    · exact hkey hcond
    · exact hwords _ hmem hcond
  -- A connective written in signs cannot begin before the label.
  have hmark : ∀ c : Char, c = '|' ∨ c = '&' → ¬ [c, c] <:+: label →
      ¬ [c, c] <:+: between v Relation.equal.symbol label := by
    intro c hc hlabel hinfix
    refine hlabel (infix_of_infix_append (p := v ++ [' ', '=', '=', ' ']) (by simp) ?_
      (by simpa [between, Relation.symbol] using hinfix))
    intro d hd hmem
    obtain rfl : d = c := by simpa using hd
    rcases List.mem_append.mp hmem with hmem | hmem
    · have := List.all_eq_true.mp hvall.1 d hmem
      rcases hc with rfl | rfl <;> exact absurd this (by decide)
    · rcases hc with rfl | rfl <;> exact absurd hmem (by decide)
  rw [shape, hblank, if_neg (by simp), isText_eq, trim_between hvall.1 hvall.2 hlabel htrim,
    ← isText_eq, normalize_isText hv hkey hhead hwords,
    trim_between hvall.1 hvall.2 hlabel htrim, shapeOf, hnot,
    pieces?_widthOr (hconnective _ (by simp)) (hmark '|' (.inl rfl) hplain.noOr),
    pieces?_widthAnd (hconnective _ (by simp)) (hmark '&' (.inr rfl) hplain.noAnd),
    testOf_symbol hv hkey hlabel htrim]

end Reading

/-! ## Answering the comparison -/

section Answering

variable {v label : Text} {declared : List Text}

private theorem unquote_of_isPlainLabel (hplain : IsPlainLabel declared label)
    (htrim : trim label = label) : unquote label = label := by
  rw [unquote, htrim]
  cases label with
  | nil => rfl
  | cons c rest =>
      simp only
      rw [if_neg]
      intro hquoted
      simp only [Bool.and_eq_true, Bool.or_eq_true, decide_eq_true_eq] at hquoted
      obtain ⟨hmark, hlast⟩ := hquoted
      obtain ⟨inner, rfl⟩ := List.getLast?_eq_some_iff.mp hlast
      exact hplain.notQuoted c inner hmark rfl

/-- **The condition asks whether the answer is the label**, character by
character, where `v` has a text for an answer and the label names nothing. -/
theorem evaluate_isText {scope : Scope} {answer : Text} (hv : isBareWord v = true)
    (hkey : v ∉ conditionWords) (hplain : IsPlainLabel declared label) (hlabel : label ≠ [])
    (htrim : trim label = label) (hcomp : Formula.isComputation label = false)
    (hanswer : scope.get? v = some (.text answer)) (hnone : scope.get? label = none) :
    evaluate (isText v label) scope = (answer == label) := by
  rw [evaluate_of_shape_test (shape_isText hv hkey hplain hlabel htrim), Test.holds,
    Test.answer?, Comparison.answer?]
  have hhas : scope.has label = false := by simp [Scope.has, hnone]
  have hempty : label.isEmpty = false := by simpa using hlabel
  simp only [Formula.isComputation_of_isBareWord hv, hcomp, hhas, Bool.or_false, Bool.and_false,
    Bool.false_and, unquote_of_isPlainLabel hplain htrim, hempty, hanswer]
  simp [comparesText?, equals?, hplain.notNumber]

end Answering

end Questionnaire.Condition
