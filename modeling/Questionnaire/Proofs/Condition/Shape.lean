import Questionnaire.Condition.Holds
import Questionnaire.Proofs.Text.Cut

/-!
# The shape of a condition

What the reading of a condition does with one that is a single comparison. The
keyword operators are looked for as words between blanks, so a condition
without such words is left as it is (`normalize_of_no_word`), and one without
connectives is not cut (`pieces?_of_no_match`).
-/

namespace Questionnaire.Condition

open Text

/-- The words that mean something in a condition: the keyword operators, the
connectives, the negation and the quantifier. -/
def conditionWords : List Text :=
  keywords.map Prod.fst
    ++ ["AND".toList, "OR".toList, "NOT".toList, "STARTS_WITH".toList]

theorem isBareWord_of_mem_conditionWords {w : Text} (h : w ∈ conditionWords) :
    isBareWord w = true := by
  have hall : ∀ w ∈ conditionWords, isBareWord w = true := by decide
  exact hall w h

/-! ## Keyword operators -/

/-- A word that a text does not have is nowhere found in it. -/
theorem widthSpaced_eq_zero {word t : Text} (hword : isBareWord word = true)
    (h : word ∉ openWords t) : ∀ s, s <:+ t → widthSpaced word s = 0 := by
  rintro s ⟨p, rfl⟩
  by_cases hne : widthSpaced word s = 0
  · exact hne
  · exact absurd (mem_openWords_of_widthSpaced hword hne) h

theorem replaceBy_of_no_word {word t : Text} (replacement : Text)
    (hword : isBareWord word = true) (h : word ∉ openWords t) :
    replaceBy (widthSpaced word) replacement t = t :=
  replaceBy_of_no_match replacement (widthSpaced_eq_zero hword h)

/-- A keyword between two blanks is written as its symbol, and the text behind
it, which starts with no blank, follows. -/
theorem replaceBy_word (word replacement : Text) {p rest : Text} (hword : isBareWord word = true)
    (hp : p.all isWord = true) (hrest : ∀ c, rest.head? = some c → isBlank c = false)
    (h : word ∉ openWords rest) :
    replaceBy (widthSpaced word) replacement (p ++ ' ' :: (word ++ ' ' :: rest))
      = p ++ replacement ++ rest := by
  have hb : blanks rest = 0 := by
    cases rest with
    | nil => rfl
    | cons c rest => simp [blanks, hrest c rfl]
  have hblank : isBlank ' ' = true := by decide
  have hw : ∀ c, word.head? = some c → isBlank c = false := by
    intro c hc
    obtain ⟨d, word, rfl⟩ := List.exists_cons_of_ne_nil (show word ≠ [] by rintro rfl; simp at hc)
    simp only [isBareWord, List.all_cons, Bool.and_eq_true] at hword
    simp only [List.head?_cons, Option.some.injEq] at hc
    exact hc ▸ isBlank_of_isWord hword.2.1
  have hleft : blanks (' ' :: (word ++ ' ' :: rest)) = 1 := by
    cases word with
    | nil => simp [isBareWord] at hword
    | cons d word => simp [blanks, hblank, hw d rfl]
  -- The match is the blank before the keyword, the keyword and the one blank behind it.
  have hwidth : widthSpaced word (' ' :: (word ++ ' ' :: rest)) = (word.length + 1) + 1 := by
    have hright : blanks (' ' :: rest) = 1 := by
      have hb' : (rest.takeWhile isBlank).length = 0 := hb
      simp [blanks, hblank, hb']
    simp only [widthSpaced, hleft, List.drop_succ_cons, List.drop_zero, after?_append, hright]
    simp
    omega
  rw [replaceBy_append replacement p _ _ hwidth]
  · have hdrop : (word ++ ' ' :: rest).drop (word.length + 1) = rest := by
      rw [List.drop_append]
      simp
    rw [hdrop, replaceBy_of_no_word replacement hword h]
  · -- No match begins earlier, where the text goes on with a word character.
    intro q hq hsuffix
    obtain ⟨d, q, rfl⟩ := List.exists_cons_of_ne_nil hq
    have hd : isWord d = true := by
      rw [List.all_eq_true] at hp
      exact hp d (hsuffix.subset List.mem_cons_self)
    simp [widthSpaced, blanks, isBlank_of_isWord hd]

/-- A condition without keyword operators is left as it is. -/
theorem normalize_of_no_word {t : Text} (h : ∀ w ∈ openWords t, w ∉ conditionWords) :
    normalize t = t := by
  have hgen : ∀ (ks : List (Text × Relation)), (∀ k ∈ ks, k.1 ∈ conditionWords) →
      ks.foldl (fun t keyword => replaceBy (widthSpaced keyword.1) (spaced keyword.2) t) t
        = t := by
    intro ks
    induction ks with
    | nil => intro _; rfl
    | cons k ks ih =>
        intro hks
        have hk := hks k List.mem_cons_self
        rw [List.foldl_cons, replaceBy_of_no_word _ (isBareWord_of_mem_conditionWords hk)
          fun hmem => h _ hmem hk]
        exact ih fun k hk => hks k (List.mem_cons_of_mem _ hk)
  refine hgen keywords fun k hk => ?_
  exact List.mem_append_left _ (List.mem_map_of_mem hk)

/-! ## Connectives -/

theorem widthLoose_eq_zero {mark t : Text} (h : ¬ mark <:+: t) :
    ∀ s, s <:+ t → widthLoose mark s = 0 := by
  rintro s ⟨p, rfl⟩
  by_cases hne : widthLoose mark s = 0
  · exact hne
  · obtain ⟨before, after, rest, rfl, _⟩ := widthLoose_spec hne
    exact absurd ⟨p ++ before, after ++ rest, by simp⟩ h

theorem pieces?_of_no_match {width : Text → Nat} {t : Text}
    (h : ∀ s, s <:+ t → width s = 0) : pieces? width t = none := by
  simp [pieces?, splitBy_of_no_match h]

theorem pieces?_widthOr {t : Text} (hword : "OR".toList ∉ openWords t)
    (hmark : ¬ "||".toList <:+: t) : pieces? widthOr t = none := by
  refine pieces?_of_no_match fun s hs => ?_
  rw [widthOr, widthSpaced_eq_zero (by decide) hword s hs]
  exact widthLoose_eq_zero hmark s hs

theorem pieces?_widthAnd {t : Text} (hword : "AND".toList ∉ openWords t)
    (hmark : ¬ "&&".toList <:+: t) : pieces? widthAnd t = none := by
  refine pieces?_of_no_match fun s hs => ?_
  rw [widthAnd, widthSpaced_eq_zero (by decide) hword s hs]
  exact widthLoose_eq_zero hmark s hs

/-! ## Comparisons -/

/-- A character that no symbol of a relation starts with. -/
theorem relationAt?_eq_none {c : Char} (h : c ≠ '=' ∧ c ≠ '!' ∧ c ≠ '>' ∧ c ≠ '<') (t : Text) :
    relationAt? (c :: t) = none := by
  have hafter : ∀ (relation : Relation) (d : Char) (rest : Text),
      relation.symbol = d :: rest → d ≠ c → after? relation.symbol (c :: t) = none := by
    intro relation d rest hs hd
    simp [hs, after?, hd]
  obtain ⟨h1, h2, h3, h4⟩ := h
  simp [relationAt?, relations, hafter .equal '=' ['='] rfl (Ne.symm h1),
    hafter .different '!' ['='] rfl (Ne.symm h2), hafter .atLeast '>' ['='] rfl (Ne.symm h3),
    hafter .atMost '<' ['='] rfl (Ne.symm h4), hafter .above '>' [] rfl (Ne.symm h3),
    hafter .below '<' [] rfl (Ne.symm h4)]

/-- A comparison is looked for behind everything that is no symbol. -/
theorem find?_append {q : Text} (before s : Text)
    (h : ∀ c ∈ q, c ≠ '=' ∧ c ≠ '!' ∧ c ≠ '>' ∧ c ≠ '<') :
    Comparison.find? before (q ++ s) = Comparison.find? (q.reverse ++ before) s := by
  induction q generalizing before with
  | nil => rfl
  | cons c q ih =>
      have hnone : (if before.isEmpty then none else relationAt? (c :: (q ++ s))) = none := by
        split
        · rfl
        · exact relationAt?_eq_none (h c List.mem_cons_self) _
      simp only [List.cons_append, Comparison.find?, hnone]
      rw [ih (c :: before) fun d hd => h d (List.mem_cons_of_mem _ hd)]
      simp

/-! ## The tree of a condition -/

theorem ofText_of_always {t : Text} (h : shape t = .always) : ofText t = .always := by
  rw [ofText]
  split <;> simp_all

theorem ofText_of_test {t : Text} {single : Test} (h : shape t = .test single) :
    ofText t = .test t single := by
  rw [ofText]
  split <;> simp_all

theorem ofText_of_denial {t rest : Text} (h : shape t = .denial rest) :
    ofText t = .denial (ofText rest) := by
  rw [ofText]
  split <;> simp_all

theorem ofText_of_anyOf {t : Text} {parts : List Text} (h : shape t = .anyOf parts) :
    ofText t = chain .either (parts.map ofText) := by
  rw [ofText]
  split <;> simp_all

theorem ofText_of_allOf {t : Text} {parts : List Text} (h : shape t = .allOf parts) :
    ofText t = chain .both (parts.map ofText) := by
  rw [ofText]
  split <;> simp_all

/-! ## Single tests -/

theorem evaluate_of_shape_test {t : Text} {single : Test} (h : shape t = .test single)
    (scope : Scope) : evaluate t scope = single.holds scope := by
  rw [evaluate, ofText_of_test h, holds]

end Questionnaire.Condition
