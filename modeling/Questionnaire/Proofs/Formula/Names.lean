import Questionnaire.Formula.Evaluate
import Questionnaire.Proofs.Formula.Spelling
import Questionnaire.Proofs.Value.Scope

/-!
# The names of a formula

In a text that is a formula a name stands alone or next to a sign, never behind a
point or a digit. So the names of the formula are the open words of its text that do
not begin with a digit (`filter_openWords`), and looking for names in the characters
finds those of the tree (`identifiers_exact`). The value of the formula depends on
nothing else.
-/

namespace Questionnaire.Formula

open Text Decimal

/-! ## Names among the words -/

/-- A text without tokens is blank. -/
theorem all_isBlank_of_scan {t : Text} (h : scan .nothing t = []) : t.all isBlank = true := by
  have hspelling := spelling_scan .nothing t
  rw [h] at hspelling
  have hnone := List.filter_eq_nil_iff.mp (show t.filter (fun c => !isBlank c) = [] from
    hspelling.symm)
  exact List.all_eq_true.mpr fun c hc => by simpa using hnone c hc

theorem openWords_of_scan {t : Text} (h : scan .nothing t = []) : openWords t = [] := by
  have hbreaks := all_isBreak_of_all_isBlank (all_isBlank_of_scan h)
  simpa using openWords_append_breaks_left hbreaks []

/-- A numeral under way never turns out to be a name. -/
private theorem scan_isNumeral {pending : Pending} (h : pending.isNumeral = true) (t : Text) :
    ∃ token rest, scan pending t = token :: rest ∧ ∀ n, token ≠ .name n := by
  have hclose : ∀ (pending : Pending) (rest : List Token), pending.isNumeral = true →
      ∃ token rest', pending.close ++ rest = token :: rest' ∧ ∀ n, token ≠ .name n := by
    intro pending rest hpending
    cases pending <;> simp_all [Pending.isNumeral, Pending.close]
  induction t generalizing pending with
  | nil =>
      obtain ⟨token, rest, htoken, hname⟩ := hclose pending [] h
      exact ⟨token, rest, by rw [scan, ← htoken, List.append_nil], hname⟩
  | cons c t ih =>
      rw [scan]
      split
      · rename_i longer hlonger
        refine ih ?_
        cases pending <;> simp only [Pending.isNumeral, Bool.false_eq_true] at h
        all_goals
          simp only [Pending.extend?] at hlonger
          repeat' split at hlonger
        all_goals cases hlonger
        all_goals rfl
      · rw [List.append_assoc]
        exact hclose pending _ h

/-- A name under way takes in word characters, and blanks stand behind it. -/
private theorem split_of_scan_name {t reversed n : Text}
    (h : scan (.name reversed) t = [.name n]) :
    ∃ word behind, t = word ++ behind ∧ n = reversed.reverse ++ word ∧
      word.all isWord = true ∧ behind.all isBlank = true := by
  induction t generalizing reversed with
  | nil =>
      simp only [scan, Pending.close, List.cons.injEq, Token.name.injEq, and_true] at h
      exact ⟨[], [], rfl, by simp [h], rfl, rfl⟩
  | cons c t ih =>
      rw [scan, Pending.extend?] at h
      by_cases hword : isWord c = true
      · rw [if_pos hword] at h
        obtain ⟨word, behind, rfl, rfl, hall, hblank⟩ := ih h
        exact ⟨c :: word, behind, rfl, by simp, by simp [hword, hall], hblank⟩
      · rw [if_neg hword] at h
        simp only [Pending.close, List.cons_append, List.nil_append, List.cons.injEq,
          Token.name.injEq, List.append_eq_nil_iff] at h
        refine ⟨[], c :: t, rfl, by simp [h.1], rfl, all_isBlank_of_scan ?_⟩
        simp [scan, Pending.extend?, Pending.close, h.2.1, h.2.2]

/-- A single name is the one word of its text. -/
private theorem openWords_of_tokens_name {t n : Text} (h : tokens t = [.name n]) :
    openWords t = [n] := by
  rw [tokens] at h
  induction t with
  | nil => cases h
  | cons c t ih =>
      simp only [scan, Pending.extend?, Pending.close, List.nil_append] at h
      cases Pending.starts c with
      | blank hblank hstart =>
          rw [openWords_cons_break (isBreak_of_isBlank hblank)]
          exact ih (by simpa [hstart] using h)
      | numeral pending hpending hstart =>
          obtain ⟨token, rest, htoken, hname⟩ := scan_isNumeral hpending t
          simp only [hstart, htoken, List.nil_append, List.cons.injEq] at h
          exact absurd h.1 (hname n)
      | name hword hstart =>
          obtain ⟨word, behind, rfl, rfl, hall, hblank⟩ :=
            split_of_scan_name (t := t) (by simpa [hstart] using h)
          have hbare : isBareWord (c :: word) = true := by simp [isBareWord, hword, hall]
          have hsplit :=
            openWords_append_breaks_right (all_isBreak_of_all_isBlank hblank) (c :: word)
          rw [openWords_of_isBareWord hbare] at hsplit
          simpa using hsplit
      | sign _ hstart => simp [hstart] at h

/-- In a numeral every word begins with a digit. -/
private theorem filter_openWords_of_tokens_number {t numeral : Text}
    (h : tokens t = [.number numeral]) : (openWords t).filter isName = [] := by
  have hplain : isPlainDecimal numeral = true :=
    isLexeme_of_mem_tokens t (.number numeral) (by simp [h])
  have hspelling : numeral = t.filter fun c => !isBlank c := by
    rw [← spelling_tokens, h]
    simp [Token.spelling]
  refine List.filter_eq_nil_iff.mpr fun w hw hname => ?_
  obtain ⟨before, hmem⟩ := mem_words_of_mem_openWords hw
  obtain ⟨hbare, hsub⟩ := isBareWord_of_mem_words hmem
  cases w with
  | nil => cases hname
  | cons c w =>
      have hword : isWord c = true := (isBareWord_iff.mp hbare).2 c List.mem_cons_self
      have hc : c ∈ numeral := by
        rw [hspelling]
        exact List.mem_filter.mpr ⟨hsub List.mem_cons_self, by simp [isBlank_of_isWord hword]⟩
      rcases isDecimal_of_mem_isPlainDecimal hplain hc with hdecimal | rfl
      · simp [isName, startsName, hdecimal] at hname
      · cases hword

/-- **The names of a formula are the open words of its text that are names**, in order. -/
theorem filter_openWords {t : Text} {formula : Formula} (h : ofText t = .ok formula) :
    (openWords t).filter isName = formula.names := by
  -- Along the grammar: where a sign stands among the tokens, the text is cut in two.
  have hgen : ∀ {used : List Token} {formula : Formula}, Writes used formula →
      ∀ {t : Text}, tokens t = used → (openWords t).filter isName = formula.names := by
    intro used formula hwrites
    induction hwrites with
    | number numeral => exact filter_openWords_of_tokens_number
    | name n =>
        intro t ht
        have hname : isName n = true := isLexeme_of_mem_tokens t (.name n) (by simp [ht])
        rw [openWords_of_tokens_name ht, List.filter_cons_of_pos hname, List.filter_nil, names]
    | negated _ ih =>
        intro t ht
        have hsplit : scan .nothing t = [] ++ .symbol '-' :: _ := ht
        obtain ⟨p, q, rfl, hp, hq, hbreak⟩ := scan_eq_append (by decide) hsplit
        rw [openWords_append_break p q hbreak, openWords_of_scan hp, List.nil_append, ih hq, names]
    | plus _ ih =>
        intro t ht
        have hsplit : scan .nothing t = [] ++ .symbol '+' :: _ := ht
        obtain ⟨p, q, rfl, hp, hq, hbreak⟩ := scan_eq_append (by decide) hsplit
        rw [openWords_append_break p q hbreak, openWords_of_scan hp, List.nil_append, ih hq, names]
    | enclosed _ ih =>
        intro t ht
        have hsplit : scan .nothing t = [] ++ .symbol '(' :: _ := ht
        obtain ⟨p, q, rfl, hp, hq, hbreak⟩ := scan_eq_append (by decide) hsplit
        obtain ⟨p', q', rfl, hp', hq', hbreak'⟩ := scan_eq_append (by decide) hq
        rw [openWords_append_break p _ hbreak, openWords_append_break p' q' hbreak',
          openWords_of_scan hp, openWords_of_scan hq', List.nil_append, List.append_nil, ih hp']
    | binary operation _ _ ih ih' =>
        intro t ht
        have hsign : operation.sign ≠ '.' := by cases operation <;> decide
        obtain ⟨p, q, rfl, hp, hq, hbreak⟩ := scan_eq_append hsign ht
        rw [openWords_append_break p q hbreak, List.filter_append, ih hp, ih' hq, names]
  exact hgen (ofText_writes h) rfl

theorem names_subset_openWords {t : Text} {formula : Formula} (h : ofText t = .ok formula) :
    formula.names ⊆ openWords t := by
  rw [← filter_openWords h]
  exact List.filter_sublist.subset

/-- What is looked for in the characters are the open words that are names. -/
theorem identifiers_eq (t : Text) : identifiers t = distinct ((openWords t).filter isName) := by
  rw [identifiers, openWords, List.filter_filterMap]
  refine congrArg distinct (List.filterMap_congr fun word hword => ?_)
  have hname : isName word.2 = (word.2.head?.map startsName).getD false := by
    rw [isName, (isBareWord_of_mem_words hword).1, Bool.true_and]
  by_cases hpoint : word.1 = some '.'
  · simp [hpoint]
  · cases hstart : (word.2.head?.map startsName).getD false <;>
      simp [hpoint, Option.filter_some, hname, hstart]

/-! ## What a formula reads -/

/-- The names in a text that is a formula. -/
def namesIn (t : Text) : List Text :=
  match ofText t with
  | .ok formula => formula.names
  | .error _ => []

theorem namesIn_subset_openWords (t : Text) : namesIn t ⊆ openWords t := by
  rw [namesIn]
  split
  · rename_i formula hof
    exact names_subset_openWords hof
  · exact List.nil_subset _

/-- A formula has one value over two scopes that agree on its names. -/
theorem value?_congr {scope other : Scope} {formula : Formula}
    (h : ∀ n ∈ formula.names, scope.get? n = other.get? n) :
    value? scope formula = value? other formula := by
  induction formula with
  | number numeral => rfl
  | name n =>
      simp only [value?]
      rw [h n (by simp [names])]
  | negated operand ih =>
      simp only [value?]
      rw [ih h]
  | plus operand ih =>
      simp only [value?]
      rw [ih h]
  | binary operation left right ihleft ihright =>
      simp only [value?]
      rw [ihleft fun n hn => h n (List.mem_append_left _ hn),
        ihright fun n hn => h n (List.mem_append_right _ hn)]

/-- **A formula reads its names only.** -/
theorem evaluate_congr {t : Text} {scope other : Scope}
    (h : ∀ n ∈ namesIn t, scope.get? n = other.get? n) : evaluate t scope = evaluate t other := by
  have hvalue : evaluate? t scope = evaluate? t other := by
    rw [evaluate?, evaluate?]
    rw [namesIn] at h
    cases hof : ofText t with
    | error cause => rfl
    | ok formula =>
        rw [hof] at h
        exact value?_congr h
  rw [evaluate, evaluate, hvalue]

/-- **The names are found exactly.** Looking for names in the characters of a formula
gives the names of its tree from left to right, the first of equals only, and its value
depends on no other name. -/
theorem identifiers_exact {t : Text} {formula : Formula} (h : ofText t = .ok formula) :
    identifiers t = formula.names.eraseDups ∧
      ∀ scope other : Scope, (∀ n ∈ identifiers t, scope.get? n = other.get? n) →
        evaluate t scope = evaluate t other := by
  have hnames : identifiers t = formula.names.eraseDups := by
    rw [identifiers_eq, filter_openWords h, distinct_eq_eraseDups]
  refine ⟨hnames, fun scope other hsame => evaluate_congr fun n hn => hsame n ?_⟩
  rw [namesIn, h] at hn
  rw [hnames]
  exact List.mem_eraseDups.mpr hn

/-- A sum with names of any script, one of them twice, and a numeral with a fraction. -/
def scaledRent : Text := "rent+ 2.5*( größe -rent)/x2".toList

/-- The formula of `scaledRent`. -/
def scaledRentFormula : Formula :=
  .binary .add (.name "rent".toList)
    (.binary .divide
      (.binary .multiply (.number "2.5".toList)
        (.binary .subtract (.name "größe".toList) (.name "rent".toList)))
      (.name "x2".toList))

theorem identifiers_scaledRent :
    ofText scaledRent = .ok scaledRentFormula ∧
      identifiers scaledRent = ["rent".toList, "größe".toList, "x2".toList] ∧
      evaluate scaledRent [("food".toList, .int 7), ("rent".toList, .int 3)]
        = evaluate scaledRent [("rent".toList, .int 3)] := by
  have hread : ofText scaledRent = .ok scaledRentFormula := by decide +kernel
  obtain ⟨hnames, hsame⟩ := identifiers_exact hread
  have hlist : identifiers scaledRent = ["rent".toList, "größe".toList, "x2".toList] :=
    hnames.trans (by decide)
  refine ⟨hread, hlist, hsame _ _ fun n hn => ?_⟩
  have hfood : n ≠ "food".toList := by
    rintro rfl
    exact absurd hn (by rw [hlist]; decide)
  rw [Scope.get?_cons, if_neg hfood]

end Questionnaire.Formula
