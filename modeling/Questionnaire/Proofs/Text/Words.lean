import Questionnaire.Proofs.Formula.Distinct
import Questionnaire.Proofs.Text.Trim

/-!
# The words of a text

Everything here follows from one equation, `openWords_append_break`: a
character that belongs to no word and is not a point cuts the words of a text
in two. The words that count for formulas and conditions are the *open* ones,
those that do not stand directly behind a point; the names of a text are its
open words that do not start with a digit.
-/

namespace Questionnaire.Text

/-- The words of a text that do not stand directly behind a point. -/
def openWords (t : Text) : List Text :=
  (words t).filterMap fun word => if word.1 = some '.' then none else some word.2

/-- A character that ends a word and lets the next one be open. -/
def isBreak (c : Char) : Bool := !isWord c && c ≠ '.'

/-- Whether a text has the form of a name: one word that does not start with a
digit. -/
def isName (t : Text) : Bool := isBareWord t && (t.head?.map startsName).getD false

/-! ## Blanks and word characters -/

theorem exists_of_inRanges {ranges : List (Nat × Nat)} {n : Nat}
    (h : inRanges ranges n = true) : ∃ r ∈ ranges, r.1 ≤ n ∧ n ≤ r.2 := by
  induction ranges with
  | nil => simp [inRanges] at h
  | cons r rest ih =>
      obtain ⟨low, high⟩ := r
      simp only [inRanges] at h
      split at h
      · cases h
      · split at h
        · exact ⟨(low, high), by simp, by omega, by omega⟩
        · obtain ⟨r, hr, hn⟩ := ih h
          exact ⟨r, List.mem_cons_of_mem _ hr, hn⟩

/-- The two tables have nothing in common, point by point. -/
private theorem not_inRanges_wordRanges :
    ∀ n ∈ blankRanges.flatMap fun r => List.range' r.1 (r.2 + 1 - r.1),
      inRanges wordRanges n = false := by
  decide +kernel

theorem isWord_of_isBlank {c : Char} (h : isBlank c = true) : isWord c = false := by
  -- ASCII is decided by its code points, everything else by the tables.
  unfold isBlank at h
  unfold isWord
  split at h
  · rename_i hc
    simp only [Bool.or_eq_true, Bool.and_eq_true, decide_eq_true_eq] at h
    simp only [hc, if_true, Bool.or_eq_false_iff, Bool.and_eq_false_iff, decide_eq_false_iff_not,
      beq_eq_false_iff_ne]
    omega
  · rename_i hc
    obtain ⟨r, hr, hlow, hhigh⟩ := exists_of_inRanges h
    simp only [hc, if_false]
    exact not_inRanges_wordRanges _ (List.mem_flatMap.mpr
      ⟨r, hr, List.mem_range'_1.mpr ⟨hlow, by omega⟩⟩)

theorem isBlank_of_isWord {c : Char} (h : isWord c = true) : isBlank c = false := by
  cases hb : isBlank c with
  | false => rfl
  | true => simp [isWord_of_isBlank hb] at h

/-- Nor is a blank among the digits. -/
private theorem all_decimalZeros_blankRanges :
    ∀ n ∈ blankRanges.flatMap fun r => List.range' r.1 (r.2 + 1 - r.1),
      decimalZeros.all (fun start => !(start ≤ n && n ≤ start + 9)) = true := by
  decide +kernel

theorem isDecimal_of_isBlank {c : Char} (h : isBlank c = true) : isDecimal c = false := by
  unfold isBlank at h
  unfold isDecimal digitValue?
  split at h
  · rename_i hc
    simp only [Bool.or_eq_true, Bool.and_eq_true, decide_eq_true_eq] at h
    have hdigit : ¬ (48 ≤ c.toNat ∧ c.toNat ≤ 57) := by omega
    simp [hc, hdigit]
  · rename_i hc
    obtain ⟨r, hr, hlow, hhigh⟩ := exists_of_inRanges h
    have hnone := List.all_eq_true.mp (all_decimalZeros_blankRanges c.toNat (List.mem_flatMap.mpr
      ⟨r, hr, List.mem_range'_1.mpr ⟨hlow, by omega⟩⟩))
    rw [if_neg hc, Option.isSome_map, List.find?_eq_none.mpr]
    · rfl
    · exact fun start hstart => by
        simpa only [Bool.not_eq_true', Bool.not_eq_true] using hnone start hstart

theorem isBlank_of_isDecimal {c : Char} (h : isDecimal c = true) : isBlank c = false := by
  cases hb : isBlank c with
  | false => rfl
  | true => simp [isDecimal_of_isBlank hb] at h

theorem isBreak_of_isBlank {c : Char} (h : isBlank c = true) : isBreak c = true := by
  have hpoint : c ≠ '.' := by
    rintro rfl
    exact absurd h (by decide)
  simp [isBreak, isWord_of_isBlank h, hpoint]

/-! ## Words split at a break -/

theorem wordsFrom_append_break (before : Option Char) (word : Text) (last : Option Char)
    (p q : Text) {c : Char} (h : isWord c = false) :
    wordsFrom before word last (p ++ c :: q)
      = wordsFrom before word last p ++ wordsFrom none [] (some c) q := by
  induction p generalizing before word last with
  | nil =>
      simp only [List.nil_append, wordsFrom, h, Bool.false_eq_true, if_false]
      by_cases hw : word.isEmpty = true <;> simp [hw]
  | cons d p ih =>
      simp only [List.cons_append, wordsFrom]
      by_cases hd : isWord d = true
      · by_cases hw : word.isEmpty = true <;> simp [hd, hw, ih]
      · by_cases hw : word.isEmpty = true <;> simp [hd, hw, ih]

/-- What stands before a text only shows in front of its first word, and only a
point there matters. -/
private theorem openWords_wordsFrom (t : Text) {last : Option Char} (h : last ≠ some '.') :
    (wordsFrom none [] last t).filterMap
        (fun word => if word.1 = some '.' then none else some word.2) = openWords t := by
  -- Within a word what stood last plays no part: it is only kept for the next word.
  have hgen : ∀ (t : Text) (word : Text) (b : Option Char) (l l' : Option Char), b ≠ some '.' →
      word ≠ [] →
      (wordsFrom b word l t).filterMap
          (fun word => if word.1 = some '.' then none else some word.2)
        = (wordsFrom none word l' t).filterMap
          (fun word => if word.1 = some '.' then none else some word.2) := by
    intro t
    induction t with
    | nil =>
        intro word b l l' hb hw
        simp [wordsFrom, hw, hb]
    | cons c t ih =>
        intro word b l l' hb hw
        simp only [wordsFrom]
        by_cases hc : isWord c = true
        · simp [hc, hw, ih (c :: word) b (some c) (some c) hb]
        · simp [hc, hw, hb]
  cases t with
  | nil => simp [openWords, words, wordsFrom]
  | cons c t =>
      simp only [openWords, words, wordsFrom]
      by_cases hc : isWord c = true
      · simp only [hc, List.isEmpty_nil, if_true]
        exact hgen t [c] last (some c) (some c) h (by simp)
      · simp [hc]

/-- **Words split at a break.** -/
theorem openWords_append_break (p q : Text) {c : Char} (h : isBreak c = true) :
    openWords (p ++ c :: q) = openWords p ++ openWords q := by
  simp only [isBreak, Bool.and_eq_true, Bool.not_eq_true', decide_eq_true_eq] at h
  rw [openWords, words, wordsFrom_append_break none [] none p q h.1, List.filterMap_append,
    openWords_wordsFrom q (by simpa using h.2)]
  rfl

@[simp] theorem openWords_nil : openWords [] = [] := rfl

theorem openWords_cons_break {c : Char} (h : isBreak c = true) (t : Text) :
    openWords (c :: t) = openWords t := by
  simpa using openWords_append_break [] t h

theorem openWords_append_breaks_left {p : Text} (h : p.all isBreak = true) (q : Text) :
    openWords (p ++ q) = openWords q := by
  induction p with
  | nil => rfl
  | cons c p ih =>
      simp only [List.all_cons, Bool.and_eq_true] at h
      rw [List.cons_append, openWords_cons_break h.1, ih h.2]

theorem openWords_append_breaks_right {q : Text} (h : q.all isBreak = true) (p : Text) :
    openWords (p ++ q) = openWords p := by
  cases q with
  | nil => simp
  | cons c q =>
      simp only [List.all_cons, Bool.and_eq_true] at h
      rw [openWords_append_break p q h.1]
      simpa using openWords_append_breaks_left h.2 []

theorem all_isBreak_of_all_isBlank {t : Text} (h : t.all isBlank = true) :
    t.all isBreak = true := by
  rw [List.all_eq_true] at h ⊢
  exact fun c hc => isBreak_of_isBlank (h c hc)

@[simp] theorem openWords_trim (t : Text) : openWords (trim t) = openWords t := by
  obtain ⟨before, after, hsplit, hbefore, hafter, _⟩ := trim_spec t
  rw [show openWords t = openWords (before ++ trim t ++ after) from congrArg openWords hsplit,
    openWords_append_breaks_right (all_isBreak_of_all_isBlank hafter),
    openWords_append_breaks_left (all_isBreak_of_all_isBlank hbefore)]

/-! ## Single words -/

theorem isBareWord_iff {t : Text} :
    isBareWord t = true ↔ t ≠ [] ∧ ∀ c ∈ t, isWord c = true := by
  simp [isBareWord]

theorem openWords_of_isBareWord {t : Text} (h : isBareWord t = true) : openWords t = [t] := by
  simp only [isBareWord, Bool.and_eq_true, Bool.not_eq_true', List.isEmpty_eq_false_iff] at h
  obtain ⟨hne, hall⟩ := h
  have hgen : ∀ (t : Text) (word : Text) (last : Option Char), word ≠ [] →
      t.all isWord = true → wordsFrom none word last t = [(none, word.reverse ++ t)] := by
    intro t
    induction t with
    | nil => intro word last hw _; simp [wordsFrom, hw]
    | cons c t ih =>
        intro word last hw ht
        simp only [List.all_cons, Bool.and_eq_true] at ht
        simp [wordsFrom, ht.1, hw, ih (c :: word) (some c) (by simp) ht.2]
  cases t with
  | nil => exact absurd rfl hne
  | cons c t =>
      simp only [List.all_cons, Bool.and_eq_true] at hall
      simp [openWords, words, wordsFrom, hall.1, hgen t [c] (some c) (by simp) hall.2]

/-- The words before a break stay when the text goes on with it. -/
theorem openWords_subset_append_left {p q : Text}
    (h : ∀ c, q.head? = some c → isBreak c = true) : openWords p ⊆ openWords (p ++ q) := by
  cases q with
  | nil => simp
  | cons c q =>
      rw [openWords_append_break p q (h c rfl)]
      exact List.subset_append_left _ _

/-- The words behind a break stay when something ends with it. -/
theorem openWords_subset_append_right {p q : Text}
    (h : ∀ c, p.getLast? = some c → isBreak c = true) : openWords q ⊆ openWords (p ++ q) := by
  rcases List.eq_nil_or_concat p with rfl | ⟨p', c, rfl⟩
  · simp
  · rw [List.concat_eq_append, List.append_assoc, List.singleton_append,
      openWords_append_break p' q (h c (by simp))]
    exact List.subset_append_right _ _

/-- A bare word that stands between breaks is a word of the text. -/
theorem mem_openWords_between {p w q : Text} (hw : isBareWord w = true)
    (hp : ∀ c, p.getLast? = some c → isBreak c = true)
    (hq : ∀ c, q.head? = some c → isBreak c = true) : w ∈ openWords (p ++ w ++ q) := by
  have hmem : w ∈ openWords w := by simp [openWords_of_isBareWord hw]
  rw [List.append_assoc]
  exact openWords_subset_append_right hp (openWords_subset_append_left hq hmem)

private theorem isAlpha_eq (c : Char) :
    c.isAlpha = (decide (c.val ≥ 65 ∧ c.val ≤ 90) || (c.val ≥ 97 && c.val ≤ 122)) := rfl

private theorem toNat_of_isIdentifierStart {c : Char} (h : isIdentifierStart c = true) :
    65 ≤ c.toNat ∧ c.toNat ≤ 90 ∨ c.toNat = 95 ∨ 97 ≤ c.toNat ∧ c.toNat ≤ 122 := by
  simp only [isIdentifierStart, isAlpha_eq, Bool.or_eq_true, Bool.and_eq_true, decide_eq_true_eq,
    beq_iff_eq, UInt32.le_iff_toNat_le, ge_iff_le] at h
  rcases h with (h | h) | rfl
  · exact .inl h
  · exact .inr (.inr h)
  · exact .inr (.inl rfl)

private theorem toNat_of_isAlphanum {c : Char} (h : (c.isAlphanum || c == '_') = true) :
    48 ≤ c.toNat ∧ c.toNat ≤ 57 ∨ 65 ≤ c.toNat ∧ c.toNat ≤ 90 ∨ c.toNat = 95 ∨
      97 ≤ c.toNat ∧ c.toNat ≤ 122 := by
  simp only [Char.isAlphanum, isAlpha_eq, Char.isDigit, Bool.or_eq_true, Bool.and_eq_true,
    decide_eq_true_eq, beq_iff_eq, UInt32.le_iff_toNat_le, ge_iff_le] at h
  rcases h with ((h | h) | h) | rfl
  · exact .inr (.inl h)
  · exact .inr (.inr (.inr h))
  · exact .inl h
  · exact .inr (.inr (.inl rfl))

/-- The plain identifiers are names. -/
theorem isName_of_isIdentifier {t : Text} (h : isIdentifier t = true) : isName t = true := by
  have hword : ∀ c : Char, c.toNat < 128 →
      (48 ≤ c.toNat ∧ c.toNat ≤ 57 ∨ 65 ≤ c.toNat ∧ c.toNat ≤ 90 ∨ c.toNat = 95 ∨
        97 ≤ c.toNat ∧ c.toNat ≤ 122) → isWord c = true := by
    intro c hc hn
    simp only [isWord, hc, if_true, Bool.or_eq_true, Bool.and_eq_true, decide_eq_true_eq,
      beq_iff_eq]
    omega
  cases t with
  | nil => simp [isIdentifier] at h
  | cons c rest =>
      simp only [isIdentifier, Bool.and_eq_true, List.all_eq_true] at h
      have hc := toNat_of_isIdentifierStart h.1
      have hw : isWord c = true := hword c (by omega) (by omega)
      have hd : isDecimal c = false := by
        have h1 : c.toNat < 128 := by omega
        have h2 : ¬ (48 ≤ c.toNat ∧ c.toNat ≤ 57) := by omega
        simp [isDecimal, digitValue?, h1, h2]
      have hall : rest.all isWord = true := by
        rw [List.all_eq_true]
        intro d hmem
        have hn := toNat_of_isAlphanum (h.2 d hmem)
        exact hword d (by omega) hn
      simp [isName, isBareWord, startsName, hw, hall, hd]

/-- The words of a text are bare words with characters of the text. -/
theorem isBareWord_of_mem_words {t : Text} {word : Option Char × Text} (h : word ∈ words t) :
    isBareWord word.2 = true ∧ word.2 ⊆ t := by
  -- The word under way belongs to the text as well.
  have hgen : ∀ (t held : Text) (before last : Option Char), (∀ c ∈ held, isWord c = true) →
      ∀ word ∈ wordsFrom before held last t,
        isBareWord word.2 = true ∧ ∀ c ∈ word.2, c ∈ held ∨ c ∈ t := by
    intro t
    induction t with
    | nil =>
        intro held before last hheld word hword
        rw [wordsFrom] at hword
        split at hword
        · cases hword
        · rename_i hne
          obtain rfl := List.mem_singleton.mp hword
          exact ⟨isBareWord_iff.mpr ⟨by simpa using hne, by simpa using hheld⟩, by simp⟩
    | cons c t ih =>
        intro held before last hheld word hword
        rw [wordsFrom] at hword
        split at hword
        · rename_i hc
          split at hword
          · obtain ⟨hbare, hmem⟩ := ih [c] last (some c) (by simpa using hc) word hword
            exact ⟨hbare, fun d hd => .inr (by simpa using hmem d hd)⟩
          · obtain ⟨hbare, hmem⟩ :=
              ih (c :: held) before (some c) (List.forall_mem_cons.mpr ⟨hc, hheld⟩) word hword
            refine ⟨hbare, fun d hd => ?_⟩
            have hd := hmem d hd
            rw [List.mem_cons] at hd ⊢
            tauto
        · have hrest : ∀ word ∈ wordsFrom none [] (some c) t,
              isBareWord word.2 = true ∧ ∀ d ∈ word.2, d ∈ held ∨ d ∈ c :: t := by
            intro word hword
            obtain ⟨hbare, hmem⟩ := ih [] none (some c) (by simp) word hword
            exact ⟨hbare, fun d hd => .inr (List.mem_cons_of_mem _ (by simpa using hmem d hd))⟩
          split at hword
          · exact hrest word hword
          · rename_i hne
            rcases List.mem_cons.mp hword with rfl | hword
            · exact ⟨isBareWord_iff.mpr ⟨by simpa using hne, by simpa using hheld⟩,
                fun d hd => .inl (List.mem_reverse.mp hd)⟩
            · exact hrest word hword
  obtain ⟨hbare, hmem⟩ := hgen t [] none none (by simp) word h
  exact ⟨hbare, fun c hc => by simpa using hmem c hc⟩

theorem mem_words_of_mem_openWords {t w : Text} (h : w ∈ openWords t) :
    ∃ before, (before, w) ∈ words t := by
  simp only [openWords, List.mem_filterMap] at h
  obtain ⟨word, hmem, h⟩ := h
  split at h
  · cases h
  · cases h
    exact ⟨word.1, hmem⟩

end Questionnaire.Text

namespace Questionnaire.Formula

open Text

/-! ## Names -/

/-- A bare word is no computation. -/
theorem isComputation_of_isBareWord {n : Text} (h : isBareWord n = true) :
    isComputation n = false := by
  have hblank : ∀ c ∈ n, isBlank c = false := by
    rw [isBareWord, Bool.and_eq_true] at h
    exact fun c hc => isBlank_of_isWord (List.all_eq_true.mp h.2 c hc)
  simp [isComputation, trim_of_no_blank hblank, h]

/-- The names of a text are its open words that do not start with a digit. -/
theorem mem_identifiers {t n : Text} :
    n ∈ identifiers t ↔ n ∈ openWords t ∧ (n.head?.map startsName).getD false = true := by
  simp only [identifiers, mem_distinct, openWords, List.mem_filterMap]
  constructor
  · rintro ⟨word, hmem, h⟩
    split at h
    · cases h
    · rename_i hnot
      simp only [Bool.or_eq_true, decide_eq_true_eq, Bool.not_eq_true', not_or,
        Bool.not_eq_false] at hnot
      cases h
      exact ⟨⟨word, hmem, by simp [hnot.1]⟩, hnot.2⟩
  · rintro ⟨⟨word, hmem, h⟩, hstart⟩
    split at h
    · cases h
    · rename_i hpoint
      cases h
      exact ⟨word, hmem, by simp [hpoint, hstart]⟩

end Questionnaire.Formula
