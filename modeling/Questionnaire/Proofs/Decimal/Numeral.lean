import Questionnaire.Decimal.Numeral
import Questionnaire.Proofs.Text.LowerCase
import Questionnaire.Proofs.Text.Words
import Mathlib.Data.List.TakeWhile

/-!
# Plain decimals

A plain decimal is a run of digits with at most one point among them
(`isPlainDecimal_iff`). Each of them is read as a number
(`isSome_readFloat?_of_isPlainDecimal`).
-/

namespace Questionnaire.Decimal

open Text

/-- The digits of a fraction, with those before the point. -/
structure IsFraction (t whole fraction : Text) : Prop where
  /-- The point stands between the two runs of digits. -/
  split : t = whole ++ '.' :: fraction
  /-- The digits before the point. -/
  before : whole.all isDecimal = true
  /-- The digits behind it. -/
  behind : fraction.all isDecimal = true
  /-- A point alone is no number. -/
  digits : whole ++ fraction ≠ []

theorem isDecimal_point : isDecimal '.' = false := by decide

private theorem takeWhile_whole {t whole fraction : Text} (h : IsFraction t whole fraction) :
    t.takeWhile isDecimal = whole := by
  rw [h.split, List.takeWhile_append_of_pos (List.all_eq_true.mp h.before),
    List.takeWhile_cons_of_neg (by simp [isDecimal_point]), List.append_nil]

private theorem dropWhile_whole {t whole fraction : Text} (h : IsFraction t whole fraction) :
    t.dropWhile isDecimal = '.' :: fraction := by
  rw [h.split, List.dropWhile_append_of_pos (List.all_eq_true.mp h.before),
    List.dropWhile_cons_of_neg (by simp [isDecimal_point])]

private theorem dropWhile_digits {t : Text} (h : t.all isDecimal = true) :
    t.dropWhile isDecimal = [] :=
  List.dropWhile_eq_nil_iff.mpr (List.all_eq_true.mp h)

/-- **A plain decimal** is a run of digits, or two of them around a point. -/
theorem isPlainDecimal_iff {t : Text} : isPlainDecimal t = true ↔
    (t ≠ [] ∧ t.all isDecimal = true) ∨ ∃ whole fraction, IsFraction t whole fraction := by
  have hsplit := List.takeWhile_append_dropWhile (p := isDecimal) (l := t)
  constructor
  · intro h
    generalize hdrop : t.dropWhile isDecimal = rest at hsplit
    simp only [isPlainDecimal, hdrop] at h
    split at h
    · refine .inl ⟨by simpa using h, ?_⟩
      exact List.all_eq_true.mpr (List.dropWhile_eq_nil_iff.mp hdrop)
    · rename_i fraction
      refine .inr ⟨t.takeWhile isDecimal, fraction, hsplit.symm, List.all_takeWhile, ?_, ?_⟩
      all_goals simp only [Bool.or_eq_true, Bool.and_eq_true, Bool.not_eq_true',
        List.isEmpty_eq_false_iff] at h
      · exact h.elim (·.1) (·.2)
      · rw [ne_eq, List.append_eq_nil_iff, not_and_or]
        exact h.imp (·.2) (·.1)
    · cases h
  · rintro (⟨hne, hdigits⟩ | ⟨whole, fraction, h⟩)
    · simp [isPlainDecimal, dropWhile_digits hdigits, hne]
    · have hdigits := h.digits
      rw [ne_eq, List.append_eq_nil_iff, not_and_or] at hdigits
      simp only [isPlainDecimal, dropWhile_whole h, takeWhile_whole h, h.behind, Bool.true_and,
        Bool.and_true, Bool.or_eq_true, Bool.not_eq_true', List.isEmpty_eq_false_iff]
      exact hdigits

/-- The characters of a plain decimal. -/
theorem isDecimal_of_mem_isPlainDecimal {t : Text} (h : isPlainDecimal t = true) {c : Char}
    (hc : c ∈ t) : isDecimal c = true ∨ c = '.' := by
  rcases isPlainDecimal_iff.mp h with ⟨-, hdigits⟩ | ⟨whole, fraction, hsplit⟩
  · exact .inl (List.all_eq_true.mp hdigits c hc)
  · rw [hsplit.split, List.mem_append, List.mem_cons] at hc
    rcases hc with hc | rfl | hc
    · exact .inl (List.all_eq_true.mp hsplit.before c hc)
    · exact .inr rfl
    · exact .inl (List.all_eq_true.mp hsplit.behind c hc)

theorem not_mem_isPlainDecimal {t : Text} (h : isPlainDecimal t = true) {c : Char}
    (hc : isDecimal c = false) (hpoint : c ≠ '.') : c ∉ t := by
  intro hmem
  rcases isDecimal_of_mem_isPlainDecimal h hmem with hdigit | hdot
  · simp [hc] at hdigit
  · exact hpoint hdot

/-- A plain decimal is an unsigned numeral. -/
private theorem isSome_readUnsigned? {t : Text} (h : isPlainDecimal t = true) :
    (readUnsigned? t).isSome = true := by
  rw [readUnsigned?.eq_def]
  rcases isPlainDecimal_iff.mp h with ⟨hne, hdigits⟩ | ⟨whole, fraction, hsplit⟩
  · have hwhole : t.takeWhile isDecimal = t :=
      List.takeWhile_eq_self_iff.mpr (List.all_eq_true.mp hdigits)
    simp [dropWhile_digits hdigits, hwhole, hne, readExponent?]
  · have hrest := dropWhile_digits hsplit.behind
    have hfraction : fraction.takeWhile isDecimal = fraction :=
      List.takeWhile_eq_self_iff.mpr (List.all_eq_true.mp hsplit.behind)
    have hdigits := hsplit.digits
    rw [ne_eq, List.append_eq_nil_iff] at hdigits
    simp [dropWhile_whole hsplit, takeWhile_whole hsplit, hrest, hfraction, hdigits, readExponent?]

/-- Nothing is dropped where there is no low line. -/
theorem dropSeparators?_eq {t : Text} (h : '_' ∉ t) (afterDigit : Bool) :
    dropSeparators? afterDigit t = some t := by
  induction t generalizing afterDigit with
  | nil => rfl
  | cons c t ih =>
      obtain ⟨hc, ht⟩ := List.ne_and_not_mem_of_not_mem_cons h
      rw [dropSeparators?.eq_def]
      split
      · rename_i heq
        cases heq
      · rename_i heq
        cases heq
        exact absurd rfl hc
      · rename_i heq
        cases heq
        simp [ih ht]

/-- A plain decimal is a number without a sign. -/
theorem isSome_readMagnitude? {t : Text} (h : isPlainDecimal t = true) :
    (readMagnitude? t).isSome = true := by
  have hmem := fun c => isDecimal_of_mem_isPlainDecimal h (c := c)
  have hlower : t.map Char.toLower = t := by
    refine (List.map_congr_left fun c hc => ?_).trans (List.map_id t)
    rcases hmem c hc with hdigit | rfl
    · exact toLower_of_isDecimal hdigit
    · rfl
  have hword : ∀ word : Text, 'n' ∈ word → t ≠ word := by
    rintro word hn rfl
    exact not_mem_isPlainDecimal h (by decide) (by decide) hn
  rw [readMagnitude?, hlower, if_neg, if_neg (hword _ (by decide)),
    dropSeparators?_eq (not_mem_isPlainDecimal h (by decide) (by decide))]
  · simpa using isSome_readUnsigned? h
  · rw [Bool.or_eq_true, decide_eq_true_eq, decide_eq_true_eq, not_or]
    exact ⟨hword _ (by decide), hword _ (by decide)⟩

/-! ## Blanks around a number -/

/-- The information separators, which are blanks but not around a number. -/
def isSeparator (c : Char) : Bool := 0x1C ≤ c.toNat && c.toNat ≤ 0x1F

/-- A number with a sign, if there is one. -/
def readSigned? : Text → Option Float
  | '-' :: rest => (readMagnitude? rest).map (-·)
  | '+' :: rest => readMagnitude? rest
  | rest => readMagnitude? rest

theorem dropWhile_isOuterBlank {t : Text} (h : ∀ c ∈ t, isSeparator c = false) :
    t.dropWhile isOuterBlank = t.dropWhile isBlank := by
  induction t with
  | nil => rfl
  | cons c t ih =>
      have hc : isOuterBlank c = isBlank c := by
        show (isBlank c && !isSeparator c) = isBlank c
        rw [h c List.mem_cons_self, Bool.not_false, Bool.and_true]
      rw [List.dropWhile_cons, List.dropWhile_cons, hc,
        ih fun d hd => h d (List.mem_cons_of_mem _ hd)]

/-- Where no information separators are, a number is read from between all the blanks. -/
theorem readFloat?_of_no_separator {t : Text} (h : ∀ c ∈ t, isSeparator c = false) :
    readFloat? t = readSigned? (trim t) := by
  have hleft : ∀ c ∈ (t.dropWhile isBlank).reverse, isSeparator c = false := fun c hc =>
    h c ((List.dropWhile_suffix isBlank).subset (List.mem_reverse.mp hc))
  have houter : ((t.dropWhile isOuterBlank).reverse.dropWhile isOuterBlank).reverse = trim t := by
    rw [dropWhile_isOuterBlank h, dropWhile_isOuterBlank hleft]
    rfl
  rw [readFloat?, houter]
  rfl

theorem isBlank_of_isSeparator {c : Char} (h : isSeparator c = true) : isBlank c = true := by
  simp only [isSeparator, Bool.and_eq_true, decide_eq_true_eq] at h
  have hascii : c.toNat < 128 := by omega
  have hspace : c.toNat ≤ 0x20 := by omega
  simp [isBlank, hascii, h.1, hspace]

theorem isBlank_of_mem_isPlainDecimal {t : Text} (h : isPlainDecimal t = true) {c : Char}
    (hc : c ∈ t) : isBlank c = false := by
  rcases isDecimal_of_mem_isPlainDecimal h hc with hdigit | rfl
  · exact isBlank_of_isDecimal hdigit
  · rfl

/-- No information separator is among characters that are no blanks. -/
theorem isSeparator_of_no_blank {t : Text} (h : ∀ c ∈ t, isBlank c = false) :
    ∀ c ∈ t, isSeparator c = false := by
  intro c hc
  cases hseparator : isSeparator c with
  | false => rfl
  | true => exact absurd (isBlank_of_isSeparator hseparator) (by simp [h c hc])

/-- **Every plain decimal is read as a number.** -/
theorem isSome_readFloat?_of_isPlainDecimal {t : Text} (h : isPlainDecimal t = true) :
    (readFloat? t).isSome = true := by
  have hblank := fun c => isBlank_of_mem_isPlainDecimal h (c := c)
  rw [readFloat?_of_no_separator (isSeparator_of_no_blank hblank), trim_of_no_blank hblank,
    readSigned?.eq_def]
  split
  · exact absurd List.mem_cons_self (not_mem_isPlainDecimal h (by decide) (by decide))
  · exact absurd List.mem_cons_self (not_mem_isPlainDecimal h (by decide) (by decide))
  · exact isSome_readMagnitude? h

end Questionnaire.Decimal
