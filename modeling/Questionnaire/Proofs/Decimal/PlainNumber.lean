import Questionnaire.Condition.Comparison
import Questionnaire.Proofs.Decimal.Numeral
import Questionnaire.Proofs.Formula.Detection

/-!
# Plain numbers

A plain number is a plain decimal with at most a minus before it and blanks around
it. It is never a computation, never quoted and no word for yes or no
(`textNumber_of_isPlainNumber`), and between its blanks it is always read
(`isSome_readFloat?_trim`). With the blanks it is read as well, unless one of them
is an information separator (`readFloat?_trim`).
-/

namespace Questionnaire.Decimal

open Text

variable {t : Text}

/-! ## What a plain number is made of -/

/-- Between its blanks a plain number is a plain decimal with at most a minus. -/
theorem exists_isPlainDecimal (h : isPlainNumber t = true) : ∃ body, isPlainDecimal body = true ∧
    (trim t = body ∨ trim t = '-' :: body) := by
  rw [isPlainNumber] at h
  split at h
  · rename_i body htrim
    exact ⟨body, h, .inr htrim⟩
  · exact ⟨trim t, h, .inl rfl⟩

theorem mem_trim_of_isPlainNumber (h : isPlainNumber t = true) {c : Char} (hc : c ∈ trim t) :
    isDecimal c = true ∨ c = '.' ∨ c = '-' := by
  obtain ⟨body, hbody, htrim | htrim⟩ := exists_isPlainDecimal h
  · rw [htrim] at hc
    exact (isDecimal_of_mem_isPlainDecimal hbody hc).imp id .inl
  · rw [htrim, List.mem_cons] at hc
    rcases hc with rfl | hc
    · exact .inr (.inr rfl)
    · exact (isDecimal_of_mem_isPlainDecimal hbody hc).imp id .inl

/-- The characters of a plain number. -/
theorem mem_of_isPlainNumber (h : isPlainNumber t = true) {c : Char} (hc : c ∈ t) :
    isBlank c = true ∨ isDecimal c = true ∨ c = '.' ∨ c = '-' := by
  cases hblank : isBlank c with
  | true => exact .inl rfl
  | false => exact .inr (mem_trim_of_isPlainNumber h (mem_trim_of_mem hc hblank))

/-- There is a digit in a plain number. -/
theorem exists_isDecimal (h : isPlainNumber t = true) : ∃ c ∈ trim t, isDecimal c = true := by
  have hdigit : ∀ body, isPlainDecimal body = true → ∃ c ∈ body, isDecimal c = true := by
    intro body hbody
    rcases isPlainDecimal_iff.mp hbody with ⟨hne, hdigits⟩ | ⟨whole, fraction, hsplit⟩
    · obtain ⟨c, hc⟩ := List.exists_mem_of_ne_nil body hne
      exact ⟨c, hc, List.all_eq_true.mp hdigits c hc⟩
    · obtain ⟨c, hc⟩ := List.exists_mem_of_ne_nil _ hsplit.digits
      rw [hsplit.split]
      rcases List.mem_append.mp hc with hc | hc
      · exact ⟨c, by simp [hc], List.all_eq_true.mp hsplit.before c hc⟩
      · exact ⟨c, by simp [hc], List.all_eq_true.mp hsplit.behind c hc⟩
  obtain ⟨body, hbody, htrim | htrim⟩ := exists_isPlainDecimal h
  · rw [htrim]
    exact hdigit body hbody
  · obtain ⟨c, hc, hdecimal⟩ := hdigit body hbody
    exact ⟨c, by rw [htrim]; exact List.mem_cons_of_mem _ hc, hdecimal⟩

theorem isBlankText_of_isPlainNumber (h : isPlainNumber t = true) : isBlankText t = false := by
  obtain ⟨c, hc, hdecimal⟩ := exists_isDecimal h
  rw [Bool.eq_false_iff]
  intro hblank
  exact absurd (List.all_eq_true.mp hblank c (mem_of_mem_trim hc))
    (by simp [isBlank_of_isDecimal hdecimal])

theorem isPlainNumber_trim (t : Text) : isPlainNumber (trim t) = isPlainNumber t := by
  rw [isPlainNumber, isPlainNumber, trim_trim]

/-! ## Reading a plain number -/

/-- **Between its blanks a plain number is read.** -/
theorem isSome_readFloat?_trim (h : isPlainNumber t = true) :
    (readFloat? (trim t)).isSome = true := by
  obtain ⟨body, hbody, htrim | htrim⟩ := exists_isPlainDecimal h
  · rw [htrim]
    exact isSome_readFloat?_of_isPlainDecimal hbody
  · have hblank : ∀ c ∈ trim t, isBlank c = false := by
      rw [htrim]
      exact List.forall_mem_cons.mpr ⟨by decide, fun c => isBlank_of_mem_isPlainDecimal hbody⟩
    rw [readFloat?_of_no_separator (isSeparator_of_no_blank hblank), trim_trim, htrim, readSigned?,
      Option.isSome_map]
    exact isSome_readMagnitude? hbody

/-- The blanks around a number do not count, information separators apart. -/
theorem readFloat?_trim (h : ∀ c ∈ t, isSeparator c = false) :
    readFloat? (trim t) = readFloat? t := by
  rw [readFloat?_of_no_separator fun c hc => h c (mem_of_mem_trim hc), trim_trim,
    readFloat?_of_no_separator h]

/-- If the text is a plain number, then no information separator is around it. -/
def IsReadable (t : Text) : Prop := isPlainNumber t = true → ∀ c ∈ t, isSeparator c = false

instance (t : Text) : Decidable (IsReadable t) :=
  decidable_of_iff (isPlainNumber t = true → t.any isSeparator = false) (by
    simp [IsReadable, List.any_eq_false])

theorem IsReadable.exists_readFloat? (h : IsReadable t) (hplain : isPlainNumber t = true) :
    ∃ x, readFloat? t = some x ∧ readFloat? (trim t) = some x := by
  obtain ⟨x, hx⟩ := Option.isSome_iff_exists.mp (isSome_readFloat?_trim hplain)
  exact ⟨x, (readFloat?_trim (h hplain)).symm.trans hx, hx⟩

/-- In lower case there is still a digit in a plain number. -/
theorem lower_ne_of_isPlainNumber (h : isPlainNumber t = true) {word : Text}
    (hword : word.any isDecimal = false) : lower t ≠ word := by
  obtain ⟨c, hc, hdecimal⟩ := exists_isDecimal h
  exact lower_ne_of_isDecimal (mem_of_mem_trim hc) hdecimal hword

/-- A plain number is no word for yes or no. -/
theorem textNumber_of_isPlainNumber (h : isPlainNumber t = true) :
    Value.textNumber t = (readFloat? (trim t)).getD 0 := by
  have hwords : ∀ words : List Text, (words.any fun word => word.any isDecimal) = false →
      words.contains (lower (trim t)) = false := by
    intro words hnone
    rw [Bool.eq_false_iff, ne_eq, List.contains_iff_mem]
    intro hmem
    have hword := Bool.eq_false_iff.mpr (List.any_eq_false.mp hnone _ hmem)
    exact lower_ne_of_isPlainNumber (isPlainNumber_trim t ▸ h) hword rfl
  rw [Value.textNumber, hwords _ (by decide), hwords _ (by decide)]
  rfl

/-! ## A plain number as the side of a comparison -/

theorem isComputation_of_isPlainNumber (h : isPlainNumber t = true) :
    Formula.isComputation t = false := by
  have hsign : ∀ c, Formula.isOperationSign c = true → isDecimal c = false ∧ c ≠ '.' := by
    intro c hc
    simp only [Formula.isOperationSign, Bool.or_eq_true, decide_eq_true_eq] at hc
    obtain ((rfl | rfl) | rfl) | rfl := hc <;> decide
  have hbody : ∀ body, isPlainDecimal body = true → Formula.joinsWords body = false := by
    refine fun body hbody => Formula.joinsWords_of_no_sign fun c hc => ?_
    rw [Bool.eq_false_iff]
    intro hoperation
    exact not_mem_isPlainDecimal hbody (hsign c hoperation).1 (hsign c hoperation).2 hc
  have hjoins : Formula.joinsWords (trim t) = false := by
    obtain ⟨body, hdecimal, htrim | htrim⟩ := exists_isPlainDecimal h
    · rw [htrim, hbody body hdecimal]
    · -- No word stands before the minus.
      rw [htrim, Formula.joinsWords, Formula.joinsWordsFrom, if_neg (by decide), if_neg (by decide),
        if_neg (by decide)]
      exact hbody body hdecimal
  have henclosed : Formula.isEnclosed (trim t) = false := by
    rw [Bool.eq_false_iff]
    intro henclosed
    have hopen : '(' ∈ trim t :=
      List.mem_of_head? (by simpa using (Bool.and_eq_true_iff.mp henclosed).1)
    exact absurd (mem_trim_of_isPlainNumber h hopen) (by decide)
  rw [Formula.isComputation, hjoins, henclosed]
  simp

/-- A plain number is not quoted. -/
theorem unquote_of_isPlainNumber (h : isPlainNumber t = true) :
    Condition.unquote t = trim t := by
  have hmark : ∀ c ∈ trim t, c ≠ '\'' ∧ c ≠ '"' := by
    intro c hc
    rcases mem_trim_of_isPlainNumber h hc with hdecimal | rfl | rfl
    · constructor <;> (rintro rfl; exact absurd hdecimal (by decide))
    · decide
    · decide
  rw [Condition.unquote]
  split
  · rename_i htrim
    exact htrim.symm
  · rename_i c rest htrim
    have hc := hmark c (htrim ▸ List.mem_cons_self)
    simp [hc, htrim]

end Questionnaire.Decimal
