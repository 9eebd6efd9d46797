import Questionnaire.Breakdown
import Questionnaire.Proofs.Decimal.PlainNumber

/-!
# What a text counts as

A plain number counts as the number that it writes, in formulas and conditions as in
the cells of a breakdown, and a text that writes no number counts as zero in both, words
for yes apart (`counts`). The two readers part where a number is written elaborately:
with a plus, an exponent, low lines or as a word. Formulas read such a number, and a
cell counts it as zero. A number that is read is plain or elaborate
(`isPlainNumber_iff`).
-/

namespace Questionnaire

namespace Decimal

open Text

variable {t : Text}

/-! ## What is read as a number -/

/-- The words that are read as numbers. -/
def numberWords : List Text := ["inf".toList, "infinity".toList, "nan".toList]

/-- Each of them has an n in it and is in ASCII. -/
theorem of_mem_numberWords {word : Text} (h : word ∈ numberWords) :
    'n' ∈ word ∧ ∀ c ∈ word, c.toNat < 128 := by
  -- A quantifier over the characters of the words would not be decided.
  have hletter : ∀ w ∈ numberWords, w.contains 'n' = true := by decide
  have hascii : ∀ w ∈ numberWords, (w.all fun c => decide (c.toNat < 128)) = true := by decide
  refine ⟨List.contains_iff_mem.mp (hletter word h), fun c hc => ?_⟩
  exact of_decide_eq_true (List.all_eq_true.mp (hascii word h) c hc)

/-- What plain numbers do not have: a plus, a low line or a letter. -/
def isMark (c : Char) : Bool := c = '+' || c = '_' || c.isAlpha

/-- **What is read without its sign**: a word, or a numeral between whose digits low
lines may stand. -/
theorem isSome_readMagnitude?_iff : (readMagnitude? t).isSome = true ↔
    t.map Char.toLower ∈ numberWords ∨
      ∃ plain, dropSeparators? false t = some plain ∧ (readUnsigned? plain).isSome = true := by
  rw [readMagnitude?, numberWords]
  split
  · rename_i hinf
    rw [Bool.or_eq_true, decide_eq_true_eq, decide_eq_true_eq] at hinf
    rcases hinf with h | h <;> simp [h]
  · rename_i hinf
    rw [Bool.or_eq_true, decide_eq_true_eq, decide_eq_true_eq, not_or] at hinf
    split
    · rename_i hnan
      simp [hnan]
    · rename_i hnan
      simp only [List.mem_cons, List.not_mem_nil, hinf, hnan, or_self, false_or]
      cases hplain : dropSeparators? false t <;> simp

/-- Only low lines are dropped. -/
theorem mem_of_mem_dropSeparators? {afterDigit : Bool} {plain : Text}
    (h : dropSeparators? afterDigit t = some plain) {c : Char} (hc : c ∈ plain) : c ∈ t := by
  fun_induction dropSeparators? afterDigit t generalizing plain with
  | case1 =>
      cases h
      cases hc
  | case2 afterDigit rest hdigit ih => exact List.mem_cons_of_mem _ (ih h hc)
  | case3 => cases h
  | case4 afterDigit d rest _ ih =>
      obtain ⟨others, hothers, rfl⟩ := Option.map_eq_some_iff.mp h
      rcases List.mem_cons.mp hc with rfl | hc
      · exact List.mem_cons_self
      · exact List.mem_cons_of_mem _ (ih hothers hc)

/-- There is a digit in a numeral. -/
theorem exists_isDecimal_of_readUnsigned? (h : (readUnsigned? t).isSome = true) :
    ∃ c ∈ t, isDecimal c = true := by
  have hwhole : t.takeWhile isDecimal ≠ [] → ∃ c ∈ t, isDecimal c = true := by
    intro hne
    obtain ⟨c, hc⟩ := List.exists_mem_of_ne_nil _ hne
    exact ⟨c, (List.takeWhile_prefix _).subset hc, List.all_eq_true.mp List.all_takeWhile c hc⟩
  have hsplit := List.takeWhile_append_dropWhile (p := isDecimal) (l := t)
  simp only [readUnsigned?] at h
  split at h
  · rename_i rest hdrop
    split at h
    · cases h
    · rename_i hdigits
      rw [Bool.and_eq_true, not_and_or, List.isEmpty_iff, List.isEmpty_iff] at hdigits
      rcases hdigits with hne | hne
      · exact hwhole hne
      · obtain ⟨c, hc⟩ := List.exists_mem_of_ne_nil _ hne
        have hmem : c ∈ '.' :: rest :=
          List.mem_cons_of_mem _ ((List.takeWhile_prefix _).subset hc)
        exact ⟨c, (List.dropWhile_suffix isDecimal).subset (hdrop ▸ hmem),
          List.all_eq_true.mp List.all_takeWhile c hc⟩
  · split at h
    · cases h
    · rename_i hne
      exact hwhole fun hnil => hne (by rw [hnil]; rfl)

/-- Between its blanks a text is read with its sign. -/
theorem readFloat?_trim_eq (t : Text) : readFloat? (trim t) = readSigned? (trim t) := by
  have hnone : ∀ {s : Text}, (∀ c, s.head? = some c → isBlank c = false) →
      s.dropWhile isOuterBlank = s := by
    intro s hs
    cases s with
    | nil => rfl
    | cons c s =>
        have hc : isOuterBlank c = false := by rw [isOuterBlank, hs c rfl, Bool.false_and]
        rw [List.dropWhile_cons_of_neg (by simp [hc])]
  rw [readFloat?, hnone fun c => trim_head, hnone, List.reverse_reverse]
  · rfl
  · intro c hc
    exact trim_last (by simpa using hc)

/-! ## Plain and elaborate numbers -/

theorem isMark_of_isDecimal {c : Char} (h : isDecimal c = true) : isMark c = false := by
  rw [Bool.eq_false_iff]
  intro hmark
  simp only [isMark, Bool.or_eq_true, decide_eq_true_eq] at hmark
  rcases hmark with (rfl | rfl) | halpha
  · exact absurd h (by decide)
  · exact absurd h (by decide)
  · have hbounds : 65 ≤ c.toNat ∧ c.toNat ≤ 122 := by
      unfold Char.isAlpha Char.isUpper Char.isLower at halpha
      simp only [Bool.or_eq_true, Bool.and_eq_true, decide_eq_true_eq, UInt32.le_iff_toNat_le,
        ge_iff_le] at halpha
      change (65 ≤ c.toNat ∧ c.toNat ≤ 90) ∨ (97 ≤ c.toNat ∧ c.toNat ≤ 122) at halpha
      omega
    have hascii : c.toNat < 128 := by omega
    have hdigit : ¬(48 ≤ c.toNat ∧ c.toNat ≤ 57) := by omega
    simp [isDecimal, digitValue?, hascii, hdigit] at h

/-- Nothing but digits and a point is in a numeral without marks. -/
private theorem isPlainDecimal_of_readUnsigned? (h : (readUnsigned? t).isSome = true)
    (hmark : ∀ c ∈ t, isMark c = false) : isPlainDecimal t = true := by
  have hexponent : ∀ {rest : Text}, (∀ c ∈ rest, c ∈ t) → (readExponent? rest).isSome = true →
      rest = [] := by
    intro rest hrest hsome
    cases rest with
    | nil => rfl
    | cons c rest =>
        have hc := hmark c (hrest c List.mem_cons_self)
        simp only [readExponent?] at hsome
        split at hsome
        · rename_i he
          rw [Bool.or_eq_true, decide_eq_true_eq, decide_eq_true_eq] at he
          rcases he with rfl | rfl <;> exact absurd hc (by decide)
        · cases hsome
  have hsplit := List.takeWhile_append_dropWhile (p := isDecimal) (l := t)
  rw [isPlainDecimal_iff]
  simp only [readUnsigned?] at h
  split at h
  · rename_i rest hdrop
    rw [hdrop] at hsplit
    split at h
    · cases h
    · rename_i hdigits
      rw [Option.isSome_map] at h
      have hnil : rest.dropWhile isDecimal = [] := hexponent (fun c hc => by
        rw [← hsplit]
        exact List.mem_append_right _
          (List.mem_cons_of_mem _ ((List.dropWhile_suffix isDecimal).subset hc))) h
      have hall := List.dropWhile_eq_nil_iff.mp hnil
      refine .inr ⟨t.takeWhile isDecimal, rest, hsplit.symm, List.all_takeWhile,
        List.all_eq_true.mpr hall, ?_⟩
      rwa [List.takeWhile_eq_self_iff.mpr hall, Bool.and_eq_true, List.isEmpty_iff,
        List.isEmpty_iff, ← List.append_eq_nil_iff] at hdigits
  · split at h
    · cases h
    · rename_i hne
      rw [Option.isSome_map] at h
      have hnil := hexponent (fun c => ((List.dropWhile_suffix isDecimal).subset ·)) h
      rw [List.isEmpty_iff] at hne
      rw [hnil, List.append_nil] at hsplit
      exact .inl ⟨hsplit ▸ hne, hsplit ▸ List.all_takeWhile⟩

private theorem isPlainDecimal_of_readMagnitude? (h : (readMagnitude? t).isSome = true)
    (hmark : ∀ c ∈ t, isMark c = false) : isPlainDecimal t = true := by
  rcases isSome_readMagnitude?_iff.mp h with hword | ⟨plain, hplain, hsome⟩
  · -- The letters of a word are marks.
    obtain ⟨d, hd, hlower⟩ := List.mem_map.mp (of_mem_numberWords hword).1
    have halpha : d.isAlpha = true := by
      unfold Char.toLower at hlower
      split at hlower
      · rename_i hupper
        unfold Char.isAlpha Char.isUpper
        rw [decide_eq_true hupper]
        rfl
      · rw [hlower]
        rfl
    exact absurd (hmark d hd) (by simp [isMark, halpha])
  · have hline : '_' ∉ t := fun hmem => absurd (hmark _ hmem) (by decide)
    obtain rfl := Option.some.inj ((dropSeparators?_eq hline false).symm.trans hplain)
    exact isPlainDecimal_of_readUnsigned? hsome hmark

/-- **Plain numbers are those that are read and have no marks.** -/
theorem isPlainNumber_iff : isPlainNumber t = true ↔
    (readFloat? (trim t)).isSome = true ∧ ∀ c ∈ trim t, isMark c = false := by
  constructor
  · refine fun h => ⟨isSome_readFloat?_trim h, fun c hc => ?_⟩
    rcases mem_trim_of_isPlainNumber h hc with hdecimal | rfl | rfl
    · exact isMark_of_isDecimal hdecimal
    · decide
    · decide
  · rintro ⟨hsome, hmark⟩
    rw [readFloat?_trim_eq] at hsome
    rw [isPlainNumber]
    generalize trim t = s at hsome hmark
    unfold readSigned? at hsome
    split at hsome
    · rw [Option.isSome_map] at hsome
      exact isPlainDecimal_of_readMagnitude? hsome fun c hc => hmark c (List.mem_cons_of_mem _ hc)
    · exact absurd (hmark '+' List.mem_cons_self) (by decide)
    · rename_i hminus hplus
      split
      · rename_i rest
        exact absurd rfl (hminus rest)
      · exact isPlainDecimal_of_readMagnitude? hsome hmark

/-- A number that is read, but is not written plainly. -/
def IsElaborate (t : Text) : Prop :=
  (readFloat? (trim t)).isSome = true ∧ ∃ c ∈ trim t, isMark c = true

/-- What is neither is read as no number. -/
theorem readFloat?_trim_eq_none (hplain : isPlainNumber t = false) (h : ¬IsElaborate t) :
    readFloat? (trim t) = none := by
  rw [← Option.not_isSome_iff_eq_none]
  intro hsome
  refine h ⟨hsome, ?_⟩
  by_contra hnone
  refine Bool.false_ne_true (hplain.symm.trans (isPlainNumber_iff.mpr ⟨hsome, fun c hc => ?_⟩))
  exact Bool.eq_false_iff.mpr fun hmark => hnone ⟨c, hc, hmark⟩

/-! ## Words for yes and no -/

private theorem lower_ne_of_readMagnitude? {word : Text} (sign : Text)
    (hsign : sign ∈ [[], ['-'], ['+']]) (h : (readMagnitude? t).isSome = true)
    (hword : word ∈ Value.yesWords ++ Value.noWords) : lower (sign ++ t) ≠ word := by
  rcases isSome_readMagnitude?_iff.mp h with hnumber | ⟨plain, hplain, hsome⟩
  · have hascii : ∀ c ∈ sign ++ t, c.toNat < 128 := by
      have hsigns : ∀ s ∈ [[], ['-'], ['+']],
          (s.all fun (c : Char) => decide (c.toNat < 128)) = true := by decide
      intro c hc
      rcases List.mem_append.mp hc with hc | hc
      · exact of_decide_eq_true (List.all_eq_true.mp (hsigns sign hsign) c hc)
      · exact ascii_of_toLower ((of_mem_numberWords hnumber).2 _ (List.mem_map_of_mem hc))
    have hsigns : ∀ s ∈ [[], ['-'], ['+']], ∀ w ∈ numberWords,
        ∀ word ∈ Value.yesWords ++ Value.noWords, s.map Char.toLower ++ w ≠ word := by decide
    rw [lower_of_ascii hascii, List.map_append]
    exact hsigns sign hsign _ hnumber word hword
  · obtain ⟨c, hc, hdecimal⟩ := exists_isDecimal_of_readUnsigned? hsome
    have hletters : ∀ w ∈ Value.yesWords ++ Value.noWords, w.any isDecimal = false := by decide
    have hmem : c ∈ sign ++ t := List.mem_append_right _ (mem_of_mem_dropSeparators? hplain hc)
    exact lower_ne_of_isDecimal hmem hdecimal (hletters word hword)

/-- A number is no word for yes or no. -/
theorem textNumber_of_readFloat? {x : Float} (h : readFloat? (trim t) = some x) :
    Value.textNumber t = x := by
  have hwords : ∀ word ∈ Value.yesWords ++ Value.noWords, lower (trim t) ≠ word := by
    intro word hword
    have hsome : (readSigned? (trim t)).isSome = true := by rw [← readFloat?_trim_eq, h]; rfl
    generalize trim t = s at hsome
    unfold readSigned? at hsome
    split at hsome
    · rename_i rest
      rw [Option.isSome_map] at hsome
      exact lower_ne_of_readMagnitude? ['-'] (by decide) hsome hword
    · rename_i rest
      exact lower_ne_of_readMagnitude? ['+'] (by decide) hsome hword
    · exact lower_ne_of_readMagnitude? [] (by decide) hsome hword
  have hyes : lower (trim t) ∉ Value.yesWords := fun hmem =>
    hwords _ (List.mem_append_left _ hmem) rfl
  have hno : lower (trim t) ∉ Value.noWords := fun hmem =>
    hwords _ (List.mem_append_right _ hmem) rfl
  simp [Value.textNumber, hyes, hno, h]

/-- What is read as no number counts as one if it is a word for yes, and else as zero. -/
theorem textNumber_of_readFloat?_eq_none (h : readFloat? (trim t) = none) :
    Value.textNumber t = if lower (trim t) ∈ Value.yesWords then 1 else 0 := by
  by_cases hyes : lower (trim t) ∈ Value.yesWords
  · simp [Value.textNumber, hyes]
  · simp [Value.textNumber, hyes, h]

end Decimal

open Text Decimal Breakdown

/-! ## The two readers -/

/-- **What a text counts as**, in formulas and conditions (`toNumber?`) and in the cell of a
breakdown (`amount?`). -/
structure Counts (t : Text) : Prop where
  /-- A plain number counts as the number that it writes, in both. -/
  plain : isPlainNumber t = true → ∃ x, readFloat? (trim t) = some x ∧
    Value.toNumber? (.text t) = some x ∧ amount? (some (.text t)) = some x
  /-- It is read with its blanks as well, unless one of them is an information separator. -/
  blanks : (∀ c ∈ t, isSeparator c = false) → readFloat? (trim t) = readFloat? t
  /-- What writes no number counts as one if it is a word for yes, and as zero in a cell. -/
  word : isPlainNumber t = false → ¬IsElaborate t →
    Value.toNumber? (.text t) = some (if lower (trim t) ∈ Value.yesWords then 1 else 0) ∧
      amount? (some (.text t)) = some 0
  /-- On elaborate numbers, which are not plain, the two part. -/
  elaborate : IsElaborate t → isPlainNumber t = false ∧ ∃ x, readFloat? (trim t) = some x ∧
    Value.toNumber? (.text t) = some x ∧ amount? (some (.text t)) = some 0

/-- **The two readers agree on a text unless it is an elaborate number.** -/
theorem counts_text (t : Text) : Counts t where
  plain := by
    intro h
    obtain ⟨x, hx⟩ := Option.isSome_iff_exists.mp (isSome_readFloat?_trim h)
    refine ⟨x, hx, congrArg some (textNumber_of_readFloat? hx), ?_⟩
    rw [amount?, if_pos h, hx, Option.getD_some]
  blanks := readFloat?_trim
  word := by
    intro hplain h
    have hnone := readFloat?_trim_eq_none hplain h
    refine ⟨congrArg some (textNumber_of_readFloat?_eq_none hnone), ?_⟩
    rw [amount?, if_neg (by simp [hplain])]
  elaborate := by
    rintro ⟨hsome, c, hc, hmark⟩
    have hplain : isPlainNumber t = false := Bool.eq_false_iff.mpr fun h =>
      Bool.false_ne_true (((isPlainNumber_iff.mp h).2 c hc).symm.trans hmark)
    obtain ⟨x, hx⟩ := Option.isSome_iff_exists.mp hsome
    refine ⟨hplain, x, hx, congrArg some (textNumber_of_readFloat? hx), ?_⟩
    rw [amount?, if_neg (by simp [hplain])]

/-- An exponent makes a number elaborate. -/
example : (readFloat? (trim "1e5".toList)).isSome = true ∧
    isPlainNumber "1e5".toList = false := by decide +kernel

end Questionnaire
