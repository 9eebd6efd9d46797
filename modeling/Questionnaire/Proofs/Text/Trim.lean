import Questionnaire.Text.Cut

/-!
# Trimmed text, starts and ends

What `trim`, `after?`, `hasStart` and `hasEnd` say in terms of `++`: a text
begins with what `after?` has taken off, `trim` takes blanks off both ends and
nothing else, and a trimmed text is one that neither begins nor ends with a
blank.
-/

namespace Questionnaire.Text

/-! ## Starts and ends -/

/-- `after?` takes off exactly what it was given. -/
theorem after?_eq_some {start t rest : Text} :
    after? start t = some rest ↔ t = start ++ rest := by
  induction start generalizing t with
  | nil => simp [after?, eq_comm]
  | cons a start ih =>
      cases t with
      | nil => simp [after?]
      | cons b t =>
          by_cases h : a = b
          · simp [after?, h, ih]
          · simp [after?, h, Ne.symm h]

@[simp] theorem after?_append (start rest : Text) :
    after? start (start ++ rest) = some rest :=
  after?_eq_some.mpr rfl

theorem hasStart_iff {start t : Text} : hasStart start t = true ↔ start <+: t := by
  rw [hasStart, Option.isSome_iff_exists]
  constructor
  · rintro ⟨rest, h⟩
    exact ⟨rest, (after?_eq_some.mp h).symm⟩
  · rintro ⟨rest, rfl⟩
    exact ⟨rest, after?_append start rest⟩

theorem hasEnd_iff {final t : Text} : hasEnd final t = true ↔ final <:+ t := by
  rw [hasEnd, hasStart_iff, List.reverse_prefix]

/-! ## Trimming -/

theorem trimLeft_eq_self_of_head {t : Text} (h : ∀ c, t.head? = some c → isBlank c = false) :
    trimLeft t = t := by
  cases t with
  | nil => rfl
  | cons c t => simp [trimLeft, h c rfl]

theorem trimRight_eq_self_of_last {t : Text}
    (h : ∀ c, t.getLast? = some c → isBlank c = false) : trimRight t = t := by
  have hrev : trimLeft t.reverse = t.reverse :=
    trimLeft_eq_self_of_head (by simpa using h)
  simp only [trimLeft] at hrev
  simp [trimRight, hrev]

/-- A text that neither begins nor ends with a blank is left as it is. -/
theorem trim_eq_self {t : Text} (hfirst : ∀ c, t.head? = some c → isBlank c = false)
    (hlast : ∀ c, t.getLast? = some c → isBlank c = false) : trim t = t := by
  rw [trim, trimLeft_eq_self_of_head hfirst, trimRight_eq_self_of_last hlast]

/-- Only blanks are taken off the left end, and they are taken off entirely. -/
theorem trimLeft_spec (t : Text) :
    ∃ before, t = before ++ trimLeft t ∧ before.all isBlank = true ∧
      ∀ c, (trimLeft t).head? = some c → isBlank c = false := by
  refine ⟨t.takeWhile isBlank, (List.takeWhile_append_dropWhile).symm, ?_, ?_⟩
  · simp
  · intro c hc
    have := List.head?_dropWhile_not isBlank t
    rw [trimLeft] at hc
    rw [hc] at this
    simpa using this

/-- Only blanks are taken off the right end, and they are taken off entirely. -/
theorem trimRight_spec (t : Text) :
    ∃ after, t = trimRight t ++ after ∧ after.all isBlank = true ∧
      ∀ c, (trimRight t).getLast? = some c → isBlank c = false := by
  obtain ⟨before, hsplit, hblank, hhead⟩ := trimLeft_spec t.reverse
  refine ⟨before.reverse, ?_, by simpa using hblank, ?_⟩
  · have := congrArg List.reverse hsplit
    simpa [trimRight, trimLeft] using this
  · intro c hc
    exact hhead c (by simpa [trimRight, trimLeft] using hc)

/-- **Trimming**: blanks stand before and behind what is left, which neither
begins nor ends with one. -/
theorem trim_spec (t : Text) :
    ∃ before after, t = before ++ trim t ++ after ∧ before.all isBlank = true ∧
      after.all isBlank = true ∧ (∀ c, (trim t).head? = some c → isBlank c = false) ∧
      ∀ c, (trim t).getLast? = some c → isBlank c = false := by
  obtain ⟨before, hleft, hbefore, hhead⟩ := trimLeft_spec t
  obtain ⟨after, hright, hafter, hlast⟩ := trimRight_spec (trimLeft t)
  refine ⟨before, after, ?_, hbefore, hafter, ?_, hlast⟩
  · rw [List.append_assoc, trim, ← hright, ← hleft]
  · intro c hc
    refine hhead c ?_
    rw [hright, List.head?_append]
    rw [trim] at hc
    simp [hc]

theorem trim_head {t : Text} {c : Char} (h : (trim t).head? = some c) : isBlank c = false := by
  obtain ⟨_, _, _, _, _, hhead, _⟩ := trim_spec t
  exact hhead c h

theorem trim_last {t : Text} {c : Char} (h : (trim t).getLast? = some c) :
    isBlank c = false := by
  obtain ⟨_, _, _, _, _, _, hlast⟩ := trim_spec t
  exact hlast c h

@[simp] theorem trim_trim (t : Text) : trim (trim t) = trim t :=
  trim_eq_self (fun _ h => trim_head h) (fun _ h => trim_last h)

theorem trim_cons_blank {c : Char} (h : isBlank c = true) (t : Text) :
    trim (c :: t) = trim t := by
  simp [trim, trimLeft, h]

theorem trim_concat_blank {c : Char} (h : isBlank c = true) (t : Text) :
    trim (t ++ [c]) = trim t := by
  have hright : ∀ s : Text, trimRight (s ++ [c]) = trimRight s := by
    intro s
    simp [trimRight, h]
  -- In a text of blanks the last one goes with the left trim.
  by_cases hnil : t.dropWhile isBlank = []
  · simp [trim, trimLeft, List.dropWhile_append, hnil, h]
  · have hleft : trimLeft (t ++ [c]) = trimLeft t ++ [c] := by
      simp [trimLeft, List.dropWhile_append, hnil]
    rw [trim, trim, hleft, hright]

/-- Trimming brings in no characters. -/
theorem mem_of_mem_trimRight {t : Text} {c : Char} (h : c ∈ trimRight t) : c ∈ t := by
  obtain ⟨after, hsplit, _⟩ := trimRight_spec t
  rw [hsplit]
  exact List.mem_append_left _ h

theorem mem_of_mem_trim {t : Text} {c : Char} (h : c ∈ trim t) : c ∈ t :=
  (List.dropWhile_sublist _).subset (mem_of_mem_trimRight h)

/-- Trimming takes away nothing but blanks. -/
theorem mem_trim_of_mem {t : Text} {c : Char} (h : c ∈ t) (hc : isBlank c = false) :
    c ∈ trim t := by
  obtain ⟨before, after, hsplit, hbefore, hafter, _⟩ := trim_spec t
  have hno : ∀ s : Text, s.all isBlank = true → c ∉ s := fun s hs hmem =>
    absurd (List.all_eq_true.mp hs c hmem) (by simp [hc])
  rw [hsplit, List.mem_append, List.mem_append] at h
  exact (h.resolve_right (hno after hafter)).resolve_left (hno before hbefore)

/-- A text without blanks is trimmed. -/
theorem trim_of_no_blank {t : Text} (h : ∀ c ∈ t, isBlank c = false) : trim t = t :=
  trim_eq_self (fun c hc => h c (List.mem_of_head? hc))
    (fun c hc => h c (List.mem_of_getLast? hc))

/-! ## Trimming what is put together -/

theorem isBlankText_append (s t : Text) :
    isBlankText (s ++ t) = (isBlankText s && isBlankText t) := List.all_append

theorem trimLeft_append_of_blank {before : Text} (h : isBlankText before = true) (t : Text) :
    trimLeft (before ++ t) = trimLeft t := by
  induction before with
  | nil => rfl
  | cons c before ih =>
      rw [isBlankText, List.all_cons, Bool.and_eq_true] at h
      rw [← ih h.2]
      simp [trimLeft, h.1]

theorem trim_of_isBlankText {t : Text} (h : isBlankText t = true) : trim t = [] := by
  have hleft := trimLeft_append_of_blank h []
  rw [List.append_nil] at hleft
  rw [trim, hleft]
  rfl

theorem trimLeft_append_of_not_blank {before : Text} (h : isBlankText before = false) (t : Text) :
    trimLeft (before ++ t) = trimLeft before ++ t := by
  induction before with
  | nil => simp [isBlankText] at h
  | cons c before ih =>
      by_cases hc : isBlank c = true
      · have hrest : isBlankText before = false := by simpa [isBlankText, hc] using h
        simpa [trimLeft, hc] using ih hrest
      · simp [trimLeft, hc]

theorem trimRight_append_of_blank (t : Text) {after : Text} (h : isBlankText after = true) :
    trimRight (t ++ after) = trimRight t := by
  have hrev : isBlankText after.reverse = true := by simpa [isBlankText] using h
  have := congrArg List.reverse (trimLeft_append_of_blank hrev t.reverse)
  simpa [trimRight, trimLeft] using this

theorem trimRight_append_of_not_blank (t : Text) {after : Text} (h : isBlankText after = false) :
    trimRight (t ++ after) = t ++ trimRight after := by
  have hrev : isBlankText after.reverse = false := by simpa [isBlankText] using h
  have := congrArg List.reverse (trimLeft_append_of_not_blank hrev t.reverse)
  simpa [trimRight, trimLeft] using this

/-- Where the text before it ends with no blank, trimming does not go beyond the last text. -/
theorem trimRight_append_of_last {t : Text}
    (h : ∀ c, t.getLast? = some c → isBlank c = false) (after : Text) :
    trimRight (t ++ after) = t ++ trimRight after := by
  by_cases hblank : isBlankText after = true
  · have hnil : trimRight after = [] := by
      simpa [trimRight, trimLeft] using trimRight_append_of_blank [] hblank
    rw [trimRight_append_of_blank t hblank, hnil, List.append_nil, trimRight_eq_self_of_last h]
  · exact trimRight_append_of_not_blank t (by simpa using hblank)

theorem isBlankText_trimLeft (t : Text) : isBlankText (trimLeft t) = isBlankText t := by
  obtain ⟨before, hsplit, hblank, _⟩ := trimLeft_spec t
  rw [isBlankText, isBlankText]
  conv => rhs; rw [hsplit]
  rw [List.all_append, hblank, Bool.true_and]

theorem isBlankText_trimRight (t : Text) : isBlankText (trimRight t) = isBlankText t := by
  obtain ⟨after, hsplit, hblank, _⟩ := trimRight_spec t
  rw [isBlankText, isBlankText]
  conv => rhs; rw [hsplit]
  rw [List.all_append, hblank, Bool.and_true]

theorem trimLeft_ne_nil {t : Text} (h : isBlankText t = false) : trimLeft t ≠ [] := by
  intro hnil
  rw [← isBlankText_trimLeft, hnil] at h
  cases h

theorem trimRight_ne_nil {t : Text} (h : isBlankText t = false) : trimRight t ≠ [] := by
  intro hnil
  obtain ⟨after, hsplit, hblank, _⟩ := trimRight_spec t
  rw [hnil, List.nil_append] at hsplit
  rw [hsplit, isBlankText, hblank] at h
  cases h

theorem getLast?_trimLeft {t : Text} (h : isBlankText t = false) :
    (trimLeft t).getLast? = t.getLast? := by
  obtain ⟨before, hsplit, _⟩ := trimLeft_spec t
  conv => rhs; rw [hsplit, List.getLast?_append, Option.or_of_isSome
    (by simpa using trimLeft_ne_nil h)]

theorem head?_trimRight {t : Text} (h : isBlankText t = false) :
    (trimRight t).head? = t.head? := by
  obtain ⟨after, hsplit, _⟩ := trimRight_spec t
  conv => rhs; rw [hsplit, List.head?_append, Option.or_of_isSome
    (by simpa using trimRight_ne_nil h)]

theorem trim_trimLeft (t : Text) : trim (trimLeft t) = trim t := by
  obtain ⟨_, _, _, hhead⟩ := trimLeft_spec t
  rw [trim, trimLeft_eq_self_of_head hhead, trim]

end Questionnaire.Text
