import Questionnaire.Source.Field
import Questionnaire.Proofs.Text.Trim

/-!
# Forms of values

What ranges, columns, computations and levels of navigation are, and what may be
wrong with a text that should be one. A reader fails exactly on such texts
(`rangeOf_eq_error`, `columnOf_eq_error`, `computationOf_eq_error`,
`levelOf_eq_error`). Digits alone do not make a numeral: some have no place in
one, and there may be too many of them.
-/

namespace Questionnaire.Source

open Text

/-! ## Whole numbers -/

/-- The text writes a whole number: decimal digits, with a minus before them or
not. -/
inductive IsWhole : Text → Int → Prop where
  /-- Digits alone. -/
  | plain {digits : Text} (hsome : digits ≠ []) (hdigits : ∀ c ∈ digits, isDecimal c = true) :
      IsWhole digits (digitsValue digits)
  /-- Digits behind a minus. -/
  | minus {digits : Text} (hsome : digits ≠ []) (hdigits : ∀ c ∈ digits, isDecimal c = true) :
      IsWhole ('-' :: digits) (-digitsValue digits)

/-- The digits at the start of a text are those before the first other character. -/
private theorem span_digits {digits rest : Text} (hdigits : ∀ c ∈ digits, isDecimal c = true)
    (hrest : ∀ c, rest.head? = some c → isDecimal c = false) :
    (digits ++ rest).takeWhile isDecimal = digits ∧
      (digits ++ rest).dropWhile isDecimal = rest := by
  rw [List.takeWhile_append_of_pos hdigits, List.dropWhile_append_of_pos hdigits]
  cases rest with
  | nil => simp
  | cons c rest => simp [hrest c rfl]

private theorem not_isDecimal_minus : isDecimal '-' = false := by decide

/-- A whole number is read where it ends at a character that is no digit. -/
theorem readWhole?_append {t rest : Text} {n : Int} (h : IsWhole t n)
    (hrest : ∀ c, rest.head? = some c → isDecimal c = false) :
    readWhole? (t ++ rest) = some (n, rest) := by
  cases h with
  | plain hsome hdigits =>
      obtain ⟨htake, hdrop⟩ := span_digits hdigits hrest
      obtain ⟨c, digits, rfl⟩ := List.exists_cons_of_ne_nil hsome
      rw [readWhole?]
      · rw [htake, hdrop]
        rfl
      · -- A digit is no minus.
        intro tail hminus
        obtain ⟨rfl, _⟩ := List.cons.inj hminus
        exact absurd (hdigits '-' List.mem_cons_self) (by simp [not_isDecimal_minus])
  | minus hsome hdigits =>
      obtain ⟨htake, hdrop⟩ := span_digits hdigits hrest
      rw [List.cons_append, readWhole?, htake, hdrop]
      simp [hsome]

/-- What is read as a whole number is one. -/
theorem isWhole_of_readWhole? {t rest : Text} {n : Int} (h : readWhole? t = some (n, rest)) :
    ∃ number, t = number ++ rest ∧ IsWhole number n := by
  have hdigits : ∀ s : Text, ∀ c ∈ s.takeWhile isDecimal, isDecimal c = true := fun s =>
    List.all_eq_true.mp List.all_takeWhile
  unfold readWhole? at h
  split at h
  · rename_i digits
    split at h
    · cases h
    · rename_i hsome
      cases h
      refine ⟨'-' :: digits.takeWhile isDecimal, ?_, .minus ?_ (hdigits digits)⟩
      · rw [List.cons_append, List.takeWhile_append_dropWhile]
      · simpa using hsome
  · split at h
    · cases h
    · rename_i hsome
      cases h
      refine ⟨t.takeWhile isDecimal, ?_, .plain ?_ (hdigits t)⟩
      · rw [List.takeWhile_append_dropWhile]
      · simpa using hsome

/-- More decimal digits stand in a row somewhere than a numeral may have. -/
def IsTooLong (t : Text) : Prop :=
  ∃ digits, digits <:+: t ∧ (∀ c ∈ digits, isDecimal c = true) ∧ numeralLimit < digits.length

/-- Digits in a row stand at the start of the text or in the rest of it. -/
private theorem isTooLong_cons {c : Char} {t : Text} :
    IsTooLong (c :: t) ↔ numeralLimit < ((c :: t).takeWhile isDecimal).length ∨ IsTooLong t := by
  constructor
  · rintro ⟨digits, hinfix, hdigits, hlong⟩
    rcases List.infix_cons_iff.mp hinfix with ⟨rest, hprefix⟩ | hinfix
    · left
      rw [← hprefix, List.takeWhile_append_of_pos hdigits, List.length_append]
      omega
    · exact .inr ⟨digits, hinfix, hdigits, hlong⟩
  · rintro (hlong | ⟨digits, hinfix, hdigits, hlong⟩)
    · exact ⟨_, (List.takeWhile_prefix _).isInfix, List.all_eq_true.mp List.all_takeWhile, hlong⟩
    · exact ⟨digits, List.infix_cons_iff.mpr (.inr hinfix), hdigits, hlong⟩

/-- The count of digits under way goes on at the start of the text. -/
private theorem isOverlong_eq_true (run : Nat) (t : Text) : isOverlong run t = true ↔
    numeralLimit < run + (t.takeWhile isDecimal).length ∨ IsTooLong t := by
  induction t generalizing run with
  | nil =>
      have hnone : ¬IsTooLong [] := by
        rintro ⟨digits, hinfix, _, hlong⟩
        rw [List.infix_nil.mp hinfix] at hlong
        exact absurd hlong (Nat.not_lt_zero _)
      simp [isOverlong, hnone]
  | cons c t ih =>
      rw [isTooLong_cons, isOverlong]
      by_cases hc : isDecimal c = true
      · rw [if_pos hc, ih, List.takeWhile_cons_of_pos hc, List.length_cons, ← or_assoc]
        refine or_congr_left ?_
        omega
      · rw [if_neg hc, Bool.or_eq_true, decide_eq_true_eq, ih, List.takeWhile_cons_of_neg hc]
        simp only [List.length_nil, Nat.add_zero, Nat.zero_add, Nat.not_lt_zero, false_or]
        refine or_congr_right ⟨fun h => h.elim (fun hlong => ?_) id, .inr⟩
        exact ⟨_, (List.takeWhile_prefix _).isInfix, List.all_eq_true.mp List.all_takeWhile, hlong⟩

theorem isOverlong_iff {t : Text} : isOverlong 0 t = true ↔ IsTooLong t := by
  rw [isOverlong_eq_true, Nat.zero_add]
  refine ⟨fun h => h.elim (fun hlong => ?_) id, .inr⟩
  exact ⟨_, (List.takeWhile_prefix _).isInfix, List.all_eq_true.mp List.all_takeWhile, hlong⟩

/-! ## Ranges -/

/-- The text writes a range: two whole numbers with a dash between them. -/
def IsRange (t : Text) (first last : Int) : Prop :=
  ∃ left right, t = left ++ '-' :: right ∧ IsWhole left first ∧ IsWhole right last

theorem readEnds?_eq_some {t : Text} {first last : Int} :
    readEnds? t = some (first, last) ↔ IsRange t first last := by
  constructor
  · intro h
    unfold readEnds? at h
    split at h
    · rename_i hleft
      split at h
      · rename_i hright
        cases h
        obtain ⟨left, rfl, hfirst⟩ := isWhole_of_readWhole? hleft
        obtain ⟨right, rfl, hlast⟩ := isWhole_of_readWhole? hright
        exact ⟨left, right, by rw [List.append_nil], hfirst, hlast⟩
      · cases h
    · cases h
  · rintro ⟨left, right, rfl, hfirst, hlast⟩
    have hleft : readWhole? (left ++ '-' :: right) = _ := readWhole?_append hfirst fun c hc => by
      obtain rfl := Option.some.inj hc
      exact not_isDecimal_minus
    have hright : readWhole? (right ++ []) = _ := readWhole?_append hlast fun c hc => by
      cases hc
    rw [List.append_nil] at hright
    simp [readEnds?, hleft, hright]

/-- What is wrong with a value that should be a range. -/
inductive RangeFault (value : Text) : Fault → Prop where
  /-- It is none. -/
  | form (h : ∀ first last, ¬IsRange (trim value) first last) : RangeFault value (.range value)
  /-- One of its numbers is too long. -/
  | numeral {first last : Int} (h : IsRange (trim value) first last)
      (hlong : IsTooLong (trim value)) : RangeFault value (.numeral value)
  /-- It ends before it starts. -/
  | reversed {first last : Int} (h : IsRange (trim value) first last)
      (hlong : ¬IsTooLong (trim value)) (hless : last < first) :
      RangeFault value (.reversed first last)

/-- **A range is not read exactly if something is wrong with it.** -/
theorem rangeOf_eq_error {value : Text} {fault : Fault} :
    rangeOf value = .error fault ↔ RangeFault value fault := by
  constructor
  · intro h
    unfold rangeOf at h
    split at h
    · rename_i hnone
      cases h
      refine .form fun first last hrange => ?_
      rw [readEnds?_eq_some.mpr hrange] at hnone
      cases hnone
    · rename_i first last hends
      have hrange := readEnds?_eq_some.mp hends
      split at h
      · rename_i hlong
        cases h
        exact .numeral hrange (isOverlong_iff.mp hlong)
      · rename_i hlong
        split at h
        · rename_i hless
          cases h
          exact .reversed hrange (fun h => hlong (isOverlong_iff.mpr h)) hless
        · cases h
  · intro h
    cases h with
    | form hnone =>
        have hends : readEnds? (trim value) = none := by
          cases hends : readEnds? (trim value) with
          | none => rfl
          | some ends => exact absurd (readEnds?_eq_some.mp hends) (hnone ends.1 ends.2)
        simp [rangeOf, hends]
    | numeral hrange hlong =>
        simp [rangeOf, readEnds?_eq_some.mpr hrange, isOverlong_iff.mpr hlong]
    | reversed hrange hlong hless =>
        simp [rangeOf, readEnds?_eq_some.mpr hrange, mt isOverlong_iff.mp hlong, hless]

/-! ## Columns -/

/-- What is wrong with a value that should be a column. -/
inductive ColumnFault (value : Text) : Fault → Prop where
  /-- There is nothing, or something that is called no digit. -/
  | form (h : trim value = [] ∨ ∃ c ∈ trim value, isDigitForm c = false) :
      ColumnFault value (.column value)
  /-- There are digits alone, but some have no place in a numeral or they are too
  many. -/
  | numeral (hsome : trim value ≠ []) (hdigits : ∀ c ∈ trim value, isDigitForm c = true)
      (h : (∃ c ∈ trim value, isDecimal c = false) ∨ IsTooLong (trim value)) :
      ColumnFault value (.numeral value)
  /-- The number is zero. -/
  | zero (hsome : trim value ≠ []) (hdigits : ∀ c ∈ trim value, isDecimal c = true)
      (hlong : ¬IsTooLong (trim value)) (hzero : digitsValue (trim value) = 0) :
      ColumnFault value (.column value)

private theorem isDigitForm_of_isDecimal {c : Char} (h : isDecimal c = true) :
    isDigitForm c = true := by
  rw [isDigitForm, h, Bool.true_or]

/-- **A column is not read exactly if something is wrong with it.** -/
theorem columnOf_eq_error {value : Text} {fault : Fault} :
    columnOf value = .error fault ↔ ColumnFault value fault := by
  have hall : ∀ p : Char → Bool, (trim value).all p = false ↔ ∃ c ∈ trim value, p c = false := by
    intro p
    simp
  constructor
  · intro h
    simp only [columnOf] at h
    split at h
    · rename_i hform
      cases h
      rw [Bool.or_eq_true, List.isEmpty_iff, Bool.not_eq_true', hall] at hform
      exact .form hform
    · rename_i hform
      rw [Bool.or_eq_true, List.isEmpty_iff, Bool.not_eq_true', not_or, Bool.not_eq_false,
        List.all_eq_true] at hform
      split at h
      · rename_i hnumeral
        cases h
        rw [Bool.or_eq_true, Bool.not_eq_true', hall, isOverlong_iff] at hnumeral
        exact .numeral hform.1 hform.2 hnumeral
      · rename_i hnumeral
        rw [Bool.or_eq_true, Bool.not_eq_true', isOverlong_iff, not_or, Bool.not_eq_false,
          List.all_eq_true] at hnumeral
        split at h
        · rename_i hzero
          cases h
          exact .zero hform.1 hnumeral.1 hnumeral.2 hzero
        · cases h
  · intro h
    cases h with
    | form hform =>
        rw [← hall, ← List.isEmpty_iff] at hform
        simp only [columnOf, Bool.or_eq_true, Bool.not_eq_true', if_pos hform]
    | numeral hsome hdigits hnumeral =>
        rw [← hall, ← isOverlong_iff] at hnumeral
        simp only [columnOf, Bool.or_eq_true, Bool.not_eq_true', if_pos hnumeral]
        rw [if_neg]
        simp [hsome, List.all_eq_true.mpr hdigits]
    | zero hsome hdigits hlong hzero =>
        have hforms : ∀ c ∈ trim value, isDigitForm c = true := fun c hc =>
          isDigitForm_of_isDecimal (hdigits c hc)
        simp [columnOf, hsome, List.all_eq_true.mpr hdigits, List.all_eq_true.mpr hforms, hzero,
          mt isOverlong_iff.mp hlong]

/-! ## Computations and levels -/

/-- The text gives a name to an expression behind the first equals sign. -/
def IsComputation (value name expression : Text) : Prop :=
  ∃ left right, value = left ++ '=' :: right ∧ '=' ∉ left ∧ name = trim left ∧
    isIdentifier name = true ∧ isBlankText right = false ∧ expression = trim right

/-- **A computation is not read exactly if it is none.** -/
theorem computationOf_eq_error {value : Text} {fault : Fault} :
    computationOf value = .error fault ↔
      fault = .compute value ∧ ∀ name expression, ¬IsComputation value name expression := by
  have hsplit := List.takeWhile_append_dropWhile (p := fun c => decide (c ≠ '=')) (l := value)
  have hleft : '=' ∉ value.takeWhile (· ≠ '=') := fun hmem => by
    have := List.all_eq_true.mp List.all_takeWhile '=' hmem
    simp at this
  -- The first equals sign is where the text is cut.
  have hcut : ∀ {left right : Text}, value = left ++ '=' :: right → '=' ∉ left →
      value.takeWhile (· ≠ '=') = left ∧ value.dropWhile (· ≠ '=') = '=' :: right := by
    rintro left right rfl hnone
    have hpos : ∀ c ∈ left, decide (c ≠ '=') = true := fun c hc =>
      decide_eq_true fun heq => hnone (heq ▸ hc)
    rw [List.takeWhile_append_of_pos hpos, List.dropWhile_append_of_pos hpos]
    simp
  constructor
  · intro h
    simp only [computationOf] at h
    split at h
    · rename_i hdrop
      cases h
      refine ⟨rfl, ?_⟩
      rintro name expression ⟨left, right, hvalue, hnone, _⟩
      have := (hcut hvalue hnone).2
      rw [hdrop] at this
      cases this
    · rename_i c rest hdrop
      split at h
      · cases h
      · rename_i hform
        cases h
        refine ⟨rfl, ?_⟩
        rintro name expression ⟨left, right, hvalue, hnone, rfl, hname, hright, _⟩
        obtain ⟨htake, hrest⟩ := hcut hvalue hnone
        rw [hdrop, List.cons.injEq] at hrest
        refine hform ?_
        rw [htake, hrest.2, hname, hright]
        rfl
  · rintro ⟨rfl, hnone⟩
    simp only [computationOf]
    split
    · rfl
    · rename_i c rest hdrop
      have hc : c = '=' := by
        have := List.head?_dropWhile_not (fun c => decide (c ≠ '=')) value
        rw [hdrop] at this
        simpa using this
      rw [hdrop, hc] at hsplit
      refine if_neg fun hform => ?_
      rw [Bool.and_eq_true, Bool.not_eq_true'] at hform
      exact hnone _ _ ⟨_, rest, hsplit.symm, hleft, rfl, hform.1, hform.2, rfl⟩

/-- **A level is not read exactly if it is neither of the two.** -/
theorem levelOf_eq_error {keyword value : Text} {fault : Fault} :
    levelOf keyword value = .error fault ↔
      fault = .level keyword value ∧ trim value ≠ ['1'] ∧ trim value ≠ ['2'] := by
  rw [levelOf]
  split
  · rename_i hone
    simp [hone]
  · rename_i hone
    split
    · rename_i htwo
      simp [htwo]
    · rename_i htwo
      simp [hone, htwo, eq_comm]

end Questionnaire.Source
