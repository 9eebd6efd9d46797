import Questionnaire.Proofs.Source.Form
import Questionnaire.Proofs.Source.Values

/-!
# Malformed lines

A line is malformed if it is a range inside a question, a column below a row, a
computation or a level of navigation, and something is wrong with its value
(`Malformed`). These are exactly the lines that are not classified
(`classify_eq_error`), wherever they stand.
-/

namespace Questionnaire.Source

open Text

/-- **A malformed line**, with what is wrong with it. -/
inductive Malformed (context : Context) (t : Text) : Fault → Prop where
  /-- A range inside a question. -/
  | range {value : Text} {fault : Fault} (hinside : context ≠ .content)
      (hkeyword : keyword? t = some ("RANGE".toList, value)) (hfault : RangeFault value fault) :
      Malformed context t fault
  /-- A column below a row. -/
  | column {value : Text} {fault : Fault} (hrow : context.hasRow = true)
      (hcolumn : columnText? t = some value) (hfault : ColumnFault value fault) :
      Malformed context t fault
  /-- A computation. -/
  | computation {value : Text} (hkeyword : keyword? t = some ("COMPUTE".toList, value))
      (hfault : ∀ name expression, ¬IsComputation value name expression) :
      Malformed context t (.compute value)
  /-- A level of navigation. -/
  | navigation {keyword value : Text} (hkeyword : keyword? t = some (keyword, value))
      (hlevel : keyword = "NAVIGATION".toList ∨ keyword = "LEVEL".toList)
      (hone : trim value ≠ ['1']) (htwo : trim value ≠ ['2']) :
      Malformed context t (.level keyword value)

/-! ## Malformed lines are not classified -/

/-- A line that begins like no marker. -/
theorem classify_of_head (context : Context) {raw rest : Text} {c : Char}
    (h : trim raw = c :: rest) (hsign : c ≠ '#') (hblock : c ≠ 'B') (hquestion : c ≠ 'Q') :
    classify context raw = classifyInside context (trim raw) := by
  have hpage : isPageMarker (c :: rest) = false := by
    simp [isPageMarker, hasStart, after?, hsign, Ne.symm hsign]
  have hsection : isSectionMarker (c :: rest) = false := by
    simp [isSectionMarker, hasStart, after?, hsign, Ne.symm hsign]
  have hafter : after? ['B', 'L', 'O', 'C', 'K', ':'] (c :: rest) = none := by
    simp [after?, Ne.symm hblock]
  have htext : questionText? (c :: rest) = none := by
    simp [questionText?, hquestion]
  simp [classify, h, hpage, hsection, hafter, htext]

/-- A keyword stands before a colon. -/
theorem keyword?_eq_append {t keyword value : Text}
    (h : keyword? t = some (keyword, value)) : ∃ rest, t = keyword ++ ':' :: rest := by
  unfold keyword? at h
  split at h
  · rename_i rest hdrop
    split at h
    · cases h
    · obtain ⟨_, _, hpair⟩ := Option.map_eq_some_iff.mp h
      cases hpair
      exact ⟨rest, by rw [← hdrop, List.takeWhile_append_dropWhile]⟩
  · cases h

/-- A line with a keyword that means something everywhere. -/
private theorem classify_of_classifyKeyword? (context : Context) {raw keyword value : Text}
    {result : Except Fault Line} (hkeyword : keyword? (trim raw) = some (keyword, value))
    (hhead : ∀ c, keyword.head? = some c → c ≠ '#' ∧ c ≠ 'B' ∧ c ≠ 'Q') (hsome : keyword ≠ [])
    (h : classifyKeyword? keyword value = some result) : classify context raw = result := by
  obtain ⟨rest, ht⟩ := keyword?_eq_append hkeyword
  obtain ⟨c, keyword, rfl⟩ := List.exists_cons_of_ne_nil hsome
  obtain ⟨hsign, hblock, hquestion⟩ := hhead c rfl
  rw [classify_of_head context ht hsign hblock hquestion, classifyInside, hkeyword,
    Option.bind_some, h, Option.some_or]

theorem classify_range {context : Context} {raw value : Text} (hinside : context ≠ .content)
    (hkeyword : keyword? (trim raw) = some ("RANGE".toList, value)) :
    classify context raw = (rangeOf value).map fun ends => ⟨.range ends.1 ends.2, value⟩ := by
  obtain ⟨rest, ht⟩ := keyword?_eq_append hkeyword
  rw [classify_of_head context ht (by decide) (by decide) (by decide), classifyInside, hkeyword]
  have hanywhere : classifyKeyword? "RANGE".toList value = none := by
    simp [classifyKeyword?]
  have hquestion : classifyQuestionKeyword? "RANGE".toList value
      = some ((rangeOf value).map fun ends => ⟨.range ends.1 ends.2, value⟩) := by
    simp [classifyQuestionKeyword?]
  rw [Option.bind_some, hanywhere, Option.none_or, if_pos hinside, hquestion]

/-- A column behind a dash. -/
private theorem classifyDash_column {context : Context} {content value : Text}
    (hrow : context.hasRow = true) (hkeyword : keyword? content = some ("COLUMN".toList, value)) :
    classifyDash context content
      = (columnOf value).map fun column => ⟨.column column, value⟩ := by
  obtain ⟨rest, hcontent⟩ := keyword?_eq_append hkeyword
  have hmarker : questionText? content = none := by
    rw [hcontent]
    simp [questionText?]
  have hseparator : content ≠ "SEPARATOR".toList := by
    rw [hcontent]
    simp
  have hother : ∀ keyword : Text, keyword ≠ "COLUMN".toList →
      (keyword? content).filter (fun found => found.1 = keyword) = none := by
    intro keyword hne
    rw [hkeyword, Option.filter_some, if_neg]
    exact fun h => hne (of_decide_eq_true h).symm
  have hmodifier : modifierLine? content = some (.column, value) := by
    have hcolumn : Modifier.ofText? "COLUMN".toList = some .column := by decide
    rw [modifierLine?, hkeyword, Option.bind_some, hcolumn]
    rfl
  rw [classifyDash, hmarker]
  simp only [if_neg hseparator, hother "HEADER".toList (by decide),
    hother "SUBTOTAL".toList (by decide), if_pos hrow, hmodifier]

theorem keyword?_dash (rest : Text) : keyword? ('-' :: rest) = none := by
  simp [keyword?, isKeywordChar]

theorem ofText?_dash (rest : Text) : InputWord.ofText? ('-' :: rest) = none := by
  rw [InputWord.ofText?, List.find?_eq_none]
  intro word _ hword
  have hhead : word.spelling.head? = some '-' := by rw [of_decide_eq_true hword]; rfl
  clear hword
  revert hhead
  cases word <;> decide

private theorem classify_column {context : Context} {raw value : Text}
    (hrow : context.hasRow = true) (hcolumn : columnText? (trim raw) = some value) :
    classify context raw = (columnOf value).map fun column => ⟨.column column, value⟩ := by
  unfold columnText? at hcolumn
  split at hcolumn
  · rename_i keyword text hfound
    split at hcolumn
    · rename_i hspelling
      obtain rfl := Option.some.inj hcolumn
      obtain ⟨content, hdash, hkeyword⟩ := Option.bind_eq_some_iff.mp hfound
      obtain ⟨rest, hafter, _⟩ := Option.bind_eq_some_iff.mp hdash
      have ht : trim raw = '-' :: rest := after?_eq_some.mp hafter
      have hinside : context ≠ .content := by
        rintro rfl
        cases hrow
      rw [hspelling] at hkeyword
      rw [ht] at hdash
      rw [classify_of_head context ht (by decide) (by decide) (by decide), ht,
        ← classifyDash_column hrow hkeyword]
      -- Nothing that is looked for before the dash begins with one.
      simp only [classifyInside, keyword?_dash, ofText?_dash, Option.bind_none, if_pos hinside,
        hdash]
    · cases hcolumn
  · cases hcolumn

/-- **The malformed lines are those that are not classified.** -/
theorem classify_eq_error {context : Context} {raw : Text} {fault : Fault} :
    classify context raw = .error fault ↔ Malformed context (trim raw) fault := by
  constructor
  · intro h
    have hvalued := classify_valued context raw
    generalize classify context raw = result at h hvalued
    cases hvalued with
    | plain _ _ => cases h
    | range hinside hkeyword =>
        exact .range hinside hkeyword (rangeOf_eq_error.mp (Except.map_eq_error h))
    | column hrow hcolumn =>
        exact .column hrow hcolumn (columnOf_eq_error.mp (Except.map_eq_error h))
    | computation hkeyword =>
        obtain ⟨rfl, hnone⟩ := computationOf_eq_error.mp (Except.map_eq_error h)
        exact .computation hkeyword hnone
    | navigation hkeyword hlevel =>
        obtain ⟨rfl, hone, htwo⟩ := levelOf_eq_error.mp (Except.map_eq_error h)
        exact .navigation hkeyword hlevel hone htwo
  · intro h
    cases h with
    | range hinside hkeyword hfault =>
        rw [classify_range hinside hkeyword, rangeOf_eq_error.mpr hfault]
        rfl
    | column hrow hcolumn hfault =>
        rw [classify_column hrow hcolumn, columnOf_eq_error.mpr hfault]
        rfl
    | @computation value hkeyword hfault =>
        have hresult : classifyKeyword? "COMPUTE".toList value = some (.error (.compute value)) := by
          rw [classifyKeyword?, if_pos rfl, computationOf_eq_error.mpr ⟨rfl, hfault⟩]
          rfl
        refine classify_of_classifyKeyword? context hkeyword ?_ (by simp) hresult
        rintro c hc
        obtain rfl : 'C' = c := by simpa using hc
        decide
    | @navigation keyword value hkeyword hlevel hone htwo =>
        have hresult : classifyKeyword? keyword value = some (.error (.level keyword value)) := by
          rw [classifyKeyword?, levelOf_eq_error.mpr ⟨rfl, hone, htwo⟩]
          rcases hlevel with rfl | rfl <;> rfl
        refine classify_of_classifyKeyword? context hkeyword ?_ ?_ hresult
        · rintro c hc
          rcases hlevel with rfl | rfl
          · obtain rfl : 'N' = c := by simpa using hc
            decide
          · obtain rfl : 'L' = c := by simpa using hc
            decide
        · rcases hlevel with rfl | rfl <;> simp

/-! ## Faults that are reported -/

/-- Whether a message tells of the fault. There is none for digits that make no
numeral. -/
def Fault.isReported : Fault → Bool
  | .numeral _ => false
  | _ => true

/-- The line writes a number in digits that make no numeral. -/
inductive Unnumbered (t : Text) : Prop where
  /-- One of the numbers of a range is too long. -/
  | range {value : Text} {first last : Int} (hkeyword : keyword? t = some ("RANGE".toList, value))
      (hrange : IsRange (trim value) first last) (hlong : IsTooLong (trim value)) : Unnumbered t
  /-- A column is too long or has digits that have no place in a numeral. -/
  | column {value : Text} (hcolumn : columnText? t = some value) (hsome : trim value ≠ [])
      (hdigits : ∀ c ∈ trim value, isDigitForm c = true)
      (hnumeral : (∃ c ∈ trim value, isDecimal c = false) ∨ IsTooLong (trim value)) : Unnumbered t

/-- A column begins with a dash, and so the line has no keyword. -/
private theorem keyword?_of_columnText? {t value : Text} (h : columnText? t = some value) :
    keyword? t = none := by
  unfold columnText? at h
  split at h
  · rename_i hfound
    obtain ⟨_, hdash, _⟩ := Option.bind_eq_some_iff.mp hfound
    obtain ⟨rest, hafter, _⟩ := Option.bind_eq_some_iff.mp hdash
    have ht : t = '-' :: rest := after?_eq_some.mp hafter
    rw [ht, keyword?_dash]
  · cases h

/-- **All malformed lines are reported but those that write a number in digits that
make no numeral.** -/
theorem Malformed.isReported_iff {context : Context} {t : Text} {fault : Fault}
    (h : Malformed context t fault) : fault.isReported = true ↔ ¬Unnumbered t := by
  constructor
  · intro hreported hunnumbered
    cases hunnumbered with
    | range hkeyword' hrange hlong =>
        cases h with
        | range _ hkeyword hfault =>
            obtain ⟨_, rfl⟩ := Prod.mk.inj (Option.some.inj (hkeyword.symm.trans hkeyword'))
            cases hfault with
            | form hnone => exact hnone _ _ hrange
            | numeral _ _ => cases hreported
            | reversed _ hshort _ => exact hshort hlong
        | column _ hcolumn _ => cases (keyword?_of_columnText? hcolumn).symm.trans hkeyword'
        | computation hkeyword _ =>
            have hname := congrArg Prod.fst (Option.some.inj (hkeyword.symm.trans hkeyword'))
            simp at hname
        | navigation hkeyword hlevel _ _ =>
            have hname := congrArg Prod.fst (Option.some.inj (hkeyword.symm.trans hkeyword'))
            rcases hlevel with rfl | rfl <;> simp at hname
    | column hcolumn' hsome hdigits hnumeral =>
        have hnone := keyword?_of_columnText? hcolumn'
        cases h with
        | range _ hkeyword _ => cases hnone.symm.trans hkeyword
        | computation hkeyword _ => cases hnone.symm.trans hkeyword
        | navigation hkeyword _ _ _ => cases hnone.symm.trans hkeyword
        | column _ hcolumn hfault =>
            obtain rfl := Option.some.inj (hcolumn.symm.trans hcolumn')
            cases hfault with
            | form hform =>
                rcases hform with hempty | ⟨c, hc, hother⟩
                · exact hsome hempty
                · exact Bool.false_ne_true (hother.symm.trans (hdigits c hc))
            | numeral _ _ _ => cases hreported
            | zero _ hdecimals hshort _ =>
                rcases hnumeral with ⟨c, hc, hother⟩ | hlong
                · exact Bool.false_ne_true (hother.symm.trans (hdecimals c hc))
                · exact hshort hlong
  · intro hnumbered
    cases h with
    | range _ hkeyword hfault =>
        cases hfault with
        | form _ | reversed _ _ _ => rfl
        | numeral hrange hlong => exact absurd (.range hkeyword hrange hlong) hnumbered
    | column _ hcolumn hfault =>
        cases hfault with
        | form _ | zero _ _ _ _ => rfl
        | numeral hsome hdigits hnumeral =>
            exact absurd (.column hcolumn hsome hdigits hnumeral) hnumbered
    | computation _ _ | navigation _ _ _ _ => rfl

end Questionnaire.Source
