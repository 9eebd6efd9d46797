import Questionnaire.Proofs.Source.Lines

/-!
# Lines with values of a form of their own

Five kinds of lines have a value that is read further: ranges, columns,
computations, and the two keywords for levels of navigation. A line is one of
these or is classified without fail (`classify_valued`), so a line that cannot
be classified is one of the five with a malformed value. A line that means
something only inside a question, or only below a row, stands there
(`stands_of_classify`).
-/

namespace Questionnaire.Source

open Text

/-- Whether lines of the kind have a value of a form of its own. A column is one only with its
number. -/
def LineKind.isFormed : LineKind → Bool
  | .range .. => true
  | .column _ => true
  | .modifier .column => true
  | .computation _ => true
  | .navigation .. => true
  | _ => false

/-- Whether the line is a modifier of a row. -/
def LineKind.isModifier : LineKind → Bool
  | .modifier _ => true
  | .column _ => true
  | _ => false

/-- Whether the line means something only inside a question. -/
def LineKind.isInside : LineKind → Bool
  | .hint => true
  | .varName => true
  | .input _ => true
  | .unitBefore => true
  | .unitAfter => true
  | .total => true
  | .subtotal => true
  | .range .. => true
  | .option => true
  | .matrixRow => true
  | .modifier _ => true
  | .column _ => true
  | .rowHeader => true
  | .rowSeparator => true
  | .rowSubtotal => true
  | _ => false

/-- The line stands where it means something, and a question marker has its text. -/
structure Line.Stands (context : Context) (t : Text) (line : Line) : Prop where
  /-- The text of a question marker is what stands behind its colon. -/
  question : line.kind = .question → questionText? t = some line.value
  /-- A modifier stands below a row. -/
  modifier : line.kind.isModifier = true → context.hasRow = true
  /-- Many lines stand inside a question. -/
  inside : line.kind.isInside = true → context ≠ .content

/-- Lines that mean something everywhere. -/
theorem Line.Stands.anywhere {context : Context} {t : Text} {line : Line}
    (hkind : line.kind ≠ .question) (hinside : line.kind.isInside = false)
    (hmodifier : line.kind.isModifier = false) : line.Stands context t where
  question := fun h => absurd h hkind
  modifier := fun h => nomatch hmodifier.symm.trans h
  inside := fun h => nomatch hinside.symm.trans h

/-- Lines inside a question, modifiers apart. -/
theorem Line.Stands.within {context : Context} {t : Text} {line : Line}
    (h : context ≠ .content) (hkind : line.kind ≠ .question)
    (hmodifier : line.kind.isModifier = false) : line.Stands context t where
  question := fun hquestion => absurd hquestion hkind
  modifier := fun h => nomatch hmodifier.symm.trans h
  inside := fun _ => h

/-- Lines below a row. -/
theorem Line.Stands.below {context : Context} {t : Text} {line : Line}
    (h : context.hasRow = true) (hkind : line.kind ≠ .question) : line.Stands context t where
  question := fun hquestion => absurd hquestion hkind
  modifier := fun _ => h
  inside := by
    rintro _ rfl
    cases h

/-- The value of a column behind a dash. -/
def columnText? (t : Text) : Option Text :=
  match ((after? ['-'] t).bind restOfLine?).bind keyword? with
  | some (keyword, value) => if keyword = "COLUMN".toList then some value else none
  | none => none

/-- **What a line is classified as**: a line whose value has a form of its own is
what the reader of that form makes of the value, and all other lines are
classified without fail. -/
inductive Valued (context : Context) (t : Text) : Except Fault Line → Prop where
  /-- The line has no value of a form of its own. -/
  | plain {line : Line} (hkind : line.kind.isFormed = false) (hstands : line.Stands context t) :
      Valued context t (.ok line)
  /-- A range in a question. -/
  | range {value : Text} (hinside : context ≠ .content)
      (hkeyword : keyword? t = some ("RANGE".toList, value)) :
      Valued context t ((rangeOf value).map fun ends => ⟨.range ends.1 ends.2, value⟩)
  /-- A column below a row. -/
  | column {value : Text} (hrow : context.hasRow = true) (hcolumn : columnText? t = some value) :
      Valued context t ((columnOf value).map fun column => ⟨.column column, value⟩)
  /-- A computation. -/
  | computation {value : Text} (hkeyword : keyword? t = some ("COMPUTE".toList, value)) :
      Valued context t ((computationOf value).map fun computed => ⟨.computation computed, value⟩)
  /-- A level of navigation. -/
  | navigation {keyword value : Text} (hkeyword : keyword? t = some (keyword, value))
      (hlevel : keyword = "NAVIGATION".toList ∨ keyword = "LEVEL".toList) :
      Valued context t
        ((levelOf keyword value).map fun level => ⟨.navigation keyword level, value⟩)

theorem Except.map_eq_ok {ε α β : Type} {result : Except ε α} {f : α → β} {y : β}
    (h : result.map f = .ok y) : ∃ x, result = .ok x ∧ y = f x := by
  cases result with
  | error _ => cases h
  | ok x => exact ⟨x, rfl, (Except.ok.inj h).symm⟩

theorem Except.map_eq_error {ε α β : Type} {result : Except ε α} {f : α → β} {error : ε}
    (h : result.map f = .error error) : result = .error error := by
  cases result with
  | error _ =>
      cases h
      rfl
  | ok _ => cases h

/-- A modifier that is a column has its keyword before a colon. -/
private theorem keyword?_of_modifierLine? {t value : Text}
    (h : modifierLine? t = some (.column, value)) : keyword? t = some ("COLUMN".toList, value) := by
  rw [modifierLine?] at h
  split at h
  · rename_i found hfound
    cases h
    obtain ⟨⟨keyword, text⟩, hkeyword, hmap⟩ := Option.bind_eq_some_iff.mp hfound
    obtain ⟨modifier, hmodifier, hpair⟩ := Option.map_eq_some_iff.mp hmap
    cases hpair
    have hspelling := List.find?_some hmodifier
    have hcolumn : "COLUMN".toList = keyword := of_decide_eq_true hspelling
    rw [hkeyword, hcolumn]
  · obtain ⟨modifier, hmodifier, hpair⟩ := Option.map_eq_some_iff.mp h
    cases hpair
    cases (Option.filter_eq_some_iff.mp hmodifier).2

private theorem classifyKeyword?_valued {context : Context} {t keyword value : Text}
    {result : Except Fault Line} (hkeyword : keyword? t = some (keyword, value))
    (h : classifyKeyword? keyword value = some result) : Valued context t result := by
  unfold classifyKeyword? at h
  split at h
  · rename_i hcompute
    obtain rfl := Option.some.inj h
    exact .computation (hcompute ▸ hkeyword)
  · split at h
    · rename_i hlevel
      obtain rfl := Option.some.inj h
      rw [Bool.or_eq_true, decide_eq_true_eq, decide_eq_true_eq] at hlevel
      exact .navigation hkeyword hlevel
    · split at h
      · cases h
        exact .plain rfl (.anywhere nofun rfl rfl)
      · split at h
        · cases h
          exact .plain rfl (.anywhere nofun rfl rfl)
        · cases h

private theorem classifyQuestionKeyword?_valued {context : Context} {t keyword value : Text}
    {result : Except Fault Line} (hinside : context ≠ .content)
    (hkeyword : keyword? t = some (keyword, value))
    (h : classifyQuestionKeyword? keyword value = some result) : Valued context t result := by
  unfold classifyQuestionKeyword? at h
  repeat' split at h
  case isFalse.isFalse.isFalse.isFalse.isFalse.isFalse.isTrue hrange =>
    obtain rfl := Option.some.inj h
    exact .range hinside (hrange ▸ hkeyword)
  all_goals cases h
  all_goals exact .plain rfl (.within hinside nofun rfl)

private theorem classifyDash_valued {context : Context} {t content : Text}
    (hinside : context ≠ .content) (hdash : (after? ['-'] t).bind restOfLine? = some content) :
    Valued context t (classifyDash context content) := by
  rw [classifyDash]
  split
  · exact .plain rfl (.within hinside nofun rfl)
  · split
    · exact .plain rfl (.within hinside nofun rfl)
    · split
      · exact .plain rfl (.within hinside nofun rfl)
      · split
        · exact .plain rfl (.within hinside nofun rfl)
        · split
          · rename_i value hcolumn
            split at hcolumn
            · rename_i hrow
              refine .column hrow ?_
              simp [columnText?, hdash, keyword?_of_modifierLine? hcolumn]
            · cases hcolumn
          · rename_i modifier _ hcolumn hmodifier
            split at hmodifier
            · rename_i hrow
              refine .plain ?_ (.below hrow nofun)
              cases modifier <;> first | rfl | exact absurd rfl hcolumn
            · cases hmodifier
          · exact .plain rfl (.within hinside nofun rfl)

private theorem classifyInside_valued (context : Context) (t : Text) :
    Valued context t (classifyInside context t) := by
  simp only [classifyInside]
  split
  · rename_i result hfound
    obtain ⟨⟨keyword, value⟩, hkeyword, hor⟩ := Option.bind_eq_some_iff.mp hfound
    rcases Option.or_eq_some_iff.mp hor with hanywhere | ⟨_, hquestion⟩
    · exact classifyKeyword?_valued hkeyword hanywhere
    · split at hquestion
      · rename_i hinside
        exact classifyQuestionKeyword?_valued hinside hkeyword hquestion
      · cases hquestion
  · split
    · rename_i word hword
      split at hword
      · rename_i hinside
        exact .plain rfl (.within hinside (by simp) rfl)
      · cases hword
    · split
      · rename_i content hdash
        split at hdash
        · rename_i hinside
          exact classifyDash_valued hinside hdash
        · cases hdash
      · exact .plain rfl (.anywhere (by simp) rfl rfl)

/-- **What a line is classified as.** -/
theorem classify_valued (context : Context) (raw : Text) :
    Valued context (trim raw) (classify context raw) := by
  simp only [classify]
  split
  · exact .plain rfl (.anywhere (by simp) rfl rfl)
  · split
    · exact .plain rfl (.anywhere (by simp) rfl rfl)
    · split
      · exact .plain rfl (.anywhere (by simp) rfl rfl)
      · split
        · exact .plain rfl (.anywhere (by simp) rfl rfl)
        · split
          · rename_i text hquestion
            exact .plain rfl
              ⟨fun _ => hquestion, by simp [LineKind.isModifier], by simp [LineKind.isInside]⟩
          · exact classifyInside_valued context (trim raw)

/-- **A line stands where it means something.** -/
theorem stands_of_classify {context : Context} {raw : Text} {line : Line}
    (h : classify context raw = .ok line) : line.Stands context (trim raw) := by
  have hvalued := classify_valued context raw
  generalize classify context raw = result at h hvalued
  cases hvalued with
  | plain _ hstands =>
      cases h
      exact hstands
  | range hinside _ =>
      obtain ⟨_, _, rfl⟩ := Except.map_eq_ok h
      exact .within hinside nofun rfl
  | column hrow _ =>
      obtain ⟨_, _, rfl⟩ := Except.map_eq_ok h
      exact .below hrow nofun
  | computation _ | navigation _ _ =>
      obtain ⟨_, _, rfl⟩ := Except.map_eq_ok h
      exact .anywhere nofun rfl rfl

theorem not_mem_of_restOfLine? {t value : Text} (h : restOfLine? t = some value) :
    '\n' ∉ value := by
  simp only [restOfLine?, Option.ite_none_left_eq_some, Option.some.injEq] at h
  obtain ⟨hcontains, rfl⟩ := h
  refine fun hmem => hcontains ?_
  exact List.contains_iff_mem.mpr (mem_of_mem_trim hmem)

/-- The text of a question marker is part of one line. -/
theorem not_mem_of_questionText? {t value : Text} (h : questionText? t = some value) :
    '\n' ∉ value := by
  unfold questionText? at h
  split at h
  · split at h
    · exact not_mem_of_restOfLine? h
    · cases h
  · cases h

end Questionnaire.Source
