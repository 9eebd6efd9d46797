import Questionnaire.Source.Lookahead
import Questionnaire.Proofs.Text.Trim

/-!
# Classified lines

Whatever a line is, its value has no blanks around it, and a line that signals
a kind is one that the look ahead takes for the signal (`classify_spec`). The
lines that end the look ahead are markers and computations
(`isDivider_of_endsQuestion`).
-/

namespace Questionnaire.Source

open Text

theorem restOfLine?_trimmed {t value : Text} (h : restOfLine? t = some value) :
    trim value = value := by
  simp only [restOfLine?, Option.ite_none_left_eq_some, Option.some.injEq] at h
  exact h.2 ▸ trim_trim _

/-- Behind the blanks it begins with, a text begins with the rest of its line. -/
theorem restOfLine?_prefix {t value : Text} (h : restOfLine? t = some value) :
    value <+: trimLeft t := by
  simp only [restOfLine?, Option.ite_none_left_eq_some, Option.some.injEq] at h
  obtain ⟨_, rfl⟩ := h
  generalize hline : (if (trimLeft t).getLast? = some '\n' then (trimLeft t).dropLast
    else trimLeft t) = line
  have hprefix : line <+: trimLeft t := by
    rw [← hline]
    split
    · exact List.dropLast_prefix _
    · exact List.prefix_rfl
  -- What is left of the line begins where the trimmed text does, with no blank.
  have hleft : trimLeft line = line := by
    refine trimLeft_eq_self_of_head fun c hc => ?_
    obtain ⟨_, _, _, hhead⟩ := trimLeft_spec t
    obtain ⟨rest, hrest⟩ := hprefix
    refine hhead c ?_
    rw [← hrest, List.head?_append, hc]
    rfl
  obtain ⟨after, hsplit, _⟩ := trimRight_spec line
  rw [trim, hleft]
  exact List.IsPrefix.trans ⟨after, hsplit.symm⟩ hprefix

theorem questionText?_trimmed {t value : Text} (h : questionText? t = some value) :
    trim value = value := by
  unfold questionText? at h
  split at h
  · split at h
    · exact restOfLine?_trimmed h
    · cases h
  · cases h

theorem keyword?_trimmed {t : Text} {found : Text × Text} (h : keyword? t = some found) :
    trim found.2 = found.2 := by
  unfold keyword? at h
  split at h
  · split at h
    · cases h
    · obtain ⟨value, hvalue, rfl⟩ := Option.map_eq_some_iff.mp h
      exact restOfLine?_trimmed hvalue
  · cases h

theorem modifierLine?_trimmed {t : Text} {found : Modifier × Text}
    (h : modifierLine? t = some found) : trim found.2 = found.2 := by
  rw [modifierLine?] at h
  split at h
  · rename_i inner hfound
    cases h
    obtain ⟨keyword, hkeyword, hmap⟩ := Option.bind_eq_some_iff.mp hfound
    obtain ⟨modifier, _, rfl⟩ := Option.map_eq_some_iff.mp hmap
    exact keyword?_trimmed hkeyword
  · obtain ⟨modifier, _, rfl⟩ := Option.map_eq_some_iff.mp h
    rfl

/-- The kind that a line signals stands in the line where the look ahead finds
it: an input word is the whole line, a row of a matrix is behind a dash. -/
def LineKind.Fits (t : Text) : LineKind → Prop
  | .input word => InputWord.ofText? t = some word
  | .matrixRow => isMatrixRow t = true
  | _ => True

private theorem eq_of_map {α : Type} {result : Except Fault α} {kind : α → LineKind}
    {value : Text} {line : Line} (h : result.map (fun x => ⟨kind x, value⟩) = .ok line) :
    ∃ x, line = ⟨kind x, value⟩ := by
  cases result with
  | error _ => cases h
  | ok x => exact ⟨x, (Except.ok.inj h).symm⟩

private theorem classifyKeyword?_spec {keyword value : Text} {line : Line}
    (h : classifyKeyword? keyword value = some (.ok line)) (t : Text) :
    line.value = value ∧ line.kind.Fits t := by
  unfold classifyKeyword? at h
  split at h
  · obtain ⟨_, rfl⟩ := eq_of_map (Option.some.inj h)
    exact ⟨rfl, trivial⟩
  · split at h
    · obtain ⟨_, rfl⟩ := eq_of_map (Option.some.inj h)
      exact ⟨rfl, trivial⟩
    · split at h
      · cases h
        exact ⟨rfl, trivial⟩
      · split at h
        · cases h
          exact ⟨rfl, trivial⟩
        · cases h

private theorem classifyQuestionKeyword?_spec {keyword value : Text} {line : Line}
    (h : classifyQuestionKeyword? keyword value = some (.ok line)) (t : Text) :
    line.value = value ∧ line.kind.Fits t := by
  unfold classifyQuestionKeyword? at h
  repeat' split at h
  case isFalse.isFalse.isFalse.isFalse.isFalse.isFalse.isTrue =>
    obtain ⟨_, rfl⟩ := eq_of_map (Option.some.inj h)
    exact ⟨rfl, trivial⟩
  all_goals cases h
  all_goals exact ⟨rfl, trivial⟩

private theorem classifyDash_spec {context : Context} {t dashed : Text} {line : Line}
    (ht : trim t = t) (hrow : isQuestionMarker t = true → isMatrixRow dashed = true)
    (h : classifyDash context t = .ok line) :
    trim line.value = line.value ∧ line.kind.Fits dashed := by
  unfold classifyDash at h
  split at h
  · rename_i hquestion
    cases h
    exact ⟨questionText?_trimmed hquestion, hrow (by simp [isQuestionMarker, hquestion])⟩
  · split at h
    · cases h
      exact ⟨rfl, trivial⟩
    · split at h
      · rename_i value hheader
        cases h
        exact ⟨keyword?_trimmed (Option.filter_eq_some_iff.mp hheader).1, trivial⟩
      · split at h
        · rename_i value hsubtotal
          cases h
          exact ⟨keyword?_trimmed (Option.filter_eq_some_iff.mp hsubtotal).1, trivial⟩
        · split at h
          · rename_i value hcolumn
            obtain ⟨_, rfl⟩ := eq_of_map h
            split at hcolumn
            · exact ⟨modifierLine?_trimmed hcolumn, trivial⟩
            · cases hcolumn
          · rename_i modifier value _ hmodifier
            cases h
            split at hmodifier
            · exact ⟨modifierLine?_trimmed hmodifier, trivial⟩
            · cases hmodifier
          · cases h
            exact ⟨ht, trivial⟩

/-- Trimming the text behind a dash does not hide the marker in it. -/
private theorem isMatrixRow_of_dash {t rest content : Text} (hdash : after? ['-'] t = some rest)
    (hrest : restOfLine? rest = some content) (h : isQuestionMarker content = true) :
    isMatrixRow t = true := by
  obtain ⟨tail, htail⟩ := restOfLine?_prefix hrest
  unfold isQuestionMarker questionText? at h
  split at h
  · rename_i inner
    split at h
    · rename_i behind hcolon
      have hdrop : (inner ++ tail).dropWhile isDecimal = ':' :: behind ++ tail := by
        rw [List.dropWhile_append, hcolon]
        rfl
      simp [isMatrixRow, hdash, ← htail, hdrop]
    · cases h
  · cases h

private theorem classifyInside_spec {context : Context} {t : Text} {line : Line}
    (ht : trim t = t) (h : classifyInside context t = .ok line) :
    trim line.value = line.value ∧ line.kind.Fits t := by
  simp only [classifyInside] at h
  split at h
  · rename_i result hfound
    cases h
    obtain ⟨found, hkeyword, hor⟩ := Option.bind_eq_some_iff.mp hfound
    have hspec : line.value = found.2 ∧ line.kind.Fits t := by
      rcases Option.or_eq_some_iff.mp hor with hanywhere | ⟨_, hquestion⟩
      · exact classifyKeyword?_spec hanywhere t
      · split at hquestion
        · exact classifyQuestionKeyword?_spec hquestion t
        · cases hquestion
    exact ⟨hspec.1 ▸ keyword?_trimmed hkeyword, hspec.2⟩
  · split at h
    · rename_i word hword
      cases h
      split at hword
      · exact ⟨ht, hword⟩
      · cases hword
    · split at h
      · rename_i content hdash
        split at hdash
        · obtain ⟨rest, hafter, hrest⟩ := Option.bind_eq_some_iff.mp hdash
          exact classifyDash_spec (restOfLine?_trimmed hrest) (isMatrixRow_of_dash hafter hrest) h
        · cases hdash
      · cases h
        exact ⟨ht, trivial⟩

/-- **The value of a line has no blanks around it**, and the look ahead takes
the line for the signal that it is. -/
theorem classify_spec {context : Context} {raw : Text} {line : Line}
    (h : classify context raw = .ok line) :
    trim line.value = line.value ∧ line.kind.Fits (trim raw) := by
  simp only [classify] at h
  split at h
  · cases h
    exact ⟨rfl, trivial⟩
  · split at h
    · cases h
      exact ⟨trim_trim _, trivial⟩
    · split at h
      · cases h
        exact ⟨trim_trim _, trivial⟩
      · split at h
        · cases h
          exact ⟨trim_trim _, trivial⟩
        · split at h
          · rename_i text hquestion
            cases h
            exact ⟨questionText?_trimmed hquestion, trivial⟩
          · exact classifyInside_spec (trim_trim raw) h

/-! ## Lines and the look ahead -/

/-- The lines that end a question: markers and computations. -/
def LineKind.isDivider : LineKind → Bool
  | .page => true
  | .block => true
  | .heading => true
  | .question => true
  | .computation _ => true
  | _ => false

private theorem keyword?_compute {t : Text} (h : "COMPUTE:".toList <+: t) (hfeed : '\n' ∉ t) :
    ∃ value, keyword? t = some ("COMPUTE".toList, value) := by
  obtain ⟨rest, rfl⟩ := h
  have htake : ("COMPUTE:".toList ++ rest).takeWhile isKeywordChar = "COMPUTE".toList := by
    simp [isKeywordChar]
  have hdrop : ("COMPUTE:".toList ++ rest).dropWhile isKeywordChar = ':' :: rest := by
    simp [isKeywordChar]
  -- A line has no line feed in it, so the rest of it is the rest of the text.
  have hrest : ∃ value, restOfLine? rest = some value := by
    refine ⟨_, if_neg ?_⟩
    intro hcontains
    refine hfeed (List.mem_append_right _ ?_)
    have hsub : trimLeft rest ⊆ rest := (List.dropWhile_sublist _).subset
    have hmem : '\n' ∈ if (trimLeft rest).getLast? = some '\n' then (trimLeft rest).dropLast
        else trimLeft rest := by simpa using hcontains
    split at hmem
    · exact hsub ((List.dropLast_sublist _).subset hmem)
    · exact hsub hmem
  obtain ⟨value, hvalue⟩ := hrest
  refine ⟨value, ?_⟩
  rw [keyword?, hdrop, htake]
  simp [hvalue]

/-- **What ends the look ahead ends the question**, number signs apart that
begin no marker. -/
theorem isDivider_of_endsQuestion {context : Context} {raw : Text} {line : Line}
    (h : classify context raw = .ok line) (hfeed : '\n' ∉ trim raw)
    (hsign : hasStart ['#'] (trim raw) = true →
      isPageMarker (trim raw) = true ∨ isSectionMarker (trim raw) = true)
    (hends : endsQuestion (trim raw) = true) : line.kind.isDivider = true := by
  simp only [endsQuestion, Bool.or_eq_true] at hends
  simp only [classify] at h
  split at h
  · rename_i hempty
    rw [List.isEmpty_iff.mp hempty] at hends
    exact absurd hends (by decide)
  · split at h
    · cases h
      rfl
    · split at h
      · cases h
        rfl
      · split at h
        · cases h
          rfl
        · rename_i hpage _ hblock hsection
          split at h
          · cases h
            rfl
          · rename_i hquestion
            -- A question marker, a number sign, a computation, a block.
            rcases hends with ((hends | hends) | hends) | hends
            · simp [isQuestionMarker, hquestion] at hends
            · rcases hsign hends with hmarker | hmarker
              · exact absurd hmarker hpage
              · exact absurd hmarker hsection
            · obtain ⟨value, hkeyword⟩ := keyword?_compute (hasStart_iff.mp hends) hfeed
              have hcompute : classifyKeyword? "COMPUTE".toList value
                  = some ((computationOf value).map fun computed =>
                    ⟨.computation computed, value⟩) := if_pos rfl
              rw [classifyInside, hkeyword, Option.bind_some, hcompute, Option.some_or] at h
              obtain ⟨computed, rfl⟩ := eq_of_map h
              rfl
            · rw [hasStart, hblock] at hends
              cases hends

end Questionnaire.Source
