import Questionnaire.Proofs.Source.Lookahead
import Questionnaire.Proofs.Source.Taking
import Questionnaire.Proofs.Text.Alone

/-!
# Lines without quotes

The value of a line is a part of it (`isInfix_of_classify`). So a line without
quotes opens none, and over such lines the reading and a look ahead agree on
fences: the one is behind a fence if the other is, unless it has ended
(`readAll_unquoted`, `lookMode_unquoted`).
-/

namespace Questionnaire.Source

open Text

/-! ## The value of a line -/

theorem isInfix_of_restOfLine? {t value : Text} (h : restOfLine? t = some value) : value <:+: t :=
  have hstart : value <+: trimLeft t := restOfLine?_prefix h
  hstart.isInfix.trans (List.dropWhile_suffix _).isInfix

theorem isSuffix_of_after? {start t rest : Text} (h : after? start t = some rest) : rest <:+ t :=
  ⟨start, (after?_eq_some.mp h).symm⟩

theorem isInfix_of_questionText? {t value : Text} (h : questionText? t = some value) :
    value <:+: t := by
  unfold questionText? at h
  split at h
  · rename_i inner
    split at h
    · rename_i rest hcolon
      have hrest : rest <:+ 'Q' :: inner := by
        have hdrop : ':' :: rest <:+ inner := hcolon ▸ List.dropWhile_suffix _
        exact ((List.suffix_cons _ _).trans hdrop).trans (List.suffix_cons _ _)
      exact (isInfix_of_restOfLine? h).trans hrest.isInfix
    · cases h
  · cases h

theorem isInfix_of_keyword? {t : Text} {found : Text × Text} (h : keyword? t = some found) :
    found.2 <:+: t := by
  unfold keyword? at h
  split at h
  · rename_i rest hcolon
    split at h
    · cases h
    · obtain ⟨value, hvalue, rfl⟩ := Option.map_eq_some_iff.mp h
      have hdrop : ':' :: rest <:+ t := hcolon ▸ List.dropWhile_suffix _
      exact (isInfix_of_restOfLine? hvalue).trans ((List.suffix_cons _ _).trans hdrop).isInfix
  · cases h

theorem isInfix_of_modifierLine? {t : Text} {found : Modifier × Text}
    (h : modifierLine? t = some found) : found.2 <:+: t := by
  rw [modifierLine?] at h
  split at h
  · rename_i inner hfound
    cases h
    obtain ⟨keyword, hkeyword, hmap⟩ := Option.bind_eq_some_iff.mp hfound
    obtain ⟨modifier, -, rfl⟩ := Option.map_eq_some_iff.mp hmap
    exact isInfix_of_keyword? hkeyword
  · obtain ⟨modifier, -, rfl⟩ := Option.map_eq_some_iff.mp h
    exact List.nil_infix

theorem value_of_map {α : Type} {result : Except Fault α} {kind : α → LineKind} {value : Text}
    {line : Line} (h : result.map (fun x => ⟨kind x, value⟩) = .ok line) : line.value = value := by
  obtain ⟨x, -, rfl⟩ := Except.map_eq_ok h
  rfl

theorem value_of_classifyKeyword? {keyword value : Text} {line : Line}
    (h : classifyKeyword? keyword value = some (.ok line)) : line.value = value := by
  unfold classifyKeyword? at h
  repeat' split at h
  · exact value_of_map (Option.some.inj h)
  · exact value_of_map (Option.some.inj h)
  all_goals cases h
  all_goals rfl

theorem value_of_classifyQuestionKeyword? {keyword value : Text} {line : Line}
    (h : classifyQuestionKeyword? keyword value = some (.ok line)) : line.value = value := by
  unfold classifyQuestionKeyword? at h
  repeat' split at h
  case isFalse.isFalse.isFalse.isFalse.isFalse.isFalse.isTrue =>
    exact value_of_map (Option.some.inj h)
  all_goals cases h
  all_goals rfl

theorem isInfix_of_classifyDash {context : Context} {t : Text} {line : Line}
    (h : classifyDash context t = .ok line) : line.value <:+: t := by
  unfold classifyDash at h
  split at h
  · rename_i hquestion
    cases h
    exact isInfix_of_questionText? hquestion
  · split at h
    · cases h
      exact List.nil_infix
    · split at h
      · rename_i hheader
        cases h
        exact isInfix_of_keyword? (Option.filter_eq_some_iff.mp hheader).1
      · split at h
        · rename_i hsubtotal
          cases h
          exact isInfix_of_keyword? (Option.filter_eq_some_iff.mp hsubtotal).1
        · split at h
          · rename_i value hcolumn
            rw [value_of_map h]
            split at hcolumn
            · exact isInfix_of_modifierLine? hcolumn
            · cases hcolumn
          · rename_i hmodifier
            cases h
            split at hmodifier
            · exact isInfix_of_modifierLine? hmodifier
            · cases hmodifier
          · cases h
            exact List.infix_rfl

theorem isInfix_of_classifyInside {context : Context} {t : Text} {line : Line}
    (h : classifyInside context t = .ok line) : line.value <:+: t := by
  simp only [classifyInside] at h
  split at h
  · rename_i hfound
    cases h
    obtain ⟨found, hkeyword, hor⟩ := Option.bind_eq_some_iff.mp hfound
    have hvalue : line.value = found.2 := by
      rcases Option.or_eq_some_iff.mp hor with hanywhere | ⟨-, hquestion⟩
      · exact value_of_classifyKeyword? hanywhere
      · split at hquestion
        · exact value_of_classifyQuestionKeyword? hquestion
        · cases hquestion
    exact hvalue ▸ isInfix_of_keyword? hkeyword
  · split at h
    · cases h
      exact List.infix_rfl
    · split at h
      · rename_i content hdash
        split at hdash
        · obtain ⟨rest, hafter, hrest⟩ := Option.bind_eq_some_iff.mp hdash
          exact (isInfix_of_classifyDash h).trans
            ((isInfix_of_restOfLine? hrest).trans (isSuffix_of_after? hafter).isInfix)
        · cases hdash
      · cases h
        exact List.infix_rfl

/-- **The value of a line is a part of it.** -/
theorem isInfix_of_classify {context : Context} {raw : Text} {line : Line}
    (h : classify context raw = .ok line) : line.value <:+: raw := by
  refine List.IsInfix.trans ?_ (isInfix_trim raw)
  simp only [classify] at h
  split at h
  · cases h
    exact List.nil_infix
  · split at h
    · cases h
      exact (isInfix_trim _).trans (List.drop_suffix _ _).isInfix
    · split at h
      · rename_i hblock
        cases h
        exact (isInfix_trim _).trans (isSuffix_of_after? hblock).isInfix
      · split at h
        · cases h
          exact (isInfix_trim _).trans (List.drop_suffix _ _).isInfix
        · split at h
          · rename_i hquestion
            cases h
            exact isInfix_of_questionText? hquestion
          · exact isInfix_of_classifyInside h

/-! ## Reading without quotes -/

namespace State

variable {st : State}

/-- A value without quotes opens none. -/
theorem capture?_assign {value : Text} (h : ¬ quotes <+: value) (holder : Holder)
    (aspect : Aspect) (line : Nat) (st : State) :
    (st.assign holder aspect line value).capture? = st.capture? := by
  have hnone : after? quotes value = none :=
    Option.eq_none_iff_forall_ne_some.mpr fun rest hrest =>
      h ⟨rest, (after?_eq_some.mp hrest).symm⟩
  rw [assign, hnone]
  exact capture?_write holder aspect value st

theorem capture?_readModifier {value : Text} (h : ¬ quotes <+: value) (change : Modifier)
    (line : Nat) (question : Question) (st : State) :
    (st.readModifier change line value question).capture? = st.capture? := by
  rw [readModifier]
  split
  · cases change with
    | showIf | hint | tooltip => exact capture?_assign h _ _ _ st
    | _ => rfl
  · split
    · rfl
    · cases change with
      | showIf | hint | tooltip => exact capture?_assign h _ _ _ st
      | text => rfl
      | _ =>
          simp only [modifyOption]
          split <;> rfl

/-- Nothing but the value of a line can open quotes inside a question. -/
theorem capture?_readInside {line : Line} (h : ¬ quotes <+: line.value) (number : Nat)
    (question : Question) (st : State) :
    (st.readInside number line question).capture? = st.capture? := by
  rw [readInside]
  split
  case h_1 => exact capture?_assign h _ _ _ st
  case h_12 => exact capture?_readModifier h _ _ _ st
  case h_3 | h_4 | h_5 | h_6 | h_7 | h_8 | h_9 | h_10 | h_11 | h_13 | h_14 | h_15 =>
    simp only [readInput, readUnit, readTotal, readSubtotal, readRange, readOption, readMatrixRow,
      readColumn, readHeader, readSeparator]
    repeat' split
    all_goals rfl
  all_goals rfl

theorem capture?_settle {st next : State} (h : next.content = st.quiet.content.settle) :
    next.capture? = st.capture? :=
  (congrArg Content.capture? h).trans (Content.capture?_closeQuestion _)

/-- A line whose value is without quotes opens none. -/
theorem capture?_readLine {line : Line} (h : ¬ quotes <+: line.value) (number : Nat) (raw : Text)
    (after : List Text) (st : State) :
    (st.readLine number line raw after).capture? = st.capture? := by
  cases hkind : line.kind with
  | text =>
      simp only [readLine, hkind, readText]
      split
      · rfl
      · exact capture?_closeQuestion st
  | blank =>
      simp only [readLine, hkind, readBlank]
      split <;> rfl
  | page =>
      simp only [readLine, hkind]
      exact (capture?_settle (content_closePage st.quiet) :)
  | block =>
      simp only [readLine, hkind]
      exact (capture?_settle (content_closeBlock st.quiet) :)
  | heading =>
      simp only [readLine, hkind]
      exact (capture?_settle (content_closeSection st.quiet) :)
  | question =>
      simp only [readLine, hkind]
      exact (capture?_settle (content_settle st.quiet) :)
  | navigation _ level =>
      simp only [readLine, hkind, readLevel]
      split <;> rfl
  | computation computed =>
      simp only [readLine, hkind, readComputation]
      split <;> exact (capture?_settle (content_settle st.quiet) :)
  | showIf =>
      simp only [readLine, hkind, readShowIf]
      exact capture?_assign h _ _ _ st.quiet
  | tooltip =>
      simp only [readLine, hkind, readTooltip]
      split
      · exact capture?_assign h _ _ _ st.quiet
      · split
        · exact (capture?_assign h _ _ _ _).trans (capture?_closeText st.quiet)
        · exact capture?_assign h _ _ _ st.quiet.ensurePage
  | _ =>
      simp only [readLine, hkind]
      split
      · rfl
      · exact capture?_readInside h number _ st.quiet

end State

/-! ## Fences -/

/-- Whether a fence is open behind a line. -/
def turnsFence (isFenced : Bool) (raw : Text) : Bool := isFenced != hasStart fence (trim raw)

namespace State

variable {st st' : State} {number : Nat} {raw : Text} {after : List Text}

/-- Nothing but the line of a fence turns the fence. -/
theorem isFenced_read (hcapture : st.capture? = none)
    (hread : st.read number raw after = .ok st') : st'.isFenced = turnsFence st.isFenced raw := by
  have hline : ∀ {line : Line}, st.lineOf? raw = some line →
      st.isFenced = turnsFence st.isFenced raw := by
    intro line hline
    obtain ⟨-, hfence, hfenced, -⟩ := lineOf?_eq_some.mp hline
    rw [turnsFence, hfence, hfenced]
    rfl
  have htakes := read_takes hread
  change st'.content.isFenced = _
  generalize st'.content = next at htakes
  cases htakes with
  | quoted hsome | unquoted hsome => cases hcapture.symm.trans hsome
  | continued _ _ hfence =>
      rw [turnsFence, hfence]
      exact (bne_self_eq_false _).symm
  | said _ => rfl
  | divided hfound _ _ => exact (Content.isFenced_closeQuestion _).trans (hline hfound)
  | asked hfound _ => exact (Content.isFenced_closeQuestion _).trans (hline hfound)
  | spaced hfound _ _ | inside hfound _ _ _ _ => exact hline hfound
  | noted hfound _ _ _ _ hnext _ _ =>
      rcases hnext with rfl | rfl
      · exact hline hfound
      · exact (Content.isFenced_closeQuestion _).trans (hline hfound)

/-- A line without quotes opens none. -/
theorem capture?_read (hcapture : st.capture? = none) (hraw : ¬ quotes <:+: raw)
    (hread : st.read number raw after = .ok st') : st'.capture? = none := by
  have htext : ∀ other : State, other.capture? = none → (other.readText raw).capture? = none := by
    intro other hother
    rw [readText]
    split
    · exact hother
    · exact (capture?_closeQuestion other).trans hother
  by_cases hfence : hasStart fence (trim raw) = true
  · rw [read_of_fence hcapture hfence] at hread
    exact Except.ok.inj hread ▸ htext _ hcapture
  · rw [Bool.not_eq_true] at hfence
    cases hfenced : st.isFenced with
    | true =>
        rw [read_of_isFenced hcapture hfence hfenced] at hread
        exact Except.ok.inj hread ▸ htext _ hcapture
    | false =>
        rw [read_of_classify hcapture hfence hfenced] at hread
        obtain ⟨line, hclassify, rfl⟩ := Except.map_eq_ok hread
        have hvalue : ¬ quotes <+: line.value := fun h =>
          hraw (h.isInfix.trans (isInfix_of_classify hclassify))
        exact (capture?_readLine hvalue number raw after st).trans hcapture

/-- **Over lines without quotes** the fence is turned line by line, and no quotes are
opened. -/
theorem readAll_unquoted {lines : List Text} (hlines : ∀ line ∈ lines, ¬ quotes <:+: line)
    (hcapture : st.capture? = none) {done : Nat} (hread : (readAll done st lines).2 = none) :
    (readAll done st lines).1.capture? = none ∧
      (readAll done st lines).1.isFenced = lines.foldl turnsFence st.isFenced := by
  induction lines generalizing done st with
  | nil => exact ⟨hcapture, rfl⟩
  | cons raw rest ih =>
      rw [readAll] at hread ⊢
      cases hnext : st.read (done + 1) raw rest with
      | error fault => simp [hnext] at hread
      | ok next =>
          simp only [hnext] at hread ⊢
          obtain ⟨hquiet, hfenced⟩ := ih (fun line h => hlines line (List.mem_cons_of_mem _ h))
            (capture?_read hcapture (hlines raw List.mem_cons_self) hnext) hread
          exact ⟨hquiet, by rw [hfenced, isFenced_read hcapture hnext, List.foldl_cons]⟩

end State

/-! ## Looking ahead without quotes -/

/-- The mode outside quotes. -/
def Skipping.ofFence (isFenced : Bool) : Skipping := if isFenced then .fenced else .nothing

theorem opensQuotes_of_unquoted {t : Text} (h : ¬ quotes <:+: t) : opensQuotes t = false := by
  have hrest : ((after? ['-'] t).map trimLeft).getD t <:+ t := by
    cases hdash : after? ['-'] t with
    | none => exact List.suffix_rfl
    | some rest => exact (List.dropWhile_suffix _).trans (isSuffix_of_after? hdash)
  rw [Bool.eq_false_iff]
  intro hopens
  refine h ?_
  rw [opensQuotes] at hopens
  split at hopens
  · rename_i value hcolon
    simp only [Bool.and_eq_true] at hopens
    have hvalue : trimLeft value <:+ t :=
      (((List.dropWhile_suffix _).trans (List.suffix_cons _ _)).trans
        (hcolon ▸ List.dropWhile_suffix _)).trans hrest
    exact (hasStart_iff.mp hopens.1.2).isInfix.trans hvalue.isInfix
  · cases hopens

theorem lookStep_unquoted {raw : Text} (h : ¬ quotes <:+: raw) (isFenced : Bool) :
    lookStep (.ofFence isFenced) raw = none ∨
      lookStep (.ofFence isFenced) raw = some (.ofFence (turnsFence isFenced raw)) := by
  have hopens : opensQuotes (trim raw) = false :=
    opensQuotes_of_unquoted fun hquotes => h (hquotes.trans (isInfix_trim raw))
  cases isFenced with
  | true =>
      refine .inr ?_
      cases hfence : hasStart fence (trim raw) <;>
        simp [lookStep, Skipping.ofFence, turnsFence, hfence]
  | false =>
      cases hfence : hasStart fence (trim raw) with
      | true => exact .inr (by simp [lookStep, Skipping.ofFence, turnsFence, hfence])
      | false =>
          cases hends : endsQuestion (trim raw) with
          | true => exact .inl (by simp [lookStep, Skipping.ofFence, hfence, hends])
          | false =>
              exact .inr (by simp [lookStep, Skipping.ofFence, turnsFence, hfence, hends, hopens])

/-- **A look ahead over lines without quotes** ends, or is behind a fence if the
reading is. -/
theorem lookMode_unquoted {lines : List Text} (h : ∀ line ∈ lines, ¬ quotes <:+: line)
    (isFenced : Bool) : lookMode (.ofFence isFenced) lines = none ∨
      lookMode (.ofFence isFenced) lines = some (.ofFence (lines.foldl turnsFence isFenced)) := by
  induction lines generalizing isFenced with
  | nil => exact .inr rfl
  | cons raw rest ih =>
      rw [lookMode, List.foldlM_cons, List.foldl_cons]
      rcases lookStep_unquoted (h raw List.mem_cons_self) isFenced with hstep | hstep
      · exact .inl (by rw [hstep]; rfl)
      · rw [hstep]
        exact ih (fun line hline => h line (List.mem_cons_of_mem _ hline)) _

end Questionnaire.Source
