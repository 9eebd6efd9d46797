import Questionnaire.Proofs.Source.Heard

/-!
# Lines that begin a quoted value

An attribute that may be quoted stands behind its keyword, with a dash before it if it
is one of a row (`Lead`). Whatever the quotes hold, the line is recognised alike
(`classify_line`) and its value is assigned to the same attribute (`exists_assigns`). The
look ahead takes the quotes for open unless they close on the line, and then it hears
one option more behind a dash (`lookAhead_line`).
-/

namespace Questionnaire.Source

open Text

/-! ## Blanks and keywords -/

/-- Blanks within a line. -/
def Blanks : Type := { t : Text // isBlankText t = true ∧ '\n' ∉ t }

theorem Blanks.not_mem (blanks : Blanks) {c : Char} (h : isBlank c = false) : c ∉ blanks.1 :=
  fun hmem => Bool.false_ne_true (h.symm.trans (List.all_eq_true.mp blanks.2.1 c hmem))

theorem Modifier.isKeywordChar_of_mem {modifier : Modifier} {c : Char}
    (h : c ∈ modifier.spelling) : isKeywordChar c = true := by
  have hall : modifier.spelling.all isKeywordChar = true := by cases modifier <;> decide
  exact List.all_eq_true.mp hall c h

/-- The modifier that gives a row the attribute. -/
def Aspect.modifier : Aspect → Modifier
  | .showIf => .showIf
  | .hint => .hint
  | .tooltip => .tooltip

/-- The lines that give the attribute to anything else. -/
def Aspect.lineKind : Aspect → LineKind
  | .showIf => .showIf
  | .hint => .hint
  | .tooltip => .tooltip

/-- What a line with an attribute begins with. -/
structure Lead where
  /-- The blanks before it. -/
  indent : Blanks
  /-- The blanks behind the dash, if there is one. -/
  dash? : Option Blanks
  /-- The attribute that the keyword stands for. -/
  aspect : Aspect
  /-- The blanks behind the colon. -/
  gap : Blanks

/-- What may stand behind quotes to the end of the line. -/
structure IsTail (t : Text) : Prop where
  /-- It is part of one line. -/
  feeds : '\n' ∉ t
  /-- It does not end with a blank. -/
  last : ∀ c, t.getLast? = some c → isBlank c = false

theorem isTail_nil : IsTail [] := ⟨List.not_mem_nil, fun _ h => by cases h⟩

namespace IsTail

variable {t : Text}

theorem feeds_quotes (h : IsTail t) : '\n' ∉ quotes ++ t := by
  rw [List.mem_append]
  exact not_or_intro (by decide) h.feeds

/-- Quotes begin with no blank. -/
theorem trim_quotes (h : IsTail t) : trim (quotes ++ t) = quotes ++ t := by
  refine trim_eq_self (fun c hc => ?_) fun c hc => ?_
  · obtain rfl : '"' = c := Option.some.inj hc
    decide
  · rw [List.getLast?_append] at hc
    cases hlast : t.getLast? with
    | some d =>
        rw [hlast] at hc
        obtain rfl : d = c := Option.some.inj hc
        exact h.last d hlast
    | none =>
        rw [hlast] at hc
        obtain rfl : '"' = c := Option.some.inj hc
        decide

/-- Nor does what begins with no blank before the quotes. -/
theorem trim_behind (h : IsTail t) {c : Char} (hc : isBlank c = false) (rest : Text) :
    trim (c :: rest ++ (quotes ++ t)) = c :: rest ++ (quotes ++ t) := by
  refine trim_eq_self (fun d hd => Option.some.inj hd ▸ hc) fun d hd => ?_
  rw [getLast?_append_of_ne_nil _ (by simp [quotes])] at hd
  exact trim_last (by rw [h.trim_quotes]; exact hd)

end IsTail

/-- The rest of a line behind blanks. -/
theorem restOfLine?_behind (blanks : Blanks) {t : Text} (htrim : trim t = t) (hfeed : '\n' ∉ t) :
    restOfLine? (blanks.1 ++ t) = some t := by
  have hleft : trimLeft (blanks.1 ++ t) = t := by
    rw [trimLeft_append_of_blank blanks.2.1]
    exact trimLeft_eq_self_of_head fun c hc => trim_head (by rw [htrim]; exact hc)
  have hlast : t.getLast? ≠ some '\n' := fun h => hfeed (List.mem_of_getLast? h)
  simp only [restOfLine?, hleft, if_neg hlast, List.contains_iff_mem, if_neg hfeed, htrim]

namespace Lead

/-- The keyword with its colon and the blanks behind it. -/
def keyword (lead : Lead) : Text := lead.aspect.modifier.spelling ++ ':' :: lead.gap.1

/-- The line up to its value, without the blanks before it. -/
def mark (lead : Lead) : Text :=
  (lead.dash?.elim [] fun blanks => '-' :: blanks.1) ++ lead.keyword

/-- The line with quotes and what stands behind them. -/
def line (lead : Lead) (behind : Text) : Text :=
  lead.indent.1 ++ (lead.mark ++ (quotes ++ behind))

/-- What the line is where it is recognised. -/
def kind (lead : Lead) : LineKind :=
  if lead.dash?.isSome then .modifier lead.aspect.modifier else lead.aspect.lineKind

variable (lead : Lead) {t : Text}

theorem head_keyword : ∃ c rest, lead.keyword = c :: rest ∧ c ∈ ['S', 'H', 'T'] := by
  rw [keyword]
  cases lead.aspect <;> exact ⟨_, _, rfl, by decide⟩

/-- No other line begins with these characters. -/
theorem head_mark : ∃ c rest, lead.mark = c :: rest ∧ c ∈ ['-', 'S', 'H', 'T'] := by
  rw [mark]
  cases lead.dash? with
  | none =>
      obtain ⟨c, rest, hhead, hc⟩ := lead.head_keyword
      exact ⟨c, rest, hhead, List.mem_cons_of_mem _ hc⟩
  | some blanks => exact ⟨_, _, rfl, by decide⟩

theorem isBlank_of_mem_heads {c : Char} (hc : c ∈ ['-', 'S', 'H', 'T']) : isBlank c = false := by
  have hall : ['-', 'S', 'H', 'T'].all (!isBlank ·) = true := by decide
  exact (Bool.not_eq_true' _).mp (List.all_eq_true.mp hall c hc)

theorem not_mem_keyword {c : Char} (hkey : isKeywordChar c = false) (hcolon : c ≠ ':')
    (hgap : c ∉ lead.gap.1) : c ∉ lead.keyword := by
  rw [keyword, List.mem_append, List.mem_cons]
  refine not_or_intro (fun hmem => ?_) (not_or_intro hcolon hgap)
  exact Bool.false_ne_true (hkey.symm.trans (Modifier.isKeywordChar_of_mem hmem))

theorem not_mem_mark : '"' ∉ lead.mark := by
  rw [mark, List.mem_append]
  refine not_or_intro ?_
    (lead.not_mem_keyword (by decide) (by decide) (lead.gap.not_mem (by decide)))
  cases lead.dash? with
  | none => exact List.not_mem_nil
  | some blanks =>
      exact List.not_mem_cons_of_ne_of_not_mem (by decide) (blanks.not_mem (by decide))

theorem takeWhile_keyword (behind : Text) :
    (lead.keyword ++ behind).takeWhile isKeywordChar = lead.aspect.modifier.spelling := by
  have hcolon : isKeywordChar ':' = false := by decide
  rw [keyword, List.append_assoc,
    List.takeWhile_append_of_pos fun _ => Modifier.isKeywordChar_of_mem]
  simp [hcolon]

theorem dropWhile_keyword (behind : Text) :
    (lead.keyword ++ behind).dropWhile isKeywordChar = ':' :: (lead.gap.1 ++ behind) := by
  have hcolon : isKeywordChar ':' = false := by decide
  rw [keyword, List.append_assoc,
    List.dropWhile_append_of_pos fun _ => Modifier.isKeywordChar_of_mem]
  simp [hcolon]

/-- The value of the keyword begins with the quotes. -/
theorem keyword?_keyword (ht : IsTail t) : keyword? (lead.keyword ++ (quotes ++ t))
    = some (lead.aspect.modifier.spelling, quotes ++ t) := by
  have hsome : lead.aspect.modifier.spelling.isEmpty = false := by cases lead.aspect <;> rfl
  rw [keyword?, dropWhile_keyword, takeWhile_keyword]
  simp only [hsome, restOfLine?_behind lead.gap ht.trim_quotes ht.feeds_quotes, Option.map_some]
  rfl

theorem trim_keyword (ht : IsTail t) :
    trim (lead.keyword ++ (quotes ++ t)) = lead.keyword ++ (quotes ++ t) := by
  obtain ⟨c, rest, hhead, hc⟩ := lead.head_keyword
  rw [hhead]
  exact ht.trim_behind (isBlank_of_mem_heads (List.mem_cons_of_mem _ hc)) rest

/-- The line without the blanks before it. -/
theorem trim_line (ht : IsTail t) : trim (lead.line t) = lead.mark ++ (quotes ++ t) := by
  obtain ⟨c, rest, hhead, hc⟩ := lead.head_mark
  rw [line, trim, trimLeft_append_of_blank lead.indent.2.1, ← trim, hhead]
  exact ht.trim_behind (isBlank_of_mem_heads hc) rest

/-! ## Recognising the line -/

theorem classifyDash_keyword {context : Context} (hrow : context.hasRow = true) (ht : IsTail t) :
    classifyDash context (lead.keyword ++ (quotes ++ t))
      = .ok ⟨.modifier lead.aspect.modifier, quotes ++ t⟩ := by
  have hkeyword := lead.keyword?_keyword ht
  have hmarker : questionText? (lead.keyword ++ (quotes ++ t)) = none := by
    obtain ⟨c, rest, hhead, hc⟩ := lead.head_keyword
    have hne : c ≠ 'Q' := fun heq => absurd (heq ▸ hc) (by decide)
    simp [hhead, questionText?, hne]
  have hseparator : lead.keyword ++ (quotes ++ t) ≠ "SEPARATOR".toList := by
    intro heq
    have hmem : '"' ∈ lead.keyword ++ (quotes ++ t) := by simp [quotes]
    rw [heq] at hmem
    exact absurd hmem (by decide)
  have hother : ∀ keyword : Text, lead.aspect.modifier.spelling ≠ keyword →
      (keyword? (lead.keyword ++ (quotes ++ t))).filter (fun found => found.1 = keyword)
        = none := by
    intro keyword hne
    rw [hkeyword, Option.filter_some, if_neg]
    exact fun h => hne (of_decide_eq_true h)
  have hmodifier : modifierLine? (lead.keyword ++ (quotes ++ t))
      = some (lead.aspect.modifier, quotes ++ t) := by
    have hfound : Modifier.ofText? lead.aspect.modifier.spelling = some lead.aspect.modifier := by
      cases lead.aspect <;> decide
    rw [modifierLine?, hkeyword, Option.bind_some, hfound]
    rfl
  rw [classifyDash, hmarker]
  simp only [if_neg hseparator, hother "HEADER".toList (by cases lead.aspect <;> decide),
    hother "SUBTOTAL".toList (by cases lead.aspect <;> decide), if_pos hrow, hmodifier]
  cases lead.aspect <;> rfl

/-- **The line is recognised** wherever it may stand, whatever the quotes hold. -/
theorem classify_line {context : Context}
    (hmodifier : lead.kind.isModifier = true → context.hasRow = true)
    (hinside : lead.kind.isInside = true → context ≠ .content) (ht : IsTail t) :
    classify context (lead.line t) = .ok ⟨lead.kind, quotes ++ t⟩ := by
  obtain ⟨c, rest, hhead, hc⟩ := lead.head_mark
  have htrim := lead.trim_line ht
  have hne : ∀ d, d ∉ ['-', 'S', 'H', 'T'] → c ≠ d := fun d hd heq => hd (heq ▸ hc)
  rw [classify_of_head context (htrim.trans (by rw [hhead]; rfl)) (hne _ (by decide))
    (hne _ (by decide)) (hne _ (by decide)), htrim, mark]
  rw [kind] at hmodifier hinside ⊢
  cases hdash : lead.dash? with
  | none =>
      rw [hdash] at hinside
      simp only [Option.elim_none, List.nil_append, classifyInside, lead.keyword?_keyword ht,
        Option.bind_some]
      cases haspect : lead.aspect with
      | showIf | tooltip => rfl
      | hint =>
          rw [haspect] at hinside
          simp only [if_pos (hinside rfl)]
          rfl
  | some blanks =>
      rw [hdash] at hmodifier
      have hrow := hmodifier rfl
      have hcontext : context ≠ .content := by
        rintro rfl
        cases hrow
      have hfeed : '\n' ∉ lead.keyword ++ (quotes ++ t) := by
        rw [List.mem_append]
        exact not_or_intro (lead.not_mem_keyword (by decide) (by decide) lead.gap.2.2)
          ht.feeds_quotes
      have hafter : (after? ['-'] ('-' :: (blanks.1 ++ (lead.keyword ++ (quotes ++ t))))).bind
          restOfLine? = some (lead.keyword ++ (quotes ++ t)) :=
        restOfLine?_behind blanks (lead.trim_keyword ht) hfeed
      -- Nothing that is looked for before the dash begins with one.
      simp only [Option.elim_some, List.cons_append, List.append_assoc, classifyInside,
        keyword?_dash, ofText?_dash, Option.bind_none, if_pos hcontext, hafter]
      exact lead.classifyDash_keyword hrow ht

/-! ## Looking ahead -/

/-- What is heard of the line: an option, if it stands behind a dash. -/
def heard (signals : Signals) : Signals :=
  if lead.dash?.isSome then signals.offer else signals

theorem hasStart_mark {c : Char} (hc : c ∉ ['-', 'S', 'H', 'T']) (start behind : Text) :
    hasStart (c :: start) (lead.mark ++ behind) = false := by
  obtain ⟨d, rest, hhead, hd⟩ := lead.head_mark
  have hne : c ≠ d := fun heq => hc (heq ▸ hd)
  simp [hhead, hasStart, after?, hne]

theorem after?_mark (behind : Text) : after? ['-'] (lead.mark ++ behind)
    = lead.dash?.map fun blanks => blanks.1 ++ (lead.keyword ++ behind) := by
  rw [mark]
  cases lead.dash? with
  | none =>
      obtain ⟨c, rest, hhead, hc⟩ := lead.head_keyword
      have hne : '-' ≠ c := fun heq => absurd (heq ▸ hc) (by decide)
      simp [hhead, after?, hne]
  | some blanks => simp [after?]

theorem trimLeft_keyword (blanks : Blanks) (behind : Text) :
    trimLeft (blanks.1 ++ (lead.keyword ++ behind)) = lead.keyword ++ behind := by
  obtain ⟨c, rest, hhead, hc⟩ := lead.head_keyword
  have hblank : isBlank c = false := isBlank_of_mem_heads (List.mem_cons_of_mem _ hc)
  rw [trimLeft_append_of_blank blanks.2.1, hhead]
  exact trimLeft_eq_self_of_head fun d hd => Option.some.inj hd ▸ hblank

/-- The quotes look open unless they occur again. -/
theorem opensQuotes_mark (t : Text) :
    opensQuotes (lead.mark ++ (quotes ++ t)) = decide (occurrences quotes t = 0) := by
  have hrest : ((after? ['-'] (lead.mark ++ (quotes ++ t))).map trimLeft).getD
      (lead.mark ++ (quotes ++ t)) = lead.keyword ++ (quotes ++ t) := by
    rw [after?_mark, mark]
    cases lead.dash? with
    | none => rfl
    | some blanks => exact lead.trimLeft_keyword blanks _
  have hsome : lead.aspect.modifier.spelling.isEmpty = false := by cases lead.aspect <;> rfl
  have hvalue : hasStart quotes (trimLeft (lead.gap.1 ++ (quotes ++ t))) = true := by
    rw [trimLeft_append_of_blank lead.gap.2.1]
    exact hasStart_iff.mpr (List.prefix_append _ _)
  have hcount : occurrences quotes (lead.mark ++ (quotes ++ t)) = occurrences quotes t + 1 :=
    occurrences_append lead.not_mem_mark
  simp only [opensQuotes, hrest, dropWhile_keyword, takeWhile_keyword, hsome, hvalue, hcount]
  simp

theorem add_mark (signals : Signals) (t : Text) :
    signals.add (lead.mark ++ (quotes ++ t)) = lead.heard signals := by
  have hnone : InputWord.ofText? (lead.mark ++ (quotes ++ t)) = none := by
    cases hfound : InputWord.ofText? (lead.mark ++ (quotes ++ t)) with
    | none => rfl
    | some word =>
        have hspelling : word.spelling = lead.mark ++ (quotes ++ t) := by
          simpa using List.find?_some hfound
        have hmem : '"' ∈ word.spelling := by
          rw [hspelling]
          simp [quotes]
        cases word <;> exact absurd hmem (by decide)
  have hrow : isMatrixRow (lead.mark ++ (quotes ++ t)) = false := by
    rw [isMatrixRow, after?_mark]
    cases lead.dash? with
    | none => rfl
    | some blanks =>
        obtain ⟨c, rest, hhead, hc⟩ := lead.head_keyword
        have hne : c ≠ 'Q' := fun heq => absurd (heq ▸ hc) (by decide)
        have hleft := lead.trimLeft_keyword blanks (quotes ++ t)
        rw [Option.map_some]
        simp only [hleft]
        simp [hhead, hne]
  have hrange : hasStart "RANGE:".toList (lead.mark ++ (quotes ++ t)) = false :=
    lead.hasStart_mark (by decide) _ _
  have hdash : hasStart ['-'] (lead.mark ++ (quotes ++ t)) = lead.dash?.isSome := by
    rw [hasStart, after?_mark, Option.isSome_map]
  rw [Signals.add, hnone, heard]
  simp only [hrow, hrange, hdash, Bool.or_false, Bool.false_eq_true, if_false]
  rfl

/-- **The look ahead at the line**: the quotes are open, unless they close on it. -/
theorem lookAhead_line (ht : IsTail t) (signals : Signals) (rest : List Text) :
    lookAhead .nothing signals (lead.line t :: rest)
      = if occurrences quotes t = 0 then lookAhead .quoted signals rest
        else lookAhead .nothing (lead.heard signals) rest := by
  have hfence : hasStart fence (lead.mark ++ (quotes ++ t)) = false :=
    lead.hasStart_mark (by decide) _ _
  have hquestion : isQuestionMarker (lead.mark ++ (quotes ++ t)) = false := by
    obtain ⟨c, rest, hhead, hc⟩ := lead.head_mark
    have hne : c ≠ 'Q' := fun heq => absurd (heq ▸ hc) (by decide)
    simp [isQuestionMarker, questionText?, hhead, hne]
  have hends : endsQuestion (lead.mark ++ (quotes ++ t)) = false := by
    have hsign : hasStart ['#'] (lead.mark ++ (quotes ++ t)) = false :=
      lead.hasStart_mark (by decide) _ _
    have hcompute : hasStart "COMPUTE:".toList (lead.mark ++ (quotes ++ t)) = false :=
      lead.hasStart_mark (by decide) _ _
    have hblock : hasStart "BLOCK:".toList (lead.mark ++ (quotes ++ t)) = false :=
      lead.hasStart_mark (by decide) _ _
    rw [endsQuestion, hquestion, hsign, hcompute, hblock]
    rfl
  simp only [lookAhead, lead.trim_line ht, hfence, hends, opensQuotes_mark, add_mark]
  simp

end Lead

end Questionnaire.Source
