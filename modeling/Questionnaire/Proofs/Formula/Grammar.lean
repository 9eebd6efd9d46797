import Questionnaire.Proofs.Formula.Precedence
import Questionnaire.Proofs.Text.Words

/-!
# What tokens write a formula

`Writes` is the grammar of formulas without precedence: what the reader takes in as
a formula are tokens that write it (`ofText_writes`). A sign among the tokens cuts
the text in two, with the tokens before it and those behind it on its two sides
(`scan_eq_append`). Nothing that has a foreign sign in it is a formula
(`IsForeign.not_mem_of_ofText`).
-/

namespace Questionnaire.Formula

open Text

/-- **What tokens write a formula**, whatever binds tighter. -/
inductive Writes : List Token → Formula → Prop where
  | number (numeral : Text) : Writes [.number numeral] (.number numeral)
  | name (n : Text) : Writes [.name n] (.name n)
  | negated {tokens : List Token} {operand : Formula} (h : Writes tokens operand) :
      Writes (.symbol '-' :: tokens) (.negated operand)
  | plus {tokens : List Token} {operand : Formula} (h : Writes tokens operand) :
      Writes (.symbol '+' :: tokens) (.plus operand)
  | enclosed {tokens : List Token} {formula : Formula} (h : Writes tokens formula) :
      Writes (.symbol '(' :: tokens ++ [.symbol ')']) formula
  | binary (operation : Operation) {tokens tokens' : List Token} {left right : Formula}
      (h : Writes tokens left) (h' : Writes tokens' right) :
      Writes (tokens ++ .symbol operation.sign :: tokens') (.binary operation left right)

/-- Tokens that have a tree write it. -/
theorem Parses.writes {category : Category} {tokens : List Token} {formula : Formula}
    (h : Parses category tokens formula) : Writes tokens formula := by
  induction h with
  | expression _ ih | term _ ih | unary _ ih => exact ih
  | sum _ _ _ ih ih' | product _ _ _ ih ih' => exact .binary _ ih ih'
  | negated _ ih => exact .negated ih
  | plus _ ih => exact .plus ih
  | number numeral => exact .number numeral
  | name n => exact .name n
  | enclosed _ ih => exact .enclosed ih

/-- **A text that is read as a formula writes it.** -/
theorem ofText_writes {t : Text} {formula : Formula} (h : ofText t = .ok formula) :
    Writes (tokens t) formula :=
  (parses_of_ofText h).writes

/-! ## Signs in a text -/

/-- A numeral or a point under way. -/
def Pending.isNumeral : Pending → Bool
  | .whole _ => true
  | .fraction _ => true
  | .point => true
  | _ => false

/-- What a character begins. -/
inductive Pending.Starts (c : Char) : Prop where
  /-- It is passed over. -/
  | blank (hblank : isBlank c = true) (h : start c = ([], .nothing))
  /-- It begins a numeral. -/
  | numeral (pending : Pending) (hpending : pending.isNumeral = true) (h : start c = ([], pending))
  /-- It begins a name. -/
  | name (hword : isWord c = true) (h : start c = ([], .name [c]))
  /-- It is a sign. -/
  | sign (hbreak : isBreak c = true) (h : start c = ([.symbol c], .nothing))

theorem Pending.starts (c : Char) : Starts c := by
  by_cases hblank : isBlank c = true
  · exact .blank hblank (by rw [start, if_pos hblank])
  · by_cases hdecimal : isDecimal c = true
    · exact .numeral (.whole [c]) rfl (by rw [start, if_neg hblank, if_pos hdecimal])
    · by_cases hword : isWord c = true
      · exact .name hword (by rw [start, if_neg hblank, if_neg hdecimal, if_pos hword])
      · by_cases hpoint : c = '.'
        · refine .numeral .point rfl ?_
          rw [start, if_neg hblank, if_neg hdecimal, if_neg hword, if_pos hpoint]
        · refine .sign (by simp [isBreak, hword, hpoint]) ?_
          rw [start, if_neg hblank, if_neg hdecimal, if_neg hword, if_neg hpoint]

/-- No token under way ends as a sign, a point apart. -/
private theorem Pending.not_symbol_of_mem_close {pending : Pending} {c : Char} (hc : c ≠ '.') :
    ∀ token ∈ pending.close, token ≠ .symbol c := by
  cases pending <;> simp [close, Ne.symm hc]

/-- A sign stands for itself in the text, between the tokens before it and those
behind it. -/
theorem scan_eq_append {pending : Pending} {t : Text} {before behind : List Token} {c : Char}
    (hc : c ≠ '.') (h : scan pending t = before ++ .symbol c :: behind) :
    ∃ p q, t = p ++ c :: q ∧ scan pending p = before ∧ scan .nothing q = behind ∧
      isBreak c = true := by
  induction t generalizing pending before with
  | nil =>
      rw [scan] at h
      have hmem : Token.symbol c ∈ pending.close := by simp [h]
      exact absurd rfl (Pending.not_symbol_of_mem_close hc _ hmem)
  | cons d t ih =>
      rw [scan] at h
      split at h
      · rename_i longer hlonger
        obtain ⟨p, q, rfl, hp, hq, hbreak⟩ := ih h
        exact ⟨d :: p, q, rfl, by rw [scan, hlonger]; exact hp, hq, hbreak⟩
      · rename_i hnone
        -- The token that ends here is not the sign, so the sign is behind it.
        obtain ⟨before', rfl, hrest⟩ : ∃ before', before = pending.close ++ before' ∧
            (Pending.start d).1 ++ scan (Pending.start d).2 t = before' ++ .symbol c :: behind := by
          rw [List.append_assoc] at h
          rcases List.append_eq_append_iff.mp h with
            ⟨before', hbefore, hrest⟩ | ⟨more, hmore, hrest⟩
          · exact ⟨before', hbefore, hrest⟩
          · cases more with
            | nil => exact ⟨[], by simpa using hmore.symm, by simpa using hrest.symm⟩
            | cons token more =>
                simp only [List.cons_append, List.cons.injEq] at hrest
                have hmem : token ∈ pending.close := by simp [hmore]
                exact absurd hrest.1.symm (Pending.not_symbol_of_mem_close hc token hmem)
        -- A character that gives no token by itself leaves the sign to what follows.
        have hlater : (Pending.start d).1 = [] → ∃ p q, d :: t = p ++ c :: q ∧
            scan pending p = pending.close ++ before' ∧ scan .nothing q = behind ∧
              isBreak c = true := by
          intro hempty
          rw [hempty, List.nil_append] at hrest
          obtain ⟨p, q, rfl, hp, hq, hbreak⟩ := ih hrest
          exact ⟨d :: p, q, rfl, by simp [scan, hnone, hempty, hp], hq, hbreak⟩
        cases Pending.starts d with
        | blank _ hstart => exact hlater (by rw [hstart])
        | numeral _ _ hstart => exact hlater (by rw [hstart])
        | name _ hstart => exact hlater (by rw [hstart])
        | sign hbreak hstart =>
            rw [hstart] at hrest
            cases before' with
            | nil =>
                simp only [List.nil_append, List.cons_append, List.cons.injEq,
                  Token.symbol.injEq] at hrest
                obtain ⟨rfl, hbehind⟩ := hrest
                exact ⟨[], t, rfl, by simp [scan], hbehind, hbreak⟩
            | cons token before' =>
                simp only [List.cons_append, List.nil_append, List.cons.injEq] at hrest
                obtain ⟨rfl, hrest⟩ := hrest
                obtain ⟨p, q, rfl, hp, hq, hbreak'⟩ := ih hrest
                exact ⟨d :: p, q, rfl, by simp [scan, hnone, hstart, hp], hq, hbreak'⟩

/-! ## Characters that no formula has -/

/-- A sign that no formula is written with. -/
structure IsForeign (c : Char) : Prop where
  solid : isBlank c = false
  digit : isDecimal c = false
  word : isWord c = false
  other : c ≠ '.' ∧ c ∉ "+-*/()".toList

/-- A foreign sign in a text is one of its tokens. -/
private theorem IsForeign.symbol_mem_scan {c : Char} (hc : IsForeign c) {pending : Pending}
    {t : Text} (h : c ∈ t) : .symbol c ∈ scan pending t := by
  induction t generalizing pending with
  | nil => cases h
  | cons d t ih =>
      rw [scan]
      rcases List.mem_cons.mp h with rfl | h
      · have hextend : pending.extend? c = none := by
          cases pending <;> simp [Pending.extend?, hc.digit, hc.word, hc.other.1]
        have hstart : Pending.start c = ([.symbol c], .nothing) := by
          simp [Pending.start, hc.solid, hc.digit, hc.word, hc.other.1]
        rw [hextend, hstart]
        simp
      · split
        · exact ih h
        · exact List.mem_append_right _ (ih h)

/-- **A text with a foreign sign in it is no formula.** -/
theorem IsForeign.not_mem_of_ofText {c : Char} (hc : IsForeign c) {t : Text} {formula : Formula}
    (h : ofText t = .ok formula) : c ∉ t := by
  have hgen : ∀ {used : List Token} {formula : Formula}, Writes used formula →
      .symbol c ∉ used := by
    intro used formula hwrites
    have hother := hc.other.2
    induction hwrites with
    | number numeral => simp
    | name n => simp
    | negated _ ih =>
        refine List.not_mem_cons_of_ne_of_not_mem ?_ ih
        rintro ⟨⟩
        exact hother (by decide)
    | plus _ ih =>
        refine List.not_mem_cons_of_ne_of_not_mem ?_ ih
        rintro ⟨⟩
        exact hother (by decide)
    | enclosed _ ih =>
        rw [List.mem_append, List.mem_cons, List.mem_singleton]
        rintro ((⟨⟨⟩⟩ | h) | ⟨⟨⟩⟩)
        · exact hother (by decide)
        · exact ih h
        · exact hother (by decide)
    | binary operation _ _ ih ih' =>
        rw [List.mem_append, List.mem_cons]
        rintro (h | ⟨⟨⟩⟩ | h)
        · exact ih h
        · exact hother (by cases operation <;> decide)
        · exact ih' h
  exact fun hmem => hgen (ofText_writes h) (hc.symbol_mem_scan hmem)

end Questionnaire.Formula
