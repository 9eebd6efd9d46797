import Questionnaire.Proofs.Decimal.Numeral
import Questionnaire.Proofs.Formula.Operands

/-!
# How tokens are spelled

The tokens of a text spell it, blanks apart (`spelling_tokens`), and each of them has
the form of its kind (`isLexeme_of_mem_tokens`). Conversely tokens of which no two
operands stand side by side are the tokens of every text that spells them, whatever
blanks it has between them (`tokens_of_spaced`).
-/

namespace Questionnaire.Formula

open Text Decimal

/-! ## The tokens of a text spell it -/

/-- The form that a token has by its kind. -/
def Token.IsLexeme : Token → Prop
  | .number numeral => isPlainDecimal numeral = true
  | .name n => isName n = true
  | .symbol c => isBlank c = false ∧ isDecimal c = false ∧ isWord c = false

/-- The characters of the token under way. -/
def Pending.held : Pending → Text
  | .nothing => []
  | .name reversed => reversed.reverse
  | .whole reversed => reversed.reverse
  | .fraction reversed => reversed.reverse
  | .point => ['.']

/-- The token under way has the form of its kind, as far as it goes. -/
def Pending.IsBegun : Pending → Prop
  | .nothing => True
  | .name reversed => isName reversed.reverse = true
  | .whole reversed => reversed ≠ [] ∧ reversed.all isDecimal = true
  | .fraction reversed => ∃ whole fraction, IsFraction reversed.reverse whole fraction
  | .point => True

theorem Pending.spelling_close (pending : Pending) :
    pending.close.flatMap Token.spelling = pending.held := by
  cases pending <;> simp [close, held, Token.spelling]

theorem Pending.isLexeme_close {pending : Pending} (h : pending.IsBegun) :
    ∀ token ∈ pending.close, token.IsLexeme := by
  intro token htoken
  cases pending with
  | nothing => cases htoken
  | name reversed =>
      obtain rfl := List.mem_singleton.mp htoken
      exact h
  | whole reversed =>
      obtain rfl := List.mem_singleton.mp htoken
      exact isPlainDecimal_iff.mpr (.inl ⟨by simpa using h.1, by simpa using h.2⟩)
  | fraction reversed =>
      obtain rfl := List.mem_singleton.mp htoken
      exact isPlainDecimal_iff.mpr (.inr h)
  | point =>
      obtain rfl := List.mem_singleton.mp htoken
      exact ⟨by decide, by decide, by decide⟩

theorem Pending.spelling_start (c : Char) :
    (start c).1.flatMap Token.spelling ++ (start c).2.held
      = if isBlank c then [] else [c] := by
  simp only [start]
  split_ifs <;> simp_all [held, Token.spelling]

theorem Pending.isLexeme_start (c : Char) :
    (∀ token ∈ (start c).1, token.IsLexeme) ∧ (start c).2.IsBegun := by
  simp only [start]
  split_ifs with hblank hdecimal hword hpoint
  · exact ⟨by simp, trivial⟩
  · exact ⟨by simp, by simp, by simpa using hdecimal⟩
  · exact ⟨by simp, by simp_all [IsBegun, isName, isBareWord, startsName]⟩
  · exact ⟨by simp, trivial⟩
  · exact ⟨by simp_all [Token.IsLexeme], trivial⟩

private theorem isName_concat {n : Text} (h : isName n = true) {c : Char} (hc : isWord c = true) :
    isName (n ++ [c]) = true := by
  cases n with
  | nil => cases h
  | cons d n =>
      simp only [isName, isBareWord, List.cons_append, List.isEmpty_cons, List.all_cons,
        List.all_append, List.head?_cons, Option.map_some, Option.getD_some,
        Bool.and_eq_true] at h ⊢
      simp_all

/-- What goes on with the token under way belongs to it. -/
theorem Pending.of_extend? {pending longer : Pending} {c : Char}
    (h : pending.extend? c = some longer) :
    longer.held = pending.held ++ [c] ∧ isBlank c = false ∧
      (pending.IsBegun → longer.IsBegun) := by
  cases pending with
  | nothing => cases h
  | name reversed =>
      simp only [extend?] at h
      split_ifs at h with hword
      cases h
      refine ⟨by simp [held], isBlank_of_isWord hword, fun hbegun => ?_⟩
      simpa [IsBegun] using isName_concat hbegun hword
  | whole reversed =>
      simp only [extend?] at h
      split_ifs at h with hdecimal hpoint
      · cases h
        exact ⟨by simp [held], isBlank_of_isDecimal hdecimal, fun hbegun =>
          ⟨by simp, by simp [hdecimal, hbegun.2]⟩⟩
      · cases h
        subst hpoint
        exact ⟨by simp [held], by decide, fun hbegun => ⟨reversed.reverse, [], by simp,
          by simpa using hbegun.2, rfl, by simpa using hbegun.1⟩⟩
  | fraction reversed =>
      simp only [extend?] at h
      split_ifs at h with hdecimal
      cases h
      refine ⟨by simp [held], isBlank_of_isDecimal hdecimal, ?_⟩
      rintro ⟨whole, fraction, hsplit, hwhole, hfraction, -⟩
      exact ⟨whole, fraction ++ [c], by simp [hsplit], hwhole, by simp [hfraction, hdecimal],
        by simp⟩
  | point =>
      simp only [extend?] at h
      split_ifs at h with hdecimal
      cases h
      exact ⟨by simp [held], isBlank_of_isDecimal hdecimal, fun _ =>
        ⟨[], [c], by simp, rfl, by simp [hdecimal], by simp⟩⟩

theorem spelling_scan (pending : Pending) (t : Text) :
    (scan pending t).flatMap Token.spelling = pending.held ++ t.filter (fun c => !isBlank c) := by
  induction t generalizing pending with
  | nil => simp [scan, pending.spelling_close]
  | cons c t ih =>
      rw [scan]
      split
      · rename_i longer hlonger
        obtain ⟨hheld, hblank, -⟩ := Pending.of_extend? hlonger
        simp [ih, hheld, hblank]
      · have hstart := Pending.spelling_start c
        rw [List.flatMap_append, List.flatMap_append, ih, pending.spelling_close,
          List.append_assoc, ← List.append_assoc _ _ (List.filter _ t), hstart]
        by_cases hblank : isBlank c = true <;> simp [hblank]

/-- **Nothing of a text is skipped**: its tokens spell it, blanks apart. -/
theorem spelling_tokens (t : Text) :
    (tokens t).flatMap Token.spelling = t.filter fun c => !isBlank c :=
  spelling_scan .nothing t

theorem isLexeme_of_mem_scan {pending : Pending} (h : pending.IsBegun) (t : Text) :
    ∀ token ∈ scan pending t, token.IsLexeme := by
  induction t generalizing pending with
  | nil => exact Pending.isLexeme_close h
  | cons c t ih =>
      rw [scan]
      split
      · rename_i longer hlonger
        exact ih ((Pending.of_extend? hlonger).2.2 h)
      · obtain ⟨hstart, hbegun⟩ := Pending.isLexeme_start c
        simp only [List.mem_append]
        rintro token ((htoken | htoken) | htoken)
        · exact Pending.isLexeme_close h token htoken
        · exact hstart token htoken
        · exact ih hbegun token htoken

/-- Every token of a text has the form of its kind. -/
theorem isLexeme_of_mem_tokens (t : Text) : ∀ token ∈ tokens t, token.IsLexeme :=
  isLexeme_of_mem_scan (show Pending.nothing.IsBegun from trivial) t

/-! ## Every text that spells tokens has them -/

/-- A text that spells tokens in order, with any blanks around them. -/
inductive Spaced : List Token → Text → Prop where
  | nil {b : Text} (hb : isBlankText b = true) : Spaced [] b
  | cons {b : Text} {token : Token} {more : List Token} {t : Text} (hb : isBlankText b = true)
      (h : Spaced more t) : Spaced (token :: more) (b ++ (token.spelling ++ t))

/-- The token may stand in a formula: it has the form of its kind, and a sign is one of
those that formulas are written with. -/
def Token.IsWritable : Token → Prop
  | .symbol c => c ∈ "+-*/()".toList
  | token => token.IsLexeme

/-- A sign of a formula is a token by itself. -/
structure IsSign (c : Char) : Prop where
  solid : isBlank c = false
  digit : isDecimal c = false
  word : isWord c = false
  point : c ≠ '.'

theorem isSign_of_mem {c : Char} (h : c ∈ "+-*/()".toList) : IsSign c := by
  have hall : "+-*/()".toList.all (fun c => !isBlank c && !isDecimal c && !isWord c && c ≠ '.')
      = true := by decide
  have hsign := List.all_eq_true.mp hall c h
  simp only [Bool.and_eq_true, Bool.not_eq_true', decide_eq_true_eq] at hsign
  exact ⟨hsign.1.1.1, hsign.1.1.2, hsign.1.2, hsign.2⟩

theorem IsSign.stops {c : Char} (h : IsSign c) : Stops c := by
  intro pending
  cases pending <;> simp [Pending.extend?, h.digit, h.word, h.point]

theorem IsSign.scan_cons {c : Char} (h : IsSign c) (t : Text) :
    scan .nothing (c :: t) = .symbol c :: scan .nothing t := by
  simp [scan, Pending.extend?, Pending.close, Pending.start, h.solid, h.digit, h.word, h.point]

/-- Digits go on with a number. -/
private theorem scan_whole {digits : Text} (h : digits.all isDecimal = true)
    (reversed t : Text) :
    scan (.whole reversed) (digits ++ t) = scan (.whole (digits.reverse ++ reversed)) t := by
  induction digits generalizing reversed with
  | nil => rfl
  | cons c digits ih =>
      rw [List.all_cons, Bool.and_eq_true] at h
      simp [scan, Pending.extend?, h.1, ih h.2]

private theorem scan_fraction {digits : Text} (h : digits.all isDecimal = true)
    (reversed : Text) :
    scan (.fraction reversed) digits = [.number (reversed.reverse ++ digits)] := by
  induction digits generalizing reversed with
  | nil => simp [scan, Pending.close]
  | cons c digits ih =>
      rw [List.all_cons, Bool.and_eq_true] at h
      simp [scan, Pending.extend?, h.1, ih h.2]

private theorem start_of_isDecimal {c : Char} (h : isDecimal c = true) :
    Pending.start c = ([], .whole [c]) := by
  simp [Pending.start, isBlank_of_isDecimal h, h]

/-- A plain decimal is one token. -/
theorem scan_numeral {numeral : Text} (h : isPlainDecimal numeral = true) :
    scan .nothing numeral = [.number numeral] := by
  rcases isPlainDecimal_iff.mp h with
    ⟨hne, hdigits⟩ | ⟨whole, fraction, rfl, hwhole, hfraction, hne⟩
  · obtain ⟨c, digits, rfl⟩ := List.exists_cons_of_ne_nil hne
    rw [List.all_cons, Bool.and_eq_true] at hdigits
    have hmore := scan_whole hdigits.2 [c] []
    rw [List.append_nil] at hmore
    simp [scan, Pending.extend?, Pending.close, start_of_isDecimal hdigits.1, hmore]
  · cases whole with
    | nil =>
        obtain ⟨c, digits, rfl⟩ := List.exists_cons_of_ne_nil (by simpa using hne)
        rw [List.all_cons, Bool.and_eq_true] at hfraction
        have hstart : Pending.start '.' = ([], .point) := by decide
        simp [scan, Pending.extend?, Pending.close, hstart, hfraction.1,
          scan_fraction hfraction.2]
    | cons c whole =>
        rw [List.all_cons, Bool.and_eq_true] at hwhole
        simp [scan, Pending.extend?, Pending.close, start_of_isDecimal hwhole.1,
          scan_whole hwhole.2, isDecimal_point, scan_fraction hfraction]

/-- Only a blank or a sign stands behind an operand. -/
private theorem Spaced.stops {more : List Token} {t : Text} (h : Spaced more t)
    (hwritable : ∀ token ∈ more, token.IsWritable)
    (hsign : ∀ token ∈ more.head?, token.isOperand = false) : ∀ c ∈ t.head?, Stops c := by
  intro c hc
  cases h with
  | nil hb => exact stops_of_isBlankText hb c hc
  | @cons b token more t hb h =>
      cases b with
      | nil =>
          cases token with
          | number numeral => cases hsign _ rfl
          | name n => cases hsign _ rfl
          | symbol d =>
              obtain rfl := Option.some.inj hc
              exact (isSign_of_mem (hwritable _ List.mem_cons_self)).stops
      | cons d b => exact stops_of_isBlankText hb c hc

/-- **A text that spells tokens has them for its tokens** if no two operands stand side
by side. -/
theorem tokens_of_spaced {used : List Token} {t : Text} (h : Spaced used t)
    (hwritable : ∀ token ∈ used, token.IsWritable) (hapart : used.IsChain Apart) :
    tokens t = used := by
  induction h with
  | nil hb => exact scan_blanks hb
  | @cons b token more t hb h ih =>
      obtain ⟨htoken, hmore⟩ := List.forall_mem_cons.mp hwritable
      rw [List.isChain_cons] at hapart
      have hrest : scan .nothing t = more := ih hmore hapart.2
      -- An operand ends where the next token, which is a sign, or a blank begins.
      have hoperand : token.isOperand = true → scan .nothing token.spelling = [token] →
          scan .nothing (token.spelling ++ t) = token :: more := by
        intro hoperand halone
        have hstops := h.stops hmore fun next hnext => by
          simpa [Apart, hoperand] using hapart.1 next hnext
        rw [scan_append_stop hstops, halone, hrest, List.singleton_append]
      rw [tokens, scan_append_blanks hb]
      cases token with
      | number numeral => exact hoperand rfl (scan_numeral htoken)
      | name n => exact hoperand rfl (scan_name htoken)
      | symbol c =>
          rw [Token.spelling, List.singleton_append, (isSign_of_mem htoken).scan_cons, hrest]

end Questionnaire.Formula
