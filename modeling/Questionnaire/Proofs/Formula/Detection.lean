import Questionnaire.Computation.Resolve
import Questionnaire.Proofs.Formula.Spelling

/-!
# Which formulas are seen as computations

Whether a text is a computation is looked up in its characters before it is read:
somewhere a sign of an operation stands between two words, or there are parentheses
around the whole. Nothing is lost by looking at characters in place of tokens
(`joinsWords_iff`), and a text with such a sign that can be read has an operation in
its tree (`hasOperation_of_wordsMeet`). The converse fails: behind a parenthesis, before
another sign or at the point of a numeral an operation is written between no two words
(`seen_as_computation`).
-/

namespace Questionnaire.Formula

open Text

/-- Whether an operation puts two formulas together in it. -/
def hasOperation : Formula → Bool
  | .number _ => false
  | .name _ => false
  | .negated operand => operand.hasOperation
  | .plus operand => operand.hasOperation
  | .binary _ _ _ => true

/-- Among the tokens a sign of an operation stands between two words: the token before
it ends in a word character, and the one behind it begins with one. -/
def WordsMeet (used : List Token) : Prop :=
  ∃ before a c b behind, used = before ++ a :: .symbol c :: b :: behind ∧
    isOperationSign c = true ∧ (∃ x ∈ a.spelling.getLast?, isWord x = true) ∧
      ∃ y ∈ b.spelling.head?, isWord y = true

/-- The text shows an operation: words meet among its tokens, or there are parentheses
around it. -/
def Shows (t : Text) : Prop := WordsMeet (tokens t) ∨ isEnclosed (trim t) = true

/-! ## Signs between word characters -/

/-- A sign of an operation stands between two word characters. -/
def Joined (s : Text) : Prop :=
  ∃ p x c y q, s = p ++ x :: c :: y :: q ∧ isWord x = true ∧ isOperationSign c = true ∧
    isWord y = true

/-- The text goes on with what is missing to a sign between two word characters. -/
def Neighbour.GoesOn : Neighbour → Text → Prop
  | .nothing, _ => False
  | .word, s => ∃ c y q, s = c :: y :: q ∧ isOperationSign c = true ∧ isWord y = true
  | .operation, s => ∃ y q, s = y :: q ∧ isWord y = true

theorem isSign_of_isOperationSign {c : Char} (h : isOperationSign c = true) : IsSign c := by
  refine isSign_of_mem ?_
  simp only [isOperationSign, Bool.or_eq_true, decide_eq_true_eq] at h
  obtain ((rfl | rfl) | rfl) | rfl := h <;> decide

theorem joined_cons {c : Char} {s : Text} :
    Joined (c :: s) ↔ (isWord c = true ∧ Neighbour.word.GoesOn s) ∨ Joined s := by
  constructor
  · rintro ⟨p, x, d, y, q, hsplit, hx, hd, hy⟩
    cases p with
    | nil =>
        obtain ⟨rfl, rfl⟩ := List.cons.inj hsplit
        exact .inl ⟨hx, d, y, q, rfl, hd, hy⟩
    | cons e p =>
        obtain ⟨-, rfl⟩ := List.cons.inj hsplit
        exact .inr ⟨p, x, d, y, q, rfl, hx, hd, hy⟩
  · rintro (⟨hc, d, y, q, rfl, hd, hy⟩ | ⟨p, x, d, y, q, rfl, hx, hd, hy⟩)
    · exact ⟨[], c, d, y, q, rfl, hc, hd, hy⟩
    · exact ⟨c :: p, x, d, y, q, rfl, hx, hd, hy⟩

/-- **The search along the text** finds a sign between two word characters, blanks apart. -/
theorem joinsWordsFrom_iff {before : Neighbour} {t : Text} :
    joinsWordsFrom before t = true ↔
      before.GoesOn (t.filter fun c => !isBlank c) ∨ Joined (t.filter fun c => !isBlank c) := by
  induction t generalizing before with
  | nil => cases before <;> simp [joinsWordsFrom, Neighbour.GoesOn, Joined]
  | cons c t ih =>
      rw [joinsWordsFrom]
      by_cases hblank : isBlank c = true
      · simp [isWord_of_isBlank hblank, hblank, ih]
      · rw [List.filter_cons_of_pos (by simpa using hblank), joined_cons]
        by_cases hword : isWord c = true
        · have hsign : isOperationSign c = false := by
            by_cases hsign : isOperationSign c = true
            · exact absurd hword (by simp [(isSign_of_isOperationSign hsign).word])
            · simpa using hsign
          cases before <;> simp [ih, hword, hsign, Neighbour.GoesOn]
        · by_cases hsign : isOperationSign c = true
          · cases before <;> simp [ih, hword, hblank, hsign, Neighbour.GoesOn]
          · cases before <;> simp [ih, hword, hblank, hsign, Neighbour.GoesOn]

/-! ## Signs between tokens -/

theorem Token.IsLexeme.spelling_ne_nil {token : Token} (h : token.IsLexeme) :
    token.spelling ≠ [] := by
  rintro hempty
  cases token with
  | number numeral =>
      obtain rfl : numeral = [] := hempty
      cases h
  | name n =>
      obtain rfl : n = [] := hempty
      cases h
  | symbol c => cases hempty

/-- A sign stands in no token but its own. -/
theorem Token.IsLexeme.eq_symbol {token : Token} (h : token.IsLexeme) {c : Char} (hc : IsSign c)
    {p q : Text} (hsplit : token.spelling = p ++ c :: q) :
    token = .symbol c ∧ p = [] ∧ q = [] := by
  have hmem : c ∈ token.spelling := by simp [hsplit]
  cases token with
  | number numeral =>
      rcases Decimal.isDecimal_of_mem_isPlainDecimal h hmem with hdigit | hpoint
      · exact absurd hdigit (by simp [hc.digit])
      · exact absurd hpoint hc.point
  | name n =>
      have hbare : isBareWord n = true := (Bool.and_eq_true_iff.mp h).1
      exact absurd ((isBareWord_iff.mp hbare).2 c hmem) (by simp [hc.word])
  | symbol d =>
      cases p with
      | nil =>
          obtain ⟨rfl, rfl⟩ := List.cons.inj hsplit
          exact ⟨rfl, rfl, rfl⟩
      | cons e p => simp [Token.spelling] at hsplit

/-- A sign in what tokens spell is one of them, with the others on its two sides. -/
theorem exists_symbol_of_spelling {used : List Token} (h : ∀ token ∈ used, token.IsLexeme)
    {c : Char} (hc : IsSign c) {p q : Text}
    (hspelling : used.flatMap Token.spelling = p ++ c :: q) :
    ∃ before behind, used = before ++ .symbol c :: behind ∧
      before.flatMap Token.spelling = p ∧ behind.flatMap Token.spelling = q := by
  induction used generalizing p with
  | nil => simp at hspelling
  | cons token more ih =>
      obtain ⟨htoken, hmore⟩ := List.forall_mem_cons.mp h
      -- Either the sign is behind the first token, or it is part of it.
      have hbehind : ∀ p', more.flatMap Token.spelling = p' ++ c :: q → p = token.spelling ++ p' →
          ∃ before behind, token :: more = before ++ .symbol c :: behind ∧
            before.flatMap Token.spelling = p ∧ behind.flatMap Token.spelling = q := by
        rintro p' hrest rfl
        obtain ⟨before, behind, rfl, rfl, hq⟩ := ih hmore hrest
        exact ⟨token :: before, behind, rfl, rfl, hq⟩
      rw [List.flatMap_cons] at hspelling
      rcases List.append_eq_append_iff.mp hspelling with ⟨p', hp, hrest⟩ | ⟨m, hfirst, hrest⟩
      · exact hbehind p' hrest hp
      · cases m with
        | nil => exact hbehind [] hrest.symm (by simpa using hfirst.symm)
        | cons d m =>
            obtain ⟨rfl, rfl⟩ := List.cons.inj hrest
            obtain ⟨rfl, rfl, rfl⟩ := htoken.eq_symbol hc hfirst
            exact ⟨[], more, rfl, rfl, rfl⟩

/-- **Tokens and characters** have the same signs between words. -/
theorem wordsMeet_iff {used : List Token} (h : ∀ token ∈ used, token.IsLexeme) :
    WordsMeet used ↔ Joined (used.flatMap Token.spelling) := by
  constructor
  · rintro ⟨before, a, c, b, behind, rfl, hc, ⟨x, hlast, hx⟩, y, hhead, hy⟩
    obtain ⟨front, hfront⟩ := List.getLast?_eq_some_iff.mp hlast
    obtain ⟨back, hback⟩ := List.head?_eq_some_iff.mp hhead
    refine ⟨before.flatMap Token.spelling ++ front, x, c, y,
      back ++ behind.flatMap Token.spelling, ?_, hx, hc, hy⟩
    simp only [List.flatMap_append, List.flatMap_cons, hfront, hback]
    simp [Token.spelling]
  · rintro ⟨p, x, c, y, q, hspelling, hx, hc, hy⟩
    obtain ⟨before, behind, rfl, hbefore, hbehind⟩ := exists_symbol_of_spelling h
      (isSign_of_isOperationSign hc) (p := p ++ [x]) (by simpa using hspelling)
    -- The neighbours are tokens of their own, since every token has a character.
    rcases List.eq_nil_or_concat before with rfl | ⟨before, a, rfl⟩
    · simp at hbefore
    cases behind with
    | nil => simp at hbehind
    | cons b behind =>
        have ha := (h a (by simp)).spelling_ne_nil
        have hb := (h b (by simp)).spelling_ne_nil
        have hlast : a.spelling.getLast? = some x := by
          have := congrArg List.getLast? hbefore
          simpa [List.getLast?_append, List.getLast?_eq_some_getLast ha] using this
        have hhead : b.spelling.head? = some y := by
          have := congrArg List.head? hbehind
          simpa [List.head?_append, List.head?_eq_some_head hb] using this
        exact ⟨before, a, c, b, behind, by simp, hc, ⟨x, hlast, hx⟩, y, hhead, hy⟩

/-- **A text joins words exactly if words meet among its tokens.** -/
theorem joinsWords_iff {t : Text} : joinsWords t = true ↔ WordsMeet (tokens t) := by
  rw [wordsMeet_iff (isLexeme_of_mem_tokens t), spelling_tokens, joinsWords, joinsWordsFrom_iff]
  simp [Neighbour.GoesOn]

/-! ## Blanks around a text -/

theorem tokens_trim (t : Text) : tokens (trim t) = tokens t := by
  obtain ⟨before, after, hsplit, hbefore, hafter, -, -⟩ := trim_spec t
  calc tokens (trim t) = scan .nothing (before ++ (trim t ++ after)) := by
        rw [scan_append_blanks hbefore, scan_append_stop (stops_of_isBlankText hafter),
          scan_blanks hafter, List.append_nil, tokens]
    _ = tokens t := by rw [← List.append_assoc, ← hsplit, tokens]

theorem ofText_trim_eq_ok_iff {t : Text} {formula : Formula} :
    ofText (trim t) = .ok formula ↔ ofText t = .ok formula := by
  rw [ofText_eq_ok_iff, ofText_eq_ok_iff, tokens_trim]

/-- Nothing is joined where no sign of an operation is. -/
theorem joinsWords_of_no_sign {t : Text} (h : ∀ c ∈ t, isOperationSign c = false) :
    joinsWords t = false := by
  rw [Bool.eq_false_iff, ne_eq, joinsWords, joinsWordsFrom_iff]
  rintro (hon | ⟨p, x, c, y, q, hsplit, -, hc, -⟩)
  · exact hon
  · have hmem : c ∈ t.filter fun c => !isBlank c := by simp [hsplit]
    simp [h c (List.mem_filter.mp hmem).1] at hc

/-- A bare word neither joins words nor is enclosed. -/
theorem not_joined_of_isBareWord {t : Text} (h : isBareWord t = true) :
    joinsWords t = false ∧ isEnclosed t = false := by
  have hword := (isBareWord_iff.mp h).2
  have hsign : ∀ c, IsSign c → c ∉ t := by
    intro c hc hmem
    exact absurd (hword c hmem) (by simp [hc.word])
  constructor
  · refine joinsWords_of_no_sign fun c hc => ?_
    rw [Bool.eq_false_iff]
    exact fun hoperation => hsign c (isSign_of_isOperationSign hoperation) hc
  · rw [Bool.eq_false_iff]
    intro henclosed
    have hopen : t.head? = some '(' := by
      simpa using (Bool.and_eq_true_iff.mp henclosed).1
    exact hsign '(' (isSign_of_mem (by decide)) (List.mem_of_mem_head? hopen)

/-- **What is seen as a computation**: a formula whose text shows an operation. -/
theorem isComputation_iff {t : Text} :
    isComputation t = true ↔ (∃ formula, ofText t = .ok formula) ∧ Shows t := by
  have hread : (ofText (trim t)).toBool = true ↔ ∃ formula, ofText t = .ok formula := by
    rw [← exists_congr fun _ => ofText_trim_eq_ok_iff]
    cases ofText (trim t) <;> simp [Except.toBool]
  have hbare : joinsWords (trim t) = true ∨ isEnclosed (trim t) = true →
      isBareWord (trim t) = false := by
    intro hseen
    rw [Bool.eq_false_iff]
    intro hword
    obtain ⟨hjoins, henclosed⟩ := not_joined_of_isBareWord hword
    simp [hjoins, henclosed] at hseen
  rw [isComputation, Bool.and_eq_true, Bool.and_eq_true, Bool.or_eq_true, Bool.not_eq_true',
    hread, Shows, ← tokens_trim t, ← joinsWords_iff]
  constructor
  · rintro ⟨⟨-, hseen⟩, hformula⟩
    exact ⟨hformula, hseen⟩
  · rintro ⟨hformula, hseen⟩
    exact ⟨⟨hbare hseen, hseen⟩, hformula⟩

/-! ## Signs between words and operations of the tree -/

/-- In a formula without an operation nothing but a closing parenthesis is behind an
operand. -/
theorem Writes.eq_close {used : List Token} {formula : Formula} (h : Writes used formula)
    (hnone : formula.hasOperation = false) {before behind : List Token} {a : Token} {c : Char}
    (hsplit : used = before ++ a :: .symbol c :: behind) (ha : a.isOperand = true) : c = ')' := by
  induction h generalizing before behind with
  | number numeral | name n =>
      have hlength := congrArg List.length hsplit
      simp at hlength
      omega
  | negated _ ih | plus _ ih =>
      cases before with
      | nil =>
          obtain ⟨rfl, -⟩ := List.cons.inj hsplit
          cases ha
      | cons sign before => exact ih hnone (List.cons.inj hsplit).2
  | @enclosed tokens formula _ ih =>
      cases before with
      | nil =>
          obtain ⟨rfl, -⟩ := List.cons.inj hsplit
          cases ha
      | cons sign before =>
          have hinside : tokens ++ [.symbol ')'] = before ++ a :: .symbol c :: behind :=
            (List.cons.inj hsplit).2
          rcases List.eq_nil_or_concat behind with rfl | ⟨behind, last, rfl⟩
          · have hlast := congrArg List.getLast? hinside
            simpa using hlast.symm
          · have hfront := congrArg List.dropLast hinside
            exact ih hnone (by simpa [List.dropLast_cons_of_ne_nil] using hfront)
  | binary => cases hnone

/-- **Where words meet there is an operation** in the tree. -/
theorem hasOperation_of_wordsMeet {t : Text} {formula : Formula} (h : ofText t = .ok formula)
    (hmeet : WordsMeet (tokens t)) : formula.hasOperation = true := by
  obtain ⟨before, a, c, b, behind, hsplit, hc, ⟨x, hlast, hx⟩, -⟩ := hmeet
  have hoperand : a.isOperand = true := by
    cases a with
    | number numeral => rfl
    | name n => rfl
    | symbol d =>
        have hlexeme := isLexeme_of_mem_tokens t (.symbol d) (by simp [hsplit])
        obtain rfl : d = x := by simpa [Token.spelling] using hlast
        exact absurd hx (by simp [hlexeme.2.2])
  cases hoperation : formula.hasOperation with
  | true => rfl
  | false =>
      obtain rfl := (ofText_writes h).eq_close hoperation hsplit hoperand
      exact absurd hc (by decide)

/-! ## What is seen of the formulas -/

/-- The value of a text is that of its tree, zero if it has none. -/
theorem evaluate_of_ofText {t : Text} {formula : Formula} (h : ofText t = .ok formula)
    (scope : Scope) : evaluate t scope = (value? scope formula).toOption.getD 0 := by
  simp only [evaluate, evaluate?, h]
  cases value? scope formula <;> rfl

/-- **Which texts are seen as computations.** What cannot be read is none. A formula is
one if its tree has an operation that the text writes between two words, or if there are
parentheses around it; so it is one for every tree with an operation as long as the text
shows it. A computed value that neither compares nor combines is then the number of the
tree, but a condition's truth value where the operation of the tree is not shown. -/
theorem seen_as_computation (t : Text) :
    (∀ cause, ofText t = .error cause → isComputation t = false) ∧
      ∀ formula, ofText t = .ok formula →
        (isComputation t = true ↔
            (formula.hasOperation = true ∧ WordsMeet (tokens t)) ∨ isEnclosed (trim t) = true) ∧
          ((formula.hasOperation = true → Shows t) →
            (isComputation t = true ↔
              formula.hasOperation = true ∨ isEnclosed (trim t) = true)) ∧
          (formula.hasOperation = true → Computation.isCondition t = false → ∀ scope,
            (Shows t → Computation.compute t scope =
              .float ((value? scope formula).toOption.getD 0)) ∧
            (¬ Shows t → Computation.compute t scope =
              .bool (Condition.evaluate t scope))) := by
  constructor
  · intro cause hcause
    rw [Bool.eq_false_iff, ne_eq, isComputation_iff, hcause]
    rintro ⟨⟨_, ⟨⟩⟩, _⟩
  · intro formula hformula
    have hseen : isComputation t = true ↔ Shows t := by
      rw [isComputation_iff, and_iff_right ⟨formula, hformula⟩]
    have hoperation := hasOperation_of_wordsMeet hformula
    refine ⟨?_, ?_, ?_⟩
    · rw [hseen, Shows, and_iff_right_of_imp hoperation]
    · intro hshows
      rw [hseen]
      exact ⟨Or.imp_left hoperation, Or.rec hshows .inr⟩
    · intro _ hcondition scope
      rw [Computation.compute, Computation.isFormula, hcondition, Bool.not_false, Bool.true_and,
        ← hseen, ← evaluate_of_ofText hformula]
      exact ⟨fun h => if_pos h, fun h => if_neg h⟩

/-- What `rent + 2 * (food - 1)` writes. -/
def rentAndFood : Formula :=
  .binary .add (.name "rent".toList)
    (.binary .multiply (.number "2".toList)
      (.binary .subtract (.name "food".toList) (.number "1".toList)))

/-- Words meet at the first sign, so the whole is a number. -/
theorem seen_as_computation_rent :
    isComputation "rent + 2 * (food - 1)".toList = true ∧
      Computation.compute "rent + 2 * (food - 1)".toList [("food".toList, .int 3)] =
        .float ((value? [("food".toList, .int 3)] rentAndFood).toOption.getD 0) := by
  have hread : ofText "rent + 2 * (food - 1)".toList = .ok rentAndFood := by decide +kernel
  have hmeet : WordsMeet (tokens "rent + 2 * (food - 1)".toList) :=
    ⟨[], .name "rent".toList, '+', .number "2".toList,
      [.symbol '*', .symbol '(', .name "food".toList, .symbol '-', .number "1".toList,
        .symbol ')'], by decide +kernel, by decide, ⟨'t', by decide, by decide +kernel⟩,
      '2', by decide, by decide +kernel⟩
  obtain ⟨-, hseen, hcomputed⟩ := (seen_as_computation "rent + 2 * (food - 1)".toList).2 _ hread
  exact ⟨(hseen fun _ => .inl hmeet).mpr (.inl rfl),
    (hcomputed rfl (by decide +kernel) [("food".toList, .int 3)]).1 (.inl hmeet)⟩

/-- Before another sign, behind a parenthesis and at a bare point an operation is written
between no two words, and goes unseen. -/
example : ["a * -b", "(a) + b", "x + .5"].all (fun text =>
    (ofText text.toList).toOption.any hasOperation && !isComputation text.toList) = true := by
  decide +kernel

end Questionnaire.Formula
