import Questionnaire.Formula.Evaluate
import Questionnaire.Proofs.Formula.Spelling

/-!
# Formulas in writing

A formula is printed with parentheses around an operand exactly where that operand
binds looser than its place (`printed`). What is printed has the formula for its tree
(`parses_printed`), and no shorter tokens have (`Parses.length_printed_le`). With any
blanks among them the tokens are read back as the formula, which completes the account
of the reader (`readByGrammar`).
-/

namespace Questionnaire

/-- How tightly the level binds. -/
def Formula.Category.rank : Category → Nat
  | .expression => 0
  | .term => 1
  | .unary => 2
  | .primary => 3

/-- The level of what stands on the right of the operation: the next tighter one. -/
def Operation.rightCategory : Operation → Formula.Category
  | .add => .term
  | .subtract => .term
  | .multiply => .unary
  | .divide => .unary

namespace Formula

open Text Decimal

/-! ## Printing -/

/-- The tightest level that the formula stands on without parentheses. -/
def category : Formula → Category
  | .number _ => .primary
  | .name _ => .primary
  | .negated _ => .unary
  | .plus _ => .unary
  | .binary operation _ _ => operation.category

/-- The tokens of a formula where its level is at least as tight as the place, else in
parentheses. -/
def placed (place own : Category) (tokens : List Token) : List Token :=
  if place.rank ≤ own.rank then tokens else .symbol '(' :: tokens ++ [.symbol ')']

/-- The tokens of a formula with the parentheses that precedence requires. -/
def printed : Formula → List Token
  | .number numeral => [.number numeral]
  | .name n => [.name n]
  | .negated operand => .symbol '-' :: placed .unary operand.category operand.printed
  | .plus operand => .symbol '+' :: placed .unary operand.category operand.printed
  | .binary operation left right =>
      placed operation.category left.category left.printed ++
        .symbol operation.sign ::
          placed operation.rightCategory right.category right.printed

/-- The formula is written with plain decimals and with names. -/
def IsWritable : Formula → Prop
  | .number numeral => isPlainDecimal numeral = true
  | .name n => isName n = true
  | .negated operand => operand.IsWritable
  | .plus operand => operand.IsWritable
  | .binary _ left right => left.IsWritable ∧ right.IsWritable

/-! ### What is printed has the formula for its tree -/

/-- What stands on a level stands on every looser one. -/
theorem Parses.loosen {place own : Category} (hrank : place.rank ≤ own.rank)
    {tokens : List Token} {formula : Formula} (h : Parses own tokens formula) :
    Parses place tokens formula := by
  cases own <;> cases place <;> first
    | exact h
    | exact absurd hrank (by decide)
    | exact .expression h
    | exact .term h
    | exact .unary h
    | exact .expression (.term h)
    | exact .term (.unary h)
    | exact .expression (.term (.unary h))

theorem Parses.placed {place own : Category} {tokens : List Token} {formula : Formula}
    (h : Parses own tokens formula) : Parses place (placed place own tokens) formula := by
  rw [Formula.placed]
  split_ifs with hrank
  · exact h.loosen hrank
  · have hprimary : Parses .primary (.symbol '(' :: tokens ++ [.symbol ')']) formula :=
      .enclosed (h.loosen (Nat.zero_le _))
    exact hprimary.loosen (by cases place <;> decide)

/-- **What is printed** has the formula for its tree, on its own level. -/
theorem parses_printed (formula : Formula) :
    Parses formula.category formula.printed formula := by
  induction formula with
  | number numeral => exact .number numeral
  | name n => exact .name n
  | negated operand ih => exact .negated ih.placed
  | plus operand ih => exact .plus ih.placed
  | binary operation left right ih ih' =>
      cases operation with
      | add => exact .sum (rfl : Operation.add.category = _) ih.placed ih'.placed
      | subtract => exact .sum (rfl : Operation.subtract.category = _) ih.placed ih'.placed
      | multiply => exact .product (rfl : Operation.multiply.category = _) ih.placed ih'.placed
      | divide => exact .product (rfl : Operation.divide.category = _) ih.placed ih'.placed

/-! ### No parentheses are superfluous -/

private theorem length_le_placed (place own : Category) (tokens : List Token) :
    tokens.length ≤ (placed place own tokens).length ∧
      (placed place own tokens).length ≤ tokens.length + 2 := by
  rw [placed]
  split_ifs
  · exact ⟨Nat.le_refl _, Nat.le_add_right _ _⟩
  · simp only [List.length_append, List.length_cons, List.length_nil]
    omega

private theorem length_placed_mono {place place' : Category} (h : place.rank ≤ place'.rank)
    (own : Category) (tokens : List Token) :
    (placed place own tokens).length ≤ (placed place' own tokens).length := by
  by_cases hown : place.rank ≤ own.rank
  · rw [placed, if_pos hown]
    exact (length_le_placed place' own tokens).1
  · rw [placed, placed, if_neg hown, if_neg (by omega)]

private theorem length_printed_binary {operation : Operation} {left right : Formula}
    {tokens tokens' : List Token}
    (h : (placed operation.category left.category left.printed).length ≤ tokens.length)
    (h' : (placed operation.rightCategory right.category right.printed).length
      ≤ tokens'.length) :
    (placed operation.category (Formula.binary operation left right).category
        (Formula.binary operation left right).printed).length
      ≤ (tokens ++ .symbol operation.sign :: tokens').length := by
  have hown : placed operation.category (Formula.binary operation left right).category
      (Formula.binary operation left right).printed
        = (Formula.binary operation left right).printed := if_pos (Nat.le_refl _)
  rw [hown, printed]
  simp only [List.length_append, List.length_cons]
  omega

/-- **No parentheses are superfluous**: tokens that have the formula for their tree are
no fewer than those that are printed. -/
theorem Parses.length_printed_le {place : Category} {tokens : List Token} {formula : Formula}
    (h : Parses place tokens formula) :
    (Formula.placed place formula.category formula.printed).length ≤ tokens.length := by
  induction h with
  | @expression tokens formula _ ih => exact Nat.le_trans (length_placed_mono (by decide) _ _) ih
  | @term tokens formula _ ih => exact Nat.le_trans (length_placed_mono (by decide) _ _) ih
  | @unary tokens formula _ ih => exact Nat.le_trans (length_placed_mono (by decide) _ _) ih
  | @sum operation tokens tokens' left right hsign _ _ ih ih' =>
      have hright : operation.rightCategory = .term := by
        cases operation <;> first | rfl | cases hsign
      rw [← hsign] at ih ⊢
      exact length_printed_binary ih (hright ▸ ih')
  | @product operation tokens tokens' left right hsign _ _ ih ih' =>
      have hright : operation.rightCategory = .unary := by
        cases operation <;> first | rfl | cases hsign
      rw [← hsign] at ih ⊢
      exact length_printed_binary ih (hright ▸ ih')
  | negated _ ih | plus _ ih => exact Nat.succ_le_succ ih
  | number numeral | name n => exact Nat.le_refl _
  | @enclosed tokens formula _ ih =>
      have hinside := (length_le_placed .expression formula.category formula.printed).1
      have houtside := (length_le_placed .primary formula.category formula.printed).2
      simp only [List.length_append, List.length_cons, List.length_nil]
      omega

/-! ## Reading back -/

private theorem isWritable_of_mem_placed {place own : Category} {used : List Token}
    (h : ∀ token ∈ used, token.IsWritable) : ∀ token ∈ placed place own used, token.IsWritable := by
  rw [placed]
  split_ifs
  · exact h
  · simp only [List.mem_append, List.mem_cons, List.not_mem_nil, or_false]
    rintro token ((rfl | htoken) | rfl)
    · exact (by decide : '(' ∈ "+-*/()".toList)
    · exact h token htoken
    · exact (by decide : ')' ∈ "+-*/()".toList)

theorem isWritable_of_mem_printed {formula : Formula} (h : formula.IsWritable) :
    ∀ token ∈ formula.printed, token.IsWritable := by
  have hcons : ∀ {c : Char} {used : List Token}, c ∈ "+-*/()".toList →
      (∀ token ∈ used, token.IsWritable) → ∀ token ∈ Token.symbol c :: used, token.IsWritable :=
    fun hc hused => List.forall_mem_cons.mpr ⟨hc, hused⟩
  induction formula with
  | number numeral | name n =>
      intro token htoken
      obtain rfl := List.mem_singleton.mp htoken
      exact h
  | negated operand ih => exact hcons (by decide) (isWritable_of_mem_placed (ih h))
  | plus operand ih => exact hcons (by decide) (isWritable_of_mem_placed (ih h))
  | binary operation left right ih ih' =>
      refine List.forall_mem_append.mpr ⟨isWritable_of_mem_placed (ih h.1), ?_⟩
      exact hcons (by cases operation <;> decide) (isWritable_of_mem_placed (ih' h.2))

/-- Tokens that have a formula for their tree are read as it in every text that spells
them. -/
theorem ofText_of_spaced {used : List Token} {formula : Formula}
    (h : Parses .expression used formula) (hwritable : ∀ token ∈ used, token.IsWritable)
    {t : Text} (ht : Spaced used t) : ofText t = .ok formula :=
  ofText_eq_ok_iff.mpr ((tokens_of_spaced ht hwritable h.writes.apart).symm ▸ h)

/-- What the grammar says of reading a text as a formula. -/
structure ReadByGrammar (t : Text) : Prop where
  /-- Nothing is skipped: the tokens spell the text, blanks apart. -/
  spelled : (tokens t).flatMap Token.spelling = t.filter fun c => !isBlank c
  /-- Every token has the form of its kind. -/
  lexemes : ∀ token ∈ tokens t, token.IsLexeme
  /-- Every numeral has a value. -/
  numerals : ∀ numeral, .number numeral ∈ tokens t →
    readFloat? numeral = some (numeralValue numeral)
  /-- A text is read as a formula exactly if the grammar derives its tokens. -/
  accepted : (∃ formula, ofText t = .ok formula) ↔ Derives .expression (tokens t)
  /-- There is one tree for them, and the formula is that tree. -/
  tree : Derives .expression (tokens t) ↔ ∃! formula, Parses .expression (tokens t) formula
  /-- The formula is read as the tree has it. -/
  read : ∀ formula, ofText t = .ok formula ↔ Parses .expression (tokens t) formula
  /-- What is not grammatical is a fault. -/
  rejected : (∃ fault, ofText t = .error fault) ↔ ¬ Derives .expression (tokens t)
  /-- A printed formula is read back whatever blanks there are among its tokens. -/
  printed : ∀ formula : Formula, formula.IsWritable → Spaced formula.printed t →
    ofText t = .ok formula

/-- **Formulas are read by their grammar**, with one tree for each of them. -/
theorem readByGrammar (t : Text) : ReadByGrammar t where
  spelled := spelling_tokens t
  lexemes := isLexeme_of_mem_tokens t
  numerals numeral h := by
    have hsome := isSome_readFloat?_of_isPlainDecimal (isLexeme_of_mem_tokens t _ h)
    obtain ⟨x, hx⟩ := Option.isSome_iff_exists.mp hsome
    rw [numeralValue, hx, Option.getD_some]
  accepted := by simp only [ofText_eq_ok_iff, exists_parses_iff]
  tree := by
    rw [← exists_parses_iff]
    exact ⟨fun ⟨formula, h⟩ => ⟨formula, h, fun _ h' => h'.unique h⟩,
      fun ⟨formula, h, _⟩ => ⟨formula, h⟩⟩
  read _ := ofText_eq_ok_iff
  rejected := by
    rw [← exists_parses_iff]
    simp only [← ofText_eq_ok_iff]
    cases ofText t <;> simp
  printed formula hwritable ht := by
    have hparses : Parses .expression formula.printed formula :=
      (parses_printed formula).loosen (Nat.zero_le _)
    exact ofText_of_spaced hparses (isWritable_of_mem_printed hwritable) ht

/-- A sign binds tighter than a product, so it is the sum that needs parentheses. -/
theorem readByGrammar_product :
    ofText " -(a + 2.5)\t*b".toList
      = .ok (.binary .multiply
          (.negated (.binary .add (.name "a".toList) (.number "2.5".toList)))
          (.name "b".toList)) := by
  have hname : isName "a".toList = true ∧ isName "b".toList = true := by decide
  have hnumeral : isPlainDecimal "2.5".toList = true := by decide
  refine (readByGrammar _).printed _ ⟨⟨hname.1, hnumeral⟩, hname.2⟩ ?_
  exact .cons (b := [' ']) rfl <| .cons (b := []) rfl <| .cons (b := []) rfl <|
    .cons (b := [' ']) rfl <| .cons (b := [' ']) rfl <| .cons (b := []) rfl <|
    .cons (b := ['\t']) rfl <| .cons (b := []) rfl <| .nil (b := []) rfl

end Formula
end Questionnaire
