import Questionnaire.Formula

/-!
# Precedence

A formula is a sum of products of signed operands (`Derives`). The tree that such
tokens stand for joins the operands of a level from left to right (`Parses`). The
reader takes in as a formula exactly what the grammar derives, with that tree
(`ofText_eq_ok_iff`): by induction on its fuel it takes in nothing else, and along
the grammar it takes in all of it, since four levels for every token are fuel
enough.
-/

namespace Questionnaire

/-- The levels of the grammar, the loosest one first. -/
inductive Formula.Category where
  | expression
  | term
  | unary
  | primary
deriving DecidableEq, Repr

/-- The level whose operands the operation joins. -/
def Operation.category : Operation → Formula.Category
  | .add => .expression
  | .subtract => .expression
  | .multiply => .term
  | .divide => .term

namespace Formula

/-! ## The grammar -/

/-- **The grammar of formulas.** An expression is a term with any number of further
terms behind it, each behind a `+` or a `-`; a term is made of unaries in the same way. -/
inductive Derives : Category → List Token → Prop where
  | expression {first : List Token} {rest : List (Operation × List Token)}
      (hfirst : Derives .term first) (hsigns : ∀ part ∈ rest, part.1.category = .expression)
      (hrest : ∀ part ∈ rest, Derives .term part.2) :
      Derives .expression (first ++ rest.flatMap fun part => .symbol part.1.sign :: part.2)
  | term {first : List Token} {rest : List (Operation × List Token)}
      (hfirst : Derives .unary first) (hsigns : ∀ part ∈ rest, part.1.category = .term)
      (hrest : ∀ part ∈ rest, Derives .unary part.2) :
      Derives .term (first ++ rest.flatMap fun part => .symbol part.1.sign :: part.2)
  | negated {tokens : List Token} (h : Derives .unary tokens) :
      Derives .unary (.symbol '-' :: tokens)
  | plus {tokens : List Token} (h : Derives .unary tokens) :
      Derives .unary (.symbol '+' :: tokens)
  | unary {tokens : List Token} (h : Derives .primary tokens) : Derives .unary tokens
  | number (numeral : Text) : Derives .primary [.number numeral]
  | name (n : Text) : Derives .primary [.name n]
  | enclosed {tokens : List Token} (h : Derives .expression tokens) :
      Derives .primary (.symbol '(' :: tokens ++ [.symbol ')'])

/-- **The tree of tokens on a level of the grammar.** What stands on the left of an
operation is on its level, what stands on the right is on a tighter one. -/
inductive Parses : Category → List Token → Formula → Prop where
  | expression {tokens : List Token} {formula : Formula} (h : Parses .term tokens formula) :
      Parses .expression tokens formula
  | sum {operation : Operation} {tokens tokens' : List Token} {left right : Formula}
      (hsign : operation.category = .expression) (h : Parses .expression tokens left)
      (h' : Parses .term tokens' right) :
      Parses .expression (tokens ++ .symbol operation.sign :: tokens')
        (.binary operation left right)
  | term {tokens : List Token} {formula : Formula} (h : Parses .unary tokens formula) :
      Parses .term tokens formula
  | product {operation : Operation} {tokens tokens' : List Token} {left right : Formula}
      (hsign : operation.category = .term) (h : Parses .term tokens left)
      (h' : Parses .unary tokens' right) :
      Parses .term (tokens ++ .symbol operation.sign :: tokens') (.binary operation left right)
  | negated {tokens : List Token} {operand : Formula} (h : Parses .unary tokens operand) :
      Parses .unary (.symbol '-' :: tokens) (.negated operand)
  | plus {tokens : List Token} {operand : Formula} (h : Parses .unary tokens operand) :
      Parses .unary (.symbol '+' :: tokens) (.plus operand)
  | unary {tokens : List Token} {formula : Formula} (h : Parses .primary tokens formula) :
      Parses .unary tokens formula
  | number (numeral : Text) : Parses .primary [.number numeral] (.number numeral)
  | name (n : Text) : Parses .primary [.name n] (.name n)
  | enclosed {tokens : List Token} {formula : Formula} (h : Parses .expression tokens formula) :
      Parses .primary (.symbol '(' :: tokens ++ [.symbol ')']) formula

/-! ### Every derivation has a tree -/

/-- Further operands on the right of a tree. -/
private theorem Parses.extend {outer inner : Category} {rest : List (Operation × List Token)}
    (hjoin : ∀ part ∈ rest, ∀ {tokens : List Token} {left right : Formula},
      Parses outer tokens left → Parses inner part.2 right →
        Parses outer (tokens ++ .symbol part.1.sign :: part.2) (.binary part.1 left right))
    (hrest : ∀ part ∈ rest, ∃ formula, Parses inner part.2 formula) {tokens : List Token}
    {left : Formula} (h : Parses outer tokens left) :
    ∃ formula, Parses outer (tokens ++ rest.flatMap fun part => .symbol part.1.sign :: part.2)
      formula := by
  induction rest generalizing tokens left with
  | nil => exact ⟨left, by simpa using h⟩
  | cons part rest ih =>
      obtain ⟨right, hright⟩ := hrest part List.mem_cons_self
      obtain ⟨formula, hformula⟩ := ih
        (fun other hother => hjoin other (List.mem_cons_of_mem _ hother))
        (fun other hother => hrest other (List.mem_cons_of_mem _ hother))
        (hjoin part List.mem_cons_self h hright)
      exact ⟨formula, by simpa using hformula⟩

theorem Derives.exists_parses {category : Category} {tokens : List Token}
    (h : Derives category tokens) : ∃ formula, Parses category tokens formula := by
  induction h with
  | expression _ hsigns _ ihfirst ihrest =>
      obtain ⟨first, hfirst⟩ := ihfirst
      exact Parses.extend (fun part hpart _ _ _ h h' => .sum (hsigns part hpart) h h') ihrest
        (.expression hfirst)
  | term _ hsigns _ ihfirst ihrest =>
      obtain ⟨first, hfirst⟩ := ihfirst
      exact Parses.extend (fun part hpart _ _ _ h h' => .product (hsigns part hpart) h h') ihrest
        (.term hfirst)
  | negated _ ih =>
      obtain ⟨operand, hoperand⟩ := ih
      exact ⟨_, .negated hoperand⟩
  | plus _ ih =>
      obtain ⟨operand, hoperand⟩ := ih
      exact ⟨_, .plus hoperand⟩
  | unary _ ih =>
      obtain ⟨formula, hformula⟩ := ih
      exact ⟨formula, .unary hformula⟩
  | number numeral => exact ⟨_, .number numeral⟩
  | name n => exact ⟨_, .name n⟩
  | enclosed _ ih =>
      obtain ⟨formula, hformula⟩ := ih
      exact ⟨formula, .enclosed hformula⟩

/-- One more operand behind the others. -/
private theorem flatMap_concat (first tokens : List Token) (rest : List (Operation × List Token))
    (operation : Operation) :
    first ++ (rest.flatMap fun part => Token.symbol part.1.sign :: part.2)
        ++ .symbol operation.sign :: tokens
      = first ++ (rest ++ [(operation, tokens)]).flatMap fun part =>
          Token.symbol part.1.sign :: part.2 := by
  simp

theorem Parses.derives {category : Category} {tokens : List Token} {formula : Formula}
    (h : Parses category tokens formula) : Derives category tokens := by
  have hmore : ∀ {P : Operation × List Token → Prop} {rest : List (Operation × List Token)}
      {part : Operation × List Token}, (∀ other ∈ rest, P other) → P part →
        ∀ other ∈ rest ++ [part], P other := by
    intro P rest part hrest hpart other hother
    rcases List.mem_append.mp hother with hother | hother
    · exact hrest other hother
    · exact List.mem_singleton.mp hother ▸ hpart
  induction h with
  | expression _ ih => simpa using @Derives.expression _ [] ih (by simp) (by simp)
  | @sum operation _ tokens' _ _ hsign _ _ ih ih' =>
      cases ih with
      | @expression first rest hfirst hsigns hrest =>
          rw [flatMap_concat]
          exact .expression hfirst (hmore hsigns hsign)
            (hmore (P := fun part => Derives .term part.2) hrest ih')
  | term _ ih => simpa using @Derives.term _ [] ih (by simp) (by simp)
  | @product operation _ tokens' _ _ hsign _ _ ih ih' =>
      cases ih with
      | @term first rest hfirst hsigns hrest =>
          rw [flatMap_concat]
          exact .term hfirst (hmore hsigns hsign)
            (hmore (P := fun part => Derives .unary part.2) hrest ih')
  | negated _ ih => exact .negated ih
  | plus _ ih => exact .plus ih
  | unary _ ih => exact .unary ih
  | number numeral => exact .number numeral
  | name n => exact .name n
  | enclosed _ ih => exact .enclosed ih

/-- **What the grammar derives has a tree**, and nothing else has one. -/
theorem exists_parses_iff {category : Category} {tokens : List Token} :
    (∃ formula, Parses category tokens formula) ↔ Derives category tokens :=
  ⟨fun ⟨_, h⟩ => h.derives, Derives.exists_parses⟩

/-! ## The reader goes by the grammar -/

private theorem of_looseOperation? {token : Token} {operation : Operation}
    (h : looseOperation? token = some operation) :
    token = .symbol operation.sign ∧ operation.category = .expression := by
  rw [looseOperation?.eq_def] at h
  split at h <;> cases h <;> exact ⟨rfl, rfl⟩

private theorem of_tightOperation? {token : Token} {operation : Operation}
    (h : tightOperation? token = some operation) :
    token = .symbol operation.sign ∧ operation.category = .term := by
  rw [tightOperation?.eq_def] at h
  split at h <;> cases h <;> exact ⟨rfl, rfl⟩

/-- A reader takes in tokens that have the tree that it gives. -/
def Reads (category : Category)
    (read : List Token → Except Malformed (Formula × List Token)) : Prop :=
  ∀ tokens rest formula, read tokens = .ok (formula, rest) →
    ∃ used, tokens = used ++ rest ∧ Parses category used formula

/-- A reader goes on with a tree that has been read so far. -/
def GoesOn (category : Category)
    (read : Formula → List Token → Except Malformed (Formula × List Token)) : Prop :=
  ∀ left tokens rest formula before, read left tokens = .ok (formula, rest) →
    Parses category before left →
      ∃ used, tokens = used ++ rest ∧ Parses category (before ++ used) formula

/-- An operand, and what goes on with it. -/
private theorem Reads.followed {inner outer : Category}
    {first read : List Token → Except Malformed (Formula × List Token)}
    {more : Formula → List Token → Except Malformed (Formula × List Token)}
    (hfirst : Reads inner first)
    (hlift : ∀ {tokens : List Token} {formula : Formula}, Parses inner tokens formula →
      Parses outer tokens formula)
    (hmore : GoesOn outer more)
    (hread : ∀ tokens, read tokens = match first tokens with
      | .error fault => .error fault
      | .ok (left, rest) => more left rest) : Reads outer read := by
  intro tokens rest formula h
  rw [hread] at h
  split at h
  · cases h
  · rename_i left middle hleft
    obtain ⟨used, rfl, hused⟩ := hfirst _ _ _ hleft
    obtain ⟨used', rfl, hused'⟩ := hmore _ _ _ _ _ h (hlift hused)
    exact ⟨used ++ used', by simp, hused'⟩

/-- An operation with another operand, and what goes on with that. -/
private theorem GoesOn.next {inner outer : Category} {operation? : Token → Option Operation}
    {next : List Token → Except Malformed (Formula × List Token)}
    {more read : Formula → List Token → Except Malformed (Formula × List Token)}
    (hjoin : ∀ {token : Token} {operation : Operation}, operation? token = some operation →
      ∀ {before used : List Token} {left right : Formula}, Parses outer before left →
        Parses inner used right →
          Parses outer (before ++ token :: used) (.binary operation left right))
    (hnext : Reads inner next) (hmore : GoesOn outer more)
    (hnil : ∀ left, read left [] = .ok (left, []))
    (hcons : ∀ left token rest, read left (token :: rest) = match operation? token with
      | none => .ok (left, token :: rest)
      | some operation =>
        match next rest with
        | .error fault => .error fault
        | .ok (right, rest) => more (.binary operation left right) rest) :
    GoesOn outer read := by
  intro left tokens rest formula before h hbefore
  cases tokens with
  | nil =>
      rw [hnil] at h
      cases h
      exact ⟨[], rfl, by simpa using hbefore⟩
  | cons token tokens =>
      rw [hcons] at h
      split at h
      · cases h
        exact ⟨[], rfl, by simpa using hbefore⟩
      · rename_i operation hoperation
        split at h
        · cases h
        · rename_i right middle hright
          obtain ⟨used, rfl, hused⟩ := hnext _ _ _ hright
          obtain ⟨used', rfl, hused'⟩ := hmore _ _ _ _ _ h (hjoin hoperation hbefore hused)
          exact ⟨token :: used ++ used', by simp, by simpa using hused'⟩

private theorem Reads.signed {fuel : Nat} (hsigned : Reads .unary (signed fuel))
    (hoperand : Reads .primary (operand fuel)) : Reads .unary (signed (fuel + 1)) := by
  intro tokens rest formula h
  rw [Formula.signed.eq_def] at h
  split at h
  · rename_i hfuel
    cases hfuel
  · rename_i hfuel
    cases hfuel
    split at h
    · cases h
    · rename_i operand middle hfound
      cases h
      obtain ⟨used, rfl, hused⟩ := hsigned _ _ _ hfound
      exact ⟨.symbol '-' :: used, rfl, .negated hused⟩
  · rename_i hfuel
    cases hfuel
    split at h
    · cases h
    · rename_i operand middle hfound
      cases h
      obtain ⟨used, rfl, hused⟩ := hsigned _ _ _ hfound
      exact ⟨.symbol '+' :: used, rfl, .plus hused⟩
  · rename_i hfuel _ _
    cases hfuel
    obtain ⟨used, hsplit, hused⟩ := hoperand _ _ _ h
    exact ⟨used, hsplit, .unary hused⟩

private theorem Reads.operand {fuel : Nat} (hsum : Reads .expression (sum fuel)) :
    Reads .primary (operand (fuel + 1)) := by
  intro tokens rest formula h
  rw [Formula.operand.eq_def] at h
  split at h
  · rename_i hfuel
    cases hfuel
  · cases h
  · cases h
    exact ⟨[_], rfl, .number _⟩
  · cases h
    exact ⟨[_], rfl, .name _⟩
  · rename_i hfuel
    cases hfuel
    split at h
    · cases h
    · rename_i inside behind hinside
      cases h
      obtain ⟨used, rfl, hused⟩ := hsum _ _ _ hinside
      exact ⟨.symbol '(' :: used ++ [.symbol ')'], by simp, .enclosed hused⟩
    · cases h
  · cases h

/-- Every level of the reader goes by its level of the grammar. -/
structure ReadsAll (fuel : Nat) : Prop where
  /-- A sum. -/
  sum : Reads .expression (Formula.sum fuel)
  /-- The rest of a sum. -/
  sumRest : GoesOn .expression (Formula.sumRest fuel)
  /-- A product. -/
  product : Reads .term (Formula.product fuel)
  /-- The rest of a product. -/
  productRest : GoesOn .term (Formula.productRest fuel)
  /-- A signed operand. -/
  signed : Reads .unary (Formula.signed fuel)
  /-- An operand. -/
  operand : Reads .primary (Formula.operand fuel)

/-- **Whatever the reader takes in is grammatical**, by induction on the fuel. -/
theorem readsAll (fuel : Nat) : ReadsAll fuel := by
  induction fuel with
  | zero =>
      refine ⟨?_, ?_, ?_, ?_, ?_, ?_⟩
      · exact fun tokens rest formula h => by cases h
      · exact fun left tokens rest formula before h => by cases h
      · exact fun tokens rest formula h => by cases h
      · exact fun left tokens rest formula before h => by cases h
      · exact fun tokens rest formula h => by cases h
      · exact fun tokens rest formula h => by cases h
  | succ fuel ih =>
      -- Each level calls the next one, and its own rest, with less fuel.
      refine
        { sum := ih.product.followed .expression ih.sumRest fun _ => rfl
          sumRest := GoesOn.next (fun hoperation => ?_) ih.product ih.sumRest (fun _ => rfl)
            fun _ _ _ => rfl
          product := ih.signed.followed .term ih.productRest fun _ => rfl
          productRest := GoesOn.next (fun hoperation => ?_) ih.signed ih.productRest
            (fun _ => rfl) fun _ _ _ => rfl
          signed := ih.signed.signed ih.operand
          operand := ih.sum.operand }
      · obtain ⟨rfl, hsign⟩ := of_looseOperation? hoperation
        exact fun h h' => .sum hsign h h'
      · obtain ⟨rfl, hsign⟩ := of_tightOperation? hoperation
        exact fun h h' => .product hsign h h'

/-- A text that is read as a formula has it for its tree. -/
theorem parses_of_ofText {t : Text} {formula : Formula} (h : ofText t = .ok formula) :
    Parses .expression (tokens t) formula := by
  rw [ofText] at h
  split at h
  · cases h
  · rename_i first rest htokens
    split at h
    · cases h
    · rename_i found hsum
      cases h
      obtain ⟨used, hused, hparses⟩ := (readsAll _).sum _ _ _ hsum
      rw [htokens, hused, List.append_nil]
      exact hparses
    · cases h

/-! ## The reader takes in all that is grammatical -/

/-- The first token does not go on with a product. -/
def EndsTerm (tokens : List Token) : Prop :=
  ∀ token ∈ tokens.head?, tightOperation? token = none

/-- **With fuel enough the reader takes in the tokens of a tree**: on the two loose
levels it goes on behind them with the tree that it has read so far. -/
def TakesIn : Category → List Token → Formula → Prop
  | .expression, tokens, formula => ∀ rest result, EndsTerm rest →
      (∀ fuel, 4 * rest.length < fuel → sumRest fuel formula rest = result) →
        ∀ fuel, 4 * (tokens ++ rest).length + 4 ≤ fuel → sum fuel (tokens ++ rest) = result
  | .term, tokens, formula => ∀ rest result,
      (∀ fuel, 4 * rest.length < fuel → productRest fuel formula rest = result) →
        ∀ fuel, 4 * (tokens ++ rest).length + 3 ≤ fuel → product fuel (tokens ++ rest) = result
  | .unary, tokens, formula => ∀ rest fuel, 4 * (tokens ++ rest).length + 2 ≤ fuel →
      signed fuel (tokens ++ rest) = .ok (formula, rest)
  | .primary, tokens, formula => ∀ rest fuel, 4 * (tokens ++ rest).length + 1 ≤ fuel →
      operand fuel (tokens ++ rest) = .ok (formula, rest)

/-- Where no operation follows the sum is complete. -/
private theorem sumRest_done {rest : List Token}
    (hrest : ∀ token ∈ rest.head?, looseOperation? token = none) {fuel : Nat}
    (hfuel : 4 * rest.length < fuel) (formula : Formula) :
    sumRest fuel formula rest = .ok (formula, rest) := by
  obtain ⟨fuel, rfl⟩ := Nat.exists_eq_add_one_of_ne_zero (Nat.ne_zero_of_lt hfuel)
  cases rest with
  | nil => rfl
  | cons token rest => simp [sumRest, hrest token rfl]

private theorem productRest_done {rest : List Token} (hrest : EndsTerm rest) {fuel : Nat}
    (hfuel : 4 * rest.length < fuel) (formula : Formula) :
    productRest fuel formula rest = .ok (formula, rest) := by
  obtain ⟨fuel, rfl⟩ := Nat.exists_eq_add_one_of_ne_zero (Nat.ne_zero_of_lt hfuel)
  cases rest with
  | nil => rfl
  | cons token rest => simp [productRest, hrest token rfl]

private theorem looseOperation?_sign {operation : Operation}
    (h : operation.category = .expression) :
    looseOperation? (.symbol operation.sign) = some operation := by
  cases operation <;> first | rfl | cases h

private theorem tightOperation?_sign {operation : Operation} (h : operation.category = .term) :
    tightOperation? (.symbol operation.sign) = some operation := by
  cases operation <;> first | rfl | cases h

/-- Neither a sign nor the end of the tokens begins an operand. -/
private theorem signed_of_primary {tokens : List Token} {formula : Formula}
    (h : Parses .primary tokens formula) (rest : List Token) (fuel : Nat) :
    signed (fuel + 1) (tokens ++ rest) = operand fuel (tokens ++ rest) := by
  cases h <;> rfl

/-- **The reader takes in every tree**, along the grammar. -/
theorem takesIn_of_parses {category : Category} {tokens : List Token} {formula : Formula}
    (h : Parses category tokens formula) : TakesIn category tokens formula := by
  induction h with
  | @expression tokens formula _ ih =>
      intro rest result hrest hmore fuel hfuel
      obtain ⟨fuel, rfl⟩ := Nat.exists_eq_add_of_le' (Nat.le_of_add_left_le hfuel)
      have hproduct : product (fuel + 3) (tokens ++ rest) = .ok (formula, rest) :=
        ih rest _ (fun fuel hfuel => productRest_done hrest hfuel formula) _ (by omega)
      rw [sum, hproduct]
      refine hmore _ ?_
      rw [List.length_append] at hfuel
      omega
  | @sum operation tokens tokens' left right hsign _ _ ih ih' =>
      intro rest result hrest hmore fuel hfuel
      rw [List.append_assoc, List.cons_append] at hfuel ⊢
      -- The sign ends the term before it, and the sum goes on behind it.
      refine ih _ result ?_ (fun fuel hfuel => ?_) fuel hfuel
      · intro token htoken
        obtain rfl := Option.some.inj htoken
        cases operation <;> first | rfl | cases hsign
      · obtain ⟨fuel, rfl⟩ := Nat.exists_eq_add_one_of_ne_zero (Nat.ne_zero_of_lt hfuel)
        rw [List.length_cons] at hfuel
        have hproduct : product fuel (tokens' ++ rest) = .ok (right, rest) :=
          ih' rest _ (fun fuel hfuel => productRest_done hrest hfuel right) _ (by omega)
        rw [sumRest, looseOperation?_sign hsign]
        simp only [hproduct]
        refine hmore _ ?_
        rw [List.length_append] at hfuel
        omega
  | @term tokens formula _ ih =>
      intro rest result hmore fuel hfuel
      obtain ⟨fuel, rfl⟩ := Nat.exists_eq_add_of_le' (Nat.le_of_add_left_le hfuel)
      rw [product, ih rest (fuel + 2) (by omega)]
      refine hmore _ ?_
      rw [List.length_append] at hfuel
      omega
  | @product operation tokens tokens' left right hsign _ _ ih ih' =>
      intro rest result hmore fuel hfuel
      rw [List.append_assoc, List.cons_append] at hfuel ⊢
      refine ih _ result (fun fuel hfuel => ?_) fuel hfuel
      obtain ⟨fuel, rfl⟩ := Nat.exists_eq_add_one_of_ne_zero (Nat.ne_zero_of_lt hfuel)
      rw [List.length_cons] at hfuel
      rw [productRest, tightOperation?_sign hsign]
      simp only [ih' rest fuel (by omega)]
      refine hmore _ ?_
      rw [List.length_append] at hfuel
      omega
  | negated _ ih =>
      intro rest fuel hfuel
      obtain ⟨fuel, rfl⟩ := Nat.exists_eq_add_of_le' (Nat.le_of_add_left_le hfuel)
      rw [List.cons_append, List.length_cons] at hfuel
      rw [List.cons_append, signed, ih rest (fuel + 1) (by omega)]
  | plus _ ih =>
      intro rest fuel hfuel
      obtain ⟨fuel, rfl⟩ := Nat.exists_eq_add_of_le' (Nat.le_of_add_left_le hfuel)
      rw [List.cons_append, List.length_cons] at hfuel
      rw [List.cons_append, signed, ih rest (fuel + 1) (by omega)]
  | unary h ih =>
      intro rest fuel hfuel
      obtain ⟨fuel, rfl⟩ := Nat.exists_eq_add_of_le' (Nat.le_of_add_left_le hfuel)
      rw [signed_of_primary h]
      exact ih rest (fuel + 1) (by omega)
  | number numeral | name n =>
      intro rest fuel hfuel
      obtain ⟨fuel, rfl⟩ := Nat.exists_eq_add_of_le' (Nat.le_of_add_left_le hfuel)
      rfl
  | @enclosed tokens formula _ ih =>
      intro rest fuel hfuel
      obtain ⟨fuel, rfl⟩ := Nat.exists_eq_add_of_le' (Nat.le_of_add_left_le hfuel)
      have hsplit : Token.symbol '(' :: tokens ++ [.symbol ')'] ++ rest
          = .symbol '(' :: (tokens ++ .symbol ')' :: rest) := by simp
      -- The parenthesis that closes ends the sum inside.
      have hinside : sum fuel (tokens ++ .symbol ')' :: rest)
          = .ok (formula, .symbol ')' :: rest) := by
        refine ih (.symbol ')' :: rest) _ ?_ (fun fuel hfuel => sumRest_done ?_ hfuel formula) _ ?_
        · intro token htoken
          obtain rfl := Option.some.inj htoken
          rfl
        · intro token htoken
          obtain rfl := Option.some.inj htoken
          rfl
        · simp only [List.length_append, List.length_cons, List.length_nil] at hfuel ⊢
          omega
      rw [hsplit, operand, hinside]
      rfl

/-- **A text is read as a formula exactly if the grammar has it for the tree** of its
tokens. -/
theorem ofText_eq_ok_iff {t : Text} {formula : Formula} :
    ofText t = .ok formula ↔ Parses .expression (tokens t) formula := by
  refine ⟨parses_of_ofText, fun h => ?_⟩
  have htakes := takesIn_of_parses h [] (.ok (formula, [])) (by simp [EndsTerm])
    (fun fuel hfuel => sumRest_done (by simp) hfuel formula)
  rw [List.append_nil] at htakes
  rw [ofText]
  split
  · rename_i hempty
    rw [hempty] at htakes
    cases htakes _ (Nat.le_refl _)
  · rename_i first rest htokens
    rw [htokens] at htakes
    rw [htakes (enoughFuel (rest.length + 1)) (Nat.le_refl _)]

/-- **The tree is the only one.** -/
theorem Parses.unique {t : Text} {formula formula' : Formula}
    (h : Parses .expression (tokens t) formula) (h' : Parses .expression (tokens t) formula') :
    formula = formula' :=
  Except.ok.inj ((ofText_eq_ok_iff.mpr h).symm.trans (ofText_eq_ok_iff.mpr h'))

end Formula
end Questionnaire
