import Mathlib.Data.List.Chain
import Questionnaire.Formula.Name
import Questionnaire.Proofs.Formula.Grammar

/-!
# Operands stand apart

Between two operands of a formula there is always a sign (`Writes.apart`), so a
text in which two names stand with nothing but blanks between them is no formula
(`ofText_of_adjacent`).
-/

namespace Questionnaire.Formula

open Text

/-- Whether the token is an operand. -/
def Token.isOperand : Token → Bool
  | .symbol _ => false
  | _ => true

/-- One of the tokens is a sign. -/
def Apart (a b : Token) : Prop := a.isOperand = false ∨ b.isOperand = false

/-- **Two operands of a formula** never stand side by side. -/
theorem Writes.apart {tokens : List Token} {formula : Formula} (h : Writes tokens formula) :
    tokens.IsChain Apart := by
  -- A sign may stand next to anything, so it can be put between two chains.
  have hsign : ∀ (c : Char) {before behind : List Token}, before.IsChain Apart →
      behind.IsChain Apart → (before ++ .symbol c :: behind).IsChain Apart := by
    intro c before behind hbefore hbehind
    refine List.isChain_append.mpr ⟨hbefore, List.isChain_cons.mpr ⟨?_, hbehind⟩, ?_⟩
    · exact fun _ _ => .inl rfl
    · intro a _ b hb
      obtain rfl : Token.symbol c = b := by simpa using hb
      exact .inr rfl
  have hfront : ∀ (c : Char) {behind : List Token}, behind.IsChain Apart →
      (.symbol c :: behind : List Token).IsChain Apart := fun c _ h => hsign c .nil h
  induction h with
  | number numeral => exact List.isChain_singleton _
  | name n => exact List.isChain_singleton _
  | negated _ ih => exact hfront '-' ih
  | plus _ ih => exact hfront '+' ih
  | enclosed _ ih => exact hsign ')' (hfront '(' ih) .nil
  | binary operation _ _ ih ih' => exact hsign operation.sign ih ih'

/-! ## Words between blanks -/

/-- The character goes on with no token that is under way. -/
def Stops (c : Char) : Prop := ∀ pending : Pending, pending.extend? c = none

theorem stops_of_isBlank {c : Char} (h : isBlank c = true) : Stops c := by
  have hpoint : c ≠ '.' := by
    rintro rfl
    exact absurd h (by decide)
  intro pending
  cases pending <;>
    simp [Pending.extend?, isWord_of_isBlank h, isDecimal_of_isBlank h, hpoint]

theorem stops_of_isBlankText {b : Text} (hb : isBlankText b = true) : ∀ c ∈ b.head?, Stops c :=
  fun c hc => stops_of_isBlank (List.all_eq_true.mp hb c (List.mem_of_mem_head? hc))

/-- **The tokens of a text end** where a character goes on with none of them. -/
theorem scan_append_stop {t : Text} (ht : ∀ c ∈ t.head?, Stops c) (pending : Pending) (p : Text) :
    scan pending (p ++ t) = scan pending p ++ scan .nothing t := by
  induction p generalizing pending with
  | nil =>
      cases t with
      | nil => simp only [scan, Pending.close, List.append_nil]
      | cons c t =>
          have hstop := ht c rfl
          simp only [List.nil_append, scan, hstop pending, hstop .nothing]
          simp only [Pending.close, List.nil_append, List.append_assoc]
  | cons d p ih =>
      rw [List.cons_append, scan, scan]
      split
      · exact ih _
      · simp only [ih, List.append_assoc]

/-- Nothing begins with a blank. -/
theorem scan_cons_blank {c : Char} (hc : isBlank c = true) (t : Text) :
    scan .nothing (c :: t) = scan .nothing t := by
  simp [scan, Pending.extend?, Pending.close, Pending.start, hc]

/-- A blank ends what is under way, and nothing begins with it. -/
theorem scan_append_blank {c : Char} (hc : isBlank c = true) (pending : Pending) (p q : Text) :
    scan pending (p ++ c :: q) = scan pending p ++ scan .nothing q := by
  have hhead : ∀ d ∈ (c :: q).head?, Stops d := by
    intro d hd
    obtain rfl := Option.some.inj hd
    exact stops_of_isBlank hc
  rw [scan_append_stop hhead, scan_cons_blank hc]

theorem scan_append_blanks {b : Text} (hb : isBlankText b = true) (t : Text) :
    scan .nothing (b ++ t) = scan .nothing t := by
  induction b with
  | nil => rfl
  | cons c b ih =>
      rw [isBlankText, List.all_cons, Bool.and_eq_true] at hb
      rw [List.cons_append, scan_cons_blank hb.1, ih hb.2]

theorem scan_blanks {b : Text} (hb : isBlankText b = true) : scan .nothing b = [] := by
  simpa [scan, Pending.close] using scan_append_blanks hb []

/-- A name is one token. -/
theorem scan_name {n : Text} (h : isName n = true) : scan .nothing n = [.name n] := by
  have hmore : ∀ (t reversed : Text), t.all isWord = true →
      scan (.name reversed) t = [.name (reversed.reverse ++ t)] := by
    intro t
    induction t with
    | nil => intro reversed _; simp [scan, Pending.close]
    | cons c t ih =>
        intro reversed ht
        rw [List.all_cons, Bool.and_eq_true] at ht
        simp [scan, Pending.extend?, ht.1, ih _ ht.2]
  cases n with
  | nil => cases h
  | cons c n =>
      simp only [isName, isBareWord, List.all_cons, List.head?_cons, Option.map_some,
        Option.getD_some, startsName, Bool.and_eq_true, Bool.not_eq_true'] at h
      obtain ⟨⟨-, hc, hn⟩, -, hdecimal⟩ := h
      have hstart : Pending.start c = ([], .name [c]) := by
        simp [Pending.start, isBlank_of_isWord hc, hdecimal, hc]
      simp [scan, Pending.extend?, Pending.close, hstart, hmore n [c] hn]

/-- **Two names with blanks between them** are no part of a formula. -/
theorem ofText_of_adjacent {p b w b' v : Text} (hb : isBlankText b = true) (hne : b ≠ [])
    (hw : isName w = true) (hb' : isBlankText b' = true) (hne' : b' ≠ []) (hv : isName v = true)
    (formula : Formula) : ofText (p ++ (b ++ (w ++ (b' ++ v)))) ≠ .ok formula := by
  -- The first of the blanks ends a token, and the others are passed over.
  have hgap : ∀ {b : Text}, isBlankText b = true → b ≠ [] → ∀ p q,
      scan .nothing (p ++ (b ++ q)) = scan .nothing p ++ scan .nothing q := by
    intro b hb hne p q
    obtain ⟨c, b, rfl⟩ := List.exists_cons_of_ne_nil hne
    rw [isBlankText, List.all_cons, Bool.and_eq_true] at hb
    rw [List.cons_append, scan_append_blank hb.1, scan_append_blanks hb.2]
  intro h
  have hchain := (ofText_writes h).apart
  rw [tokens, hgap hb hne, hgap hb' hne', scan_name hw, scan_name hv, List.singleton_append,
    List.isChain_append_cons_cons] at hchain
  rcases hchain.2.1 with h | h <;> cases h

end Questionnaire.Formula
