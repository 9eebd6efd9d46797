import Questionnaire.Proofs.Decimal.Notation
import Questionnaire.Json.Reader
import Questionnaire.Json.Writer

/-!
# Bare words of documents read back

Spaces are passed over before a value, and a bare word goes on to the first
character that cannot be part of it. A whole number is such a word, and no
constant, so it is read as the number.
-/

namespace Questionnaire.Json

open Text Decimal

/-! ## Spaces -/

theorem skipSpace_cons {c : Char} (h : isSpace c = false) (t : Text) :
    skipSpace (c :: t) = c :: t := by
  simp [skipSpace, h]

theorem skipSpace_newLine (depth : Nat) (t : Text) :
    skipSpace (newLine depth ++ t) = skipSpace t := by
  have hline : isSpace '\n' = true := by decide
  have hspaces : ∀ n, skipSpace (List.replicate n ' ' ++ t) = skipSpace t := by
    intro n
    induction n with
    | zero => rfl
    | succ n ih => rw [List.replicate_succ, List.cons_append, ← ih]; rfl
  rw [newLine, List.cons_append, ← hspaces (2 * depth)]
  exact List.dropWhile_cons_of_pos hline

theorem readValue_congr {word : Text → Option Value} {fuel : Nat} {t t' : Text}
    (h : skipSpace t = skipSpace t') : readValue word fuel t = readValue word fuel t' := by
  cases fuel with
  | zero => rw [readValue, readValue]
  | succ fuel => rw [readValue, readValue, h]

/-! ## Bare words -/

/-- What may follow a bare word: nothing that goes on with it. -/
def Ends (t : Text) : Prop := ∀ c, t.head? = some c → isWordChar c = false

theorem ends_newLine (depth : Nat) (t : Text) : Ends (newLine depth ++ t) := by
  intro c h
  obtain rfl : '\n' = c := Option.some.inj h
  decide

theorem ends_cons {c : Char} (h : isWordChar c = false) (t : Text) : Ends (c :: t) := by
  intro d hd
  obtain rfl : c = d := Option.some.inj hd
  exact h

theorem span_word {w rest : Text} (hw : ∀ c ∈ w, isWordChar c = true) (hrest : Ends rest) :
    (w ++ rest).takeWhile isWordChar = w ∧ (w ++ rest).dropWhile isWordChar = rest := by
  rw [List.takeWhile_append_of_pos hw, List.dropWhile_append_of_pos hw]
  cases rest with
  | nil => simp
  | cons c rest => simp [hrest c rfl]

theorem isSpace_of_isWordChar {c : Char} (h : isWordChar c = true) : isSpace c = false := by
  have hne : ∀ d, isWordChar d = false → c ≠ d := by
    rintro d hd rfl
    rw [h] at hd
    cases hd
  simp [isSpace, hne ' ' (by decide), hne '\t' (by decide), hne '\n' (by decide),
    hne '\r' (by decide)]

/-- **A bare word is read as its value.** -/
theorem readValue_word {word : Text → Option Value} {w : Text} {value : Value}
    (hw : ∀ c ∈ w, isWordChar c = true) (hne : w ≠ []) (hvalue : word w = some value) (fuel : Nat)
    {rest : Text} (hrest : Ends rest) :
    readValue word (fuel + 1) (w ++ rest) = some (value, rest) := by
  obtain ⟨c, w', rfl⟩ := List.exists_cons_of_ne_nil hne
  have hc : isWordChar c = true := hw c List.mem_cons_self
  have hne : ∀ d, isWordChar d = false → c ≠ d := by
    rintro d hd rfl
    rw [hc] at hd
    cases hd
  have hspace : isSpace c = false := isSpace_of_isWordChar hc
  obtain ⟨htake, hdrop⟩ := span_word hw hrest
  rw [readValue, List.cons_append, skipSpace_cons hspace]
  rw [List.cons_append] at htake hdrop
  split
  · rename_i h; exact absurd (List.cons.inj h).1 (hne _ (by decide))
  · rename_i h; exact absurd (List.cons.inj h).1 (hne _ (by decide))
  · rename_i h; exact absurd (List.cons.inj h).1 (hne _ (by decide))
  · rw [htake, hdrop, hvalue]
    rfl

theorem isWordChar_of_isDigit {c : Char} (h : c.isDigit = true) : isWordChar c = true := by
  simp [isWordChar, Char.isAlphanum, h]

theorem eq_or_isDigit_of_mem_writeInt {n : Int} {c : Char} (h : c ∈ writeInt n) :
    c = '-' ∨ c.isDigit = true := by
  unfold writeInt at h
  split at h
  · exact (List.mem_cons.mp h).imp id isDigit_of_mem_writeNat
  · exact .inr (isDigit_of_mem_writeNat h)

theorem magnitude?_writeNat (n : Nat) : magnitude? (writeNat n) = some (.inl n) := by
  have hdigits : ∀ c ∈ writeNat n, c.isDigit = true := fun c => isDigit_of_mem_writeNat
  have hwhole : isWholePart (writeNat n) = true := by
    rw [isWholePart, Bool.or_eq_true, decide_eq_true_eq]
    by_cases hn : n = 0
    · subst hn
      exact .inl rfl
    · refine .inr ?_
      have hne : (writeNat n).isEmpty = false := by simpa using writeNat_ne_nil n
      simp only [hne, head?_writeNat hn, List.all_eq_true.mpr hdigits, Bool.not_false,
        Bool.and_true, ne_eq, not_false_iff, decide_true]
  simp [magnitude?, takeWhile_writeNat, dropWhile_writeNat, hwhole, digitsValue_writeNat]

theorem number?_writeInt (n : Int) : number? (writeInt n) = some (.int n) := by
  unfold writeInt
  split
  · rename_i hneg
    simp only [number?, magnitude?_writeNat, Option.map_some, Option.some.injEq, Value.int.injEq]
    omega
  · rename_i hneg
    have hhead : ∀ t, writeNat n.natAbs ≠ '-' :: t := by
      intro t heq
      have : ('-' : Char).isDigit = true := isDigit_of_mem_writeNat (heq ▸ List.mem_cons_self)
      simp at this
    rw [number?.eq_2 _ hhead, magnitude?_writeNat]
    simp only [Option.map_some, Option.some.injEq, Value.int.injEq]
    omega

/-- A whole number is no constant, so it is read as a number. -/
theorem documentWord?_writeInt (n : Int) : documentWord? (writeInt n) = some (.int n) := by
  have hne : ∀ w : Text, (∃ c ∈ w, c ≠ '-' ∧ c.isDigit = false) → writeInt n ≠ w := by
    rintro w ⟨c, hc, hdash, hdigit⟩ rfl
    rcases eq_or_isDigit_of_mem_writeInt hc with h | h
    · exact hdash h
    · rw [h] at hdigit
      cases hdigit
  have hconstant : constant? (writeInt n) = none := by
    rw [constant?, if_neg (hne _ ⟨'n', by decide, by decide, by decide⟩),
      if_neg (hne _ ⟨'t', by decide, by decide, by decide⟩),
      if_neg (hne _ ⟨'f', by decide, by decide, by decide⟩)]
  rw [documentWord?, if_neg (hne _ ⟨'N', by decide, by decide, by decide⟩),
    if_neg (hne _ ⟨'I', by decide, by decide, by decide⟩),
    if_neg (hne _ ⟨'I', by decide, by decide, by decide⟩), hconstant, number?_writeInt]
  rfl

end Questionnaire.Json
