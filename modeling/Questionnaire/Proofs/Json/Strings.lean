import Questionnaire.Json.Reader
import Questionnaire.Json.Writer
import Mathlib.Tactic.SplitIfs

/-!
# Strings of documents read back

A string is written with escapes for everything outside printable ASCII
(`Escape`), and the reader undoes one escape at a time. Only the escape by a
single unit looks further: the reader checks whether a second unit follows that
would make a pair, so what follows must be well written too (`Continues`).
-/

namespace Questionnaire.Json

open Text

/-! ## Units -/

theorem hexValue?_hexDigit : ∀ d < 16, hexValue? (hexDigit d) = some d := by decide

/-- The four digits of a unit are read as the unit. -/
theorem unit?_hexDigits {n : Nat} (h : n < 0x10000) :
    ∃ a b c d, hexDigits 4 n = [a, b, c, d] ∧ unit? a b c d = some n := by
  refine ⟨hexDigit (n / 16 / 16 / 16 % 16), hexDigit (n / 16 / 16 % 16), hexDigit (n / 16 % 16),
    hexDigit (n % 16), rfl, ?_⟩
  simp only [unit?, hexValue?_hexDigit _ (Nat.mod_lt _ (by decide : 0 < 16)), Option.bind_eq_bind,
    Option.bind_some, Option.pure_def, Option.some.injEq]
  omega

theorem toNat_range (c : Char) : c.toNat < 0xD800 ∨ 0xDFFF < c.toNat ∧ c.toNat < 0x110000 :=
  c.valid

/-- A character of one unit is no half of a pair. -/
theorem unitChar_toNat {c : Char} (h : c.toNat < 0x10000) :
    isHighUnit c.toNat = false ∧ unitChar c.toNat = c := by
  have hrange := toNat_range c
  have hhigh : isHighUnit c.toNat = false := by
    simp only [isHighUnit, Bool.and_eq_false_iff, decide_eq_false_iff_not]
    omega
  have hlow : isLowUnit c.toNat = false := by
    simp only [isLowUnit, Bool.and_eq_false_iff, decide_eq_false_iff_not]
    omega
  refine ⟨hhigh, ?_⟩
  rw [unitChar, hhigh, hlow]
  exact Char.ofNat_toNat c

/-! ## Escapes -/

/-- How a character may stand in a string. -/
inductive Escape (c : Char) : Text → Prop where
  | plain (h : 32 ≤ c.toNat) (hquote : c ≠ '"') (hslash : c ≠ '\\') : Escape c [c]
  | letter {x : Char} (hx : x ≠ 'u') (h : unescape? x = some c) : Escape c ['\\', x]
  | unit (h : c.toNat < 0x10000) : Escape c (unitEscape c.toNat)
  | pair (h : 0x10000 ≤ c.toNat) :
      Escape c (unitEscape (0xD800 + (c.toNat - 0x10000) / 0x400) ++
        unitEscape (0xDC00 + (c.toNat - 0x10000) % 0x400))

theorem escape_escapeChar (c : Char) : Escape c (escapeChar c) := by
  unfold escapeChar
  split_ifs with hself hfeed hreturn htab hback hform hplain hunit
  · rw [Bool.or_eq_true, decide_eq_true_eq, decide_eq_true_eq] at hself
    rcases hself with rfl | rfl <;> exact .letter (by decide) rfl
  · exact hfeed ▸ .letter (by decide) rfl
  · exact hreturn ▸ .letter (by decide) rfl
  · exact htab ▸ .letter (by decide) rfl
  · exact hback ▸ .letter (by decide) rfl
  · exact hform ▸ .letter (by decide) rfl
  · simp only [Bool.or_eq_true, decide_eq_true_eq, not_or] at hself
    simp only [Bool.and_eq_true, decide_eq_true_eq] at hplain
    exact .plain hplain.1 hself.1 hself.2
  · exact .unit hunit
  · exact .pair (by omega)

/-- What follows an escape: if it begins with a unit, the unit has four digits. -/
def Continues (t : Text) : Prop :=
  ∀ e f g h rest, t = '\\' :: 'u' :: e :: f :: g :: h :: rest → (unit? e f g h).isSome = true

theorem continues_string (t rest : Text) : Continues (t.flatMap escapeChar ++ '"' :: rest) := by
  intro e f g h after heq
  cases t with
  | nil => simp at heq
  | cons c t =>
      rw [List.flatMap_cons, List.append_assoc] at heq
      generalize t.flatMap escapeChar ++ '"' :: rest = tail at heq
      generalize hwritten : escapeChar c = written at heq
      cases hwritten ▸ escape_escapeChar c with
      | plain h hquote hslash => exact absurd (List.cons.inj heq).1 hslash
      | letter hx h => exact absurd (List.cons.inj (List.cons.inj heq).2).1 hx
      | unit h =>
          obtain ⟨a, b, c', d, hdigits, hunit⟩ := unit?_hexDigits h
          simp only [unitEscape, hdigits, List.cons_append, List.cons.injEq] at heq
          obtain ⟨-, -, rfl, rfl, rfl, rfl, -⟩ := heq
          rw [hunit]
          rfl
      | pair h =>
          have hc := toNat_range c
          obtain ⟨a, b, c', d, hdigits, hunit⟩ :=
            unit?_hexDigits (n := 0xD800 + (c.toNat - 0x10000) / 0x400) (by omega)
          simp only [unitEscape, hdigits, List.cons_append, List.cons.injEq] at heq
          obtain ⟨-, -, rfl, rfl, rfl, rfl, -⟩ := heq
          rw [hunit]
          rfl

/-- **One escape is read as its character.** -/
theorem readString_escapeChar (read : Text) (c : Char) {rest : Text} (hrest : Continues rest) :
    readString read (escapeChar c ++ rest) = readString (c :: read) rest := by
  generalize hwritten : escapeChar c = written
  cases hwritten ▸ escape_escapeChar c with
  | plain h hquote hslash =>
      have hcontrol : ¬ c.toNat < 32 := by omega
      rw [List.singleton_append, readString.eq_6 read c rest hquote
        (fun _ _ _ _ _ _ _ _ _ h => absurd h hslash) (fun _ _ _ _ _ h => absurd h hslash)
        (fun _ _ h => absurd h hslash)]
      simp [hcontrol, hslash]
  | letter hx h =>
      rw [List.cons_append, List.singleton_append, readString.eq_5 read _ rest
        (fun _ _ _ _ _ _ _ _ _ h => absurd h hx) (fun _ _ _ _ _ h => absurd h hx), h]
      rfl
  | unit h =>
      obtain ⟨a, b, x, d, hdigits, hunit⟩ := unit?_hexDigits h
      obtain ⟨hhigh, hchar⟩ := unitChar_toNat h
      rw [unitEscape, hdigits]
      simp only [List.cons_append, List.nil_append]
      by_cases hpair : ∃ e f g h rest', rest = '\\' :: 'u' :: e :: f :: g :: h :: rest'
      · obtain ⟨e, f, g, h', rest', rfl⟩ := hpair
        obtain ⟨low, hlow⟩ := Option.isSome_iff_exists.mp (hrest e f g h' rest' rfl)
        rw [readString.eq_3, hunit, hlow]
        simp [hhigh, hchar]
      · rw [readString.eq_4 read a b x d rest
          (fun e f g h' rest' heq => hpair ⟨e, f, g, h', rest', heq⟩), hunit, Option.bind_some, hchar]
  | pair h =>
      have hrange := toNat_range c
      obtain ⟨a, b, x, d, hdigits, hunit⟩ :=
        unit?_hexDigits (n := 0xD800 + (c.toNat - 0x10000) / 0x400) (by omega)
      obtain ⟨e, f, g, y, hdigits', hunit'⟩ :=
        unit?_hexDigits (n := 0xDC00 + (c.toNat - 0x10000) % 0x400) (by omega)
      have hhigh : isHighUnit (0xD800 + (c.toNat - 0x10000) / 0x400) = true := by
        simp only [isHighUnit, Bool.and_eq_true, decide_eq_true_eq]
        omega
      have hlow : isLowUnit (0xDC00 + (c.toNat - 0x10000) % 0x400) = true := by
        simp only [isLowUnit, Bool.and_eq_true, decide_eq_true_eq]
        omega
      have hchar : 0x10000 + (0xD800 + (c.toNat - 0x10000) / 0x400 - 0xD800) * 0x400 +
          (0xDC00 + (c.toNat - 0x10000) % 0x400 - 0xDC00) = c.toNat := by
        omega
      rw [unitEscape, unitEscape, hdigits, hdigits']
      simp only [List.cons_append, List.nil_append]
      rw [readString.eq_3, hunit, hunit']
      simp only [hhigh, hlow, Bool.and_self, if_true, hchar]
      rw [Char.ofNat_toNat]

/-- **A string is read as its text**, and what follows it is left. -/
theorem readString_string (read t rest : Text) :
    readString read (t.flatMap escapeChar ++ '"' :: rest) = some (read.reverse ++ t, rest) := by
  induction t generalizing read with
  | nil => simp [readString]
  | cons c t ih =>
      rw [List.flatMap_cons, List.append_assoc, readString_escapeChar read c (continues_string t rest),
        ih, List.reverse_cons, List.append_assoc, List.singleton_append]

end Questionnaire.Json
