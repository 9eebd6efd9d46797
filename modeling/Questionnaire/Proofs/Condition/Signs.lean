import Questionnaire.Proofs.Condition.Connectives
import Questionnaire.Proofs.Text.Rewriting

/-!
# The signs of a condition

Where a condition is cut. A connective is written as a word that stands alone or
as a mark (`Connective.Joins`), and conditions joined by it stand in a row
(`Connective.row`). Cutting a row gives what stands in it
(`map_trim_splitBy_row`). Writing the keyword operators as symbols neither makes
a connective nor a NOT, and it goes piece by piece (`normalize_append_sign`).
-/

namespace Questionnaire.Condition

open Text

/-- What joins conditions. -/
inductive Connective where
  | or
  | and
deriving DecidableEq, Repr

/-- How a connective is written. -/
inductive Spelling where
  | word
  | mark
deriving DecidableEq, Repr

namespace Connective

/-- The word for a connective. -/
def word : Connective → Text
  | or => "OR".toList
  | and => "AND".toList

/-- The mark for a connective. -/
def mark : Connective → Text
  | or => "||".toList
  | and => "&&".toList

/-- A connective as it is written. -/
def sign (k : Connective) : Spelling → Text
  | .word => k.word
  | .mark => k.mark

/-- The width of a connective with the blanks around it. -/
def width : Connective → Text → Nat
  | or => widthOr
  | and => widthAnd

/-- The connective is somewhere in the text, or would be if the text had blanks around it. -/
def Joins (k : Connective) (t : Text) : Prop := StandsAlone k.word t ∨ k.mark <:+: t

instance (k : Connective) (t : Text) : Decidable (k.Joins t) :=
  inferInstanceAs (Decidable (StandsAlone k.word t ∨ k.mark <:+: t))

/-- The connective is found in the text, or would be if a blank stood before it. -/
def Splits (k : Connective) (t : Text) : Prop :=
  (∃ before after, t = before ++ k.word ++ after ∧ before.getLast?.all isBlank = true ∧
    after.head?.map isBlank = some true) ∨ k.mark <:+: t

/-- The sign may stand between the texts: a word needs blanks, and a mark must not be
taken for longer than it is. -/
def Meets (k : Connective) : Spelling → Text → Text → Prop
  | .word, p, s => p.getLast?.map isBlank = some true ∧ s.head?.map isBlank = some true
  | .mark, p, _ => p.getLast? ≠ k.mark.head?

instance (k : Connective) : (z : Spelling) → (p s : Text) → Decidable (k.Meets z p s)
  | .word, p, s => inferInstanceAs (Decidable
      (p.getLast?.map isBlank = some true ∧ s.head?.map isBlank = some true))
  | .mark, p, _ => inferInstanceAs (Decidable (p.getLast? ≠ k.mark.head?))

/-- Conditions in a row: those with a sign behind them, and the last one. -/
def row (k : Connective) : List (Text × Spelling) → Text → Text
  | [], last => last
  | (p, z) :: rest, last => p ++ k.sign z ++ k.row rest last

/-- The conditions before the last one of a row are there to be seen: none is blank, none is a
row itself, and every sign may stand where it does. -/
def Stands (k : Connective) : List (Text × Spelling) → Text → Prop
  | [], _ => True
  | (p, z) :: rest, last =>
    isBlankText p = false ∧ ¬ k.Joins p ∧ k.Meets z p (k.row rest last) ∧ k.Stands rest last

/-- Whether a row stands is settled condition by condition. -/
def decideStands (k : Connective) : (pieces : List (Text × Spelling)) → (last : Text) →
    Decidable (k.Stands pieces last)
  | [], _ => isTrue trivial
  | (p, z) :: rest, last =>
    have := k.decideStands rest last
    inferInstanceAs (Decidable (isBlankText p = false ∧ ¬ k.Joins p ∧
      k.Meets z p (k.row rest last) ∧ k.Stands rest last))

instance (k : Connective) (pieces : List (Text × Spelling)) (last : Text) :
    Decidable (k.Stands pieces last) := k.decideStands pieces last

variable (k : Connective)

/-! ## The characters of the signs -/

theorem width_eq (t : Text) : k.width t =
    match widthSpaced k.word t with
    | 0 => widthLoose k.mark t
    | width => width := by
  cases k <;> rfl

theorem isBlank_of_mem_word {c : Char} (h : c ∈ k.word) : isBlank c = false := by
  have hall : k.word.all (fun c => !isBlank c) = true := by cases k <;> decide
  simpa using List.all_eq_true.mp hall c h

theorem word_ne_nil : k.word ≠ [] := by cases k <;> simp [word]

theorem mark_eq : ∃ d, k.mark = [d, d] ∧ isBlank d = false ∧ d ∉ k.word := by
  cases k with
  | or => exact ⟨'|', by decide⟩
  | and => exact ⟨'&', by decide⟩

/-! ## Cutting a row -/

variable {k}

/-- What cuts a text joins what is in it. -/
theorem Splits.joins {t : Text} (h : k.Splits t) : k.Joins t := by
  rcases h with ⟨before, after, hsplit, hbefore, hafter⟩ | hmark
  · exact .inl ⟨before, after, hsplit, hbefore, all_isBlank_of_map hafter⟩
  · exact .inr hmark

/-- A text that is no row is not cut. -/
theorem width_eq_zero {t : Text} (h : ¬ k.Splits t) : ∀ s, s <:+ t → k.width s = 0 := by
  rintro s ⟨p, rfl⟩
  have hword : widthSpaced k.word s = 0 := by
    by_cases hne : widthSpaced k.word s = 0
    · exact hne
    · obtain ⟨before, after, rest, rfl, hb, ha, hbefore, hafter, _⟩ := widthSpaced_spec hne
      refine absurd (Or.inl ⟨p ++ before, after ++ rest, by simp, ?_, ?_⟩) h
      · rw [getLast?_append_of_ne_nil _ hb]
        exact getLast?_all_of_isBlankText hbefore
      · rw [head?_append_of_ne_nil ha]
        exact head?_of_isBlankText ha hafter
  rw [width_eq, hword]
  exact widthLoose_eq_zero (fun hmark => h (.inr hmark)) s (List.suffix_append p s)

theorem splitBy_of_not_splits {t : Text} (h : ¬ k.Splits t) : splitBy k.width t = [t] :=
  splitBy_of_no_match (width_eq_zero h)

theorem head?_sign (z : Spelling) (s : Text) {c : Char} (h : (k.sign z ++ s).head? = some c) :
    isBlank c = false := by
  obtain ⟨d, hmark, hd, _⟩ := k.mark_eq
  cases z with
  | word =>
      refine k.isBlank_of_mem_word (List.mem_of_head? ?_)
      rwa [sign, head?_append_of_ne_nil k.word_ne_nil] at h
  | mark =>
      simp only [sign, hmark, List.cons_append, List.head?_cons, Option.some.injEq] at h
      exact h ▸ hd

/-- The sign that stands between two texts is found there. -/
theorem width_sign {z : Spelling} {b s : Text} (hb : isBlankText b = true)
    (hmeets : z = .word → b ≠ [] ∧ s.head?.map isBlank = some true) :
    k.width (b ++ (k.sign z ++ s)) = b.length + (k.sign z).length + blanks s := by
  obtain ⟨d, hmark, hd, hword⟩ := k.mark_eq
  have hhead := fun c => head?_sign (k := k) z s (c := c)
  rw [width_eq]
  cases z with
  | word =>
      obtain ⟨hne, hs⟩ := hmeets rfl
      have hlength : b.length ≠ 0 := by simpa using hne
      simp only [sign] at hhead ⊢
      rw [widthSpaced_between hb hne hhead (blanks_ne_zero hs)]
      split
      · omega
      · rfl
  | mark =>
      simp only [sign] at hhead ⊢
      rw [widthLoose_behind hb hhead, hmark, List.cons_append,
        widthSpaced_of_not_mem hb k.word_ne_nil hd hword]
      rfl

/-- What follows blanks from within a text that does not end with one ends within the text,
or it has parts on both sides of its end. -/
theorem within_or_beyond {q s l x rest : Text} (hne : q ≠ [])
    (hlast : q.getLast?.map isBlank ≠ some true) (hl : isBlankText l = true)
    (h : q ++ s = l ++ (x ++ rest)) :
    (∃ m, q = l ++ x ++ m ∧ rest = m ++ s) ∨
      ∃ m e, q = l ++ m ∧ m ≠ [] ∧ e ≠ [] ∧ x = m ++ e ∧ s = e ++ rest := by
  have hnot : ∀ a, l ≠ q ++ a := by
    rintro a rfl
    rw [isBlankText_append, Bool.and_eq_true] at hl
    exact hlast (getLast?_of_isBlankText hne hl.1)
  rcases List.append_eq_append_iff.mp h with ⟨a, ha, _⟩ | ⟨m, rfl, hm⟩
  · exact absurd ha (hnot a)
  · have hm' : m ≠ [] := by
      rintro rfl
      exact hnot [] (by simp)
    rcases List.append_eq_append_iff.mp hm with ⟨a, rfl, rfl⟩ | ⟨e, rfl, rfl⟩
    · exact .inl ⟨a, by simp, rfl⟩
    · by_cases he : e = []
      · exact .inl ⟨[], by simp [he], by simp [he]⟩
      · exact .inr ⟨m, e, rfl, hm', he, rfl, rfl⟩

/-- A sign that begins before the end and reaches beyond it leaves no blanks in between. -/
theorem eq_nil_of_head {b s e rest : Text} {c : Char} (hb : isBlankText b = true)
    (h : b ++ s = c :: e ++ rest) (hc : isBlank c = false) : b = [] := by
  cases b with
  | nil => rfl
  | cons f b =>
      simp only [List.cons_append, List.cons.injEq] at h
      rw [isBlankText, List.all_cons, h.1, hc] at hb
      cases hb

section BeforeSign

variable {z : Spelling} {first q b s : Text} (j : Connective)

theorem mark_not_mem_word {c : Char} (h : c ∈ k.mark) : c ∉ j.word := by
  have hall : ∀ k j : Connective, k.mark.all (fun c => !j.word.contains c) = true := by
    intro k j
    cases k <;> cases j <;> decide
  simpa using List.all_eq_true.mp (hall k j) c h

/-- The word for a connective is found nowhere in what stands before a sign. -/
theorem widthSpaced_before_sign (hsplits : ¬ j.Splits (first ++ q ++ b))
    (hmeets : k.Meets z (first ++ q ++ b) s) (hb : isBlankText b = true) (hne : q ≠ [])
    (hlast : q.getLast?.map isBlank ≠ some true) :
    widthSpaced j.word (q ++ (b ++ (k.sign z ++ s))) = 0 := by
  obtain ⟨d, hmark, hd, -⟩ := k.mark_eq
  by_cases hzero : widthSpaced j.word (q ++ (b ++ (k.sign z ++ s))) = 0
  · exact hzero
  obtain ⟨l, r, rest, heq, hl, hr, hlb, hrb, _⟩ := widthSpaced_spec hzero
  rw [List.append_assoc, List.append_assoc] at heq
  rcases within_or_beyond hne hlast hlb heq with ⟨m, rfl, hm⟩ | ⟨m, e, rfl, hm, he, hx, hs⟩
  · -- It stands alone in what stands before the sign.
    refine absurd (Or.inl ⟨first ++ l, m ++ b, by simp, ?_, ?_⟩) hsplits
    · rw [getLast?_append_of_ne_nil _ hl]
      exact getLast?_all_of_isBlankText hlb
    · have hhead := head?_of_isBlankText hr hrb
      rw [← head?_append_of_ne_nil hr rest, hm, ← List.append_assoc] at hhead
      by_cases hnil : m ++ b = []
      · rw [hnil, List.nil_append] at hhead
        obtain ⟨c, hc, hblank⟩ := Option.map_eq_some_iff.mp hhead
        rw [head?_sign z s hc] at hblank
        cases hblank
      · rwa [head?_append_of_ne_nil hnil] at hhead
  · -- Its end is the beginning of the sign, and the sign has no blank before it.
    obtain ⟨c, e, rfl⟩ := List.exists_cons_of_ne_nil he
    have hc : c ∈ j.word := by simp [hx]
    obtain rfl := eq_nil_of_head hb hs (j.isBlank_of_mem_word hc)
    cases z with
    | word =>
        obtain ⟨hedge, _⟩ := hmeets
        rw [List.append_nil, getLast?_append_of_ne_nil _ hne] at hedge
        exact absurd hedge hlast
    | mark =>
        simp only [sign, hmark, List.nil_append, List.cons_append, List.cons.injEq] at hs
        exact absurd hc (mark_not_mem_word (k := k) j (by simp [hmark, hs.1]))

/-- The mark for a connective is found nowhere in what stands before a sign. -/
theorem widthLoose_before_sign (hsplits : ¬ j.Splits (first ++ q ++ b))
    (hmeets : k.Meets z (first ++ q ++ b) s) (hb : isBlankText b = true) (hne : q ≠ [])
    (hlast : q.getLast?.map isBlank ≠ some true) :
    widthLoose j.mark (q ++ (b ++ (k.sign z ++ s))) = 0 := by
  obtain ⟨d, hmark, hd, _⟩ := j.mark_eq
  by_cases hzero : widthLoose j.mark (q ++ (b ++ (k.sign z ++ s))) = 0
  · exact hzero
  obtain ⟨l, r, rest, heq, hlb, hrb, _⟩ := widthLoose_spec hzero
  rw [List.append_assoc, List.append_assoc] at heq
  rcases within_or_beyond hne hlast hlb heq with ⟨m, rfl, hm⟩ | ⟨m, e, rfl, hm, he, hx, hs⟩
  · exact absurd (Or.inr ⟨first ++ l, m ++ b, by simp⟩) hsplits
  · -- One character of it ends what stands before the sign, and there may be no such end.
    obtain ⟨c, e, rfl⟩ := List.exists_cons_of_ne_nil he
    obtain ⟨f, m, rfl⟩ := List.exists_cons_of_ne_nil hm
    simp only [hmark, List.cons_append, List.cons.injEq] at hx
    obtain ⟨rfl, hx⟩ := hx
    obtain ⟨rfl, rfl, rfl⟩ : m = [] ∧ c = d ∧ e = [] := by
      cases m with
      | nil => simp_all
      | cons g m => simp at hx
    obtain rfl := eq_nil_of_head hb hs hd
    cases z with
    | word =>
        obtain ⟨hedge, _⟩ := hmeets
        rw [List.append_nil, getLast?_append_of_ne_nil _ hne] at hedge
        exact absurd hedge hlast
    | mark =>
        have hhead : k.mark.head? = some c := by
          obtain ⟨g, hg, -⟩ := k.mark_eq
          simp only [sign, hg, List.nil_append, List.cons_append, List.cons.injEq] at hs
          rw [hg, hs.1]
          rfl
        exact absurd (by simp [hhead, ← List.append_assoc]) hmeets

end BeforeSign

/-- **What stands before a sign is cut off there**, if the separator is found at the sign and
not before. -/
theorem splitBy_of_width {width : Text → Nat} {z : Spelling} {p s : Text}
    (hp : isBlankText p = false) (hmeets : k.Meets z p s)
    (hwidth : ∀ b, isBlankText b = true → (z = .word → b ≠ [] ∧ s.head?.map isBlank = some true) →
      width (b ++ (k.sign z ++ s)) = b.length + (k.sign z).length + blanks s)
    (hbefore : ∀ first q b, p = first ++ q ++ b → isBlankText b = true → q ≠ [] →
      q.getLast?.map isBlank ≠ some true → width (q ++ (b ++ (k.sign z ++ s))) = 0) :
    splitBy width (p ++ k.sign z ++ s) = trimRight p :: splitBy width (trimLeft s) := by
  obtain ⟨b, hsplit, hb, hlast⟩ := trimRight_spec p
  have hne := trimRight_ne_nil hp
  generalize trimRight p = y at hsplit hlast hne ⊢
  subst hsplit
  have hedge : y.getLast?.map isBlank ≠ some true := by
    cases hy : y.getLast? with
    | none => simp
    | some c => simp [hlast c hy]
  have hfound := hwidth b hb (by
    rintro rfl
    refine ⟨?_, hmeets.2⟩
    rintro rfl
    rw [List.append_nil] at hmeets
    exact hedge hmeets.1)
  have hsign : (k.sign z).length ≠ 0 := by
    cases z <;> cases k <;> decide
  have hnil : b ++ (k.sign z ++ s) ≠ [] := by
    intro hnil
    simp_all
  have hnone : ∀ q, q ≠ [] → q <:+ y → width (q ++ (b ++ (k.sign z ++ s))) = 0 := by
    rintro q hq ⟨first, rfl⟩
    rw [getLast?_append_of_ne_nil _ hq] at hedge
    exact hbefore first q b rfl hb hq hedge
  have hcut := splitBy_append hnil hnone (by omega)
  rw [hfound, ← List.append_assoc b, List.drop_append, ← List.length_append,
    List.drop_of_length_le (by omega)] at hcut
  simpa [drop_blanks] using hcut

/-- The first condition of a row is cut off at the sign behind it. -/
theorem splitBy_sign {z : Spelling} {p s : Text} (hp : isBlankText p = false)
    (hsplits : ¬ k.Splits p) (hmeets : k.Meets z p s) :
    splitBy k.width (p ++ k.sign z ++ s) = trimRight p :: splitBy k.width (trimLeft s) := by
  refine splitBy_of_width hp hmeets (fun b hb => width_sign hb)
    fun first q b hsplit hb hq hedge => ?_
  rw [hsplit] at hsplits hmeets
  rw [width_eq, widthSpaced_before_sign k hsplits hmeets hb hq hedge]
  exact widthLoose_before_sign k hsplits hmeets hb hq hedge

/-- Leading blanks are no part of a row. -/
theorem trimLeft_row {z : Spelling} {p : Text} (hp : isBlankText p = false)
    (rest : List (Text × Spelling)) (last : Text) :
    trimLeft (k.row ((p, z) :: rest) last) = k.row ((trimLeft p, z) :: rest) last := by
  rw [row, row, List.append_assoc, List.append_assoc, trimLeft_append_of_not_blank hp]

theorem Joins.of_trimLeft {t : Text} (h : k.Joins (trimLeft t)) : k.Joins t := by
  obtain ⟨before, hsplit, hblank, _⟩ := trimLeft_spec t
  rw [hsplit]
  rcases h with h | h
  · exact .inl (h.append_left hblank)
  · exact .inr (h.trans (List.suffix_append _ _).isInfix)

theorem Joins.of_trimRight {t : Text} (h : k.Joins (trimRight t)) : k.Joins t := by
  obtain ⟨after, hsplit, hblank, _⟩ := trimRight_spec t
  rw [hsplit]
  rcases h with h | h
  · exact .inl (h.append_right hblank)
  · exact .inr (h.trans (List.prefix_append _ _).isInfix)

theorem Meets.trimLeft {z : Spelling} {p s : Text} (hp : isBlankText p = false)
    (h : k.Meets z p s) : k.Meets z (trimLeft p) s := by
  cases z with
  | word => exact ⟨getLast?_trimLeft hp ▸ h.1, h.2⟩
  | mark =>
      rw [Meets, getLast?_trimLeft hp]
      exact h

theorem Meets.trimRight {z : Spelling} {p s : Text} (hs : isBlankText s = false)
    (h : k.Meets z p s) : k.Meets z p (trimRight s) := by
  cases z with
  | word => exact ⟨h.1, head?_trimRight hs ▸ h.2⟩
  | mark => exact h

theorem Stands.trimLeft {z : Spelling} {p last : Text} {rest : List (Text × Spelling)}
    (h : k.Stands ((p, z) :: rest) last) : k.Stands ((trimLeft p, z) :: rest) last :=
  ⟨by rw [isBlankText_trimLeft, h.1], fun hjoins => h.2.1 hjoins.of_trimLeft,
    h.2.2.1.trimLeft h.1, h.2.2.2⟩

/-- **Cutting a row** gives what stands in it, and the pieces of its end. -/
theorem map_trim_splitBy_row {p last : Text} {z : Spelling} {rest : List (Text × Spelling)}
    (h : k.Stands ((p, z) :: rest) last) :
    (splitBy k.width (k.row ((p, z) :: rest) last)).map trim
      = ((p, z) :: rest).map (fun piece => trim piece.1)
        ++ (splitBy k.width (trimLeft last)).map trim := by
  induction rest generalizing p z with
  | nil =>
      rw [row, splitBy_sign h.1 (mt Splits.joins h.2.1) h.2.2.1, List.map_cons, trim_trimRight]
      rfl
  | cons next rest ih =>
      obtain ⟨q, w⟩ := next
      rw [row, splitBy_sign h.1 (mt Splits.joins h.2.1) h.2.2.1, trimLeft_row h.2.2.2.1,
        List.map_cons, trim_trimRight, ih h.2.2.2.trimLeft]
      simp [trim_trimLeft]

end Connective

end Questionnaire.Condition
