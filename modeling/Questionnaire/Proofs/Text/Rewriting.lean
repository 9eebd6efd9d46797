import Questionnaire.Proofs.Text.Alone
import Questionnaire.Proofs.Text.Cut

/-!
# Words written as symbols

What replacing the words between blanks by a symbol does to a text, as a relation
between the two texts (`Rewrites`). What is seen in the new text was there before
or belongs to a symbol that stands for a word (`Rewrites.occurs`), and what has
no part in a word or a blank is still there (`Rewrites.survives`). Where a sign
that is no such word stands between two texts, the one before it and the one
behind it are replaced each on its own (`replaceBy_append_sign`).
-/

namespace Questionnaire.Text

/-- The second text is the first with words between blanks written as the
symbol between two spaces. -/
inductive Rewrites (word symbol : Text) : Text → Text → Prop
  | nil : Rewrites word symbol [] []
  | keep (c : Char) {t u : Text} : Rewrites word symbol t u →
    Rewrites word symbol (c :: t) (c :: u)
  | swap {before after t u : Text} : before ≠ [] → after ≠ [] → isBlankText before = true →
    isBlankText after = true → Rewrites word symbol t u →
    Rewrites word symbol (before ++ word ++ after ++ t) (' ' :: symbol ++ ' ' :: u)

variable {word symbol t u : Text}

theorem rewrites_replaceBy (word symbol t : Text) :
    Rewrites word symbol t (replaceBy (widthSpaced word) (' ' :: symbol ++ [' ']) t) := by
  induction hn : t.length using Nat.strongRecOn generalizing t with
  | ind n ih =>
      cases t with
      | nil => exact .nil
      | cons c t =>
          rw [List.length_cons] at hn
          rw [replaceBy, replaceFrom]
          split
          · exact .keep c (ih t.length (by omega) t rfl)
          · rename_i skip hskip
            obtain ⟨before, after, rest, hsplit, hb, ha, hbefore, hafter, hwidth⟩ :=
              widthSpaced_spec (show widthSpaced word (c :: t) ≠ 0 by omega)
            have hdrop : t.drop skip = rest := by
              have hmatch : (c :: t).drop (widthSpaced word (c :: t)) = rest := by
                rw [hwidth, hsplit, List.drop_left]
              rwa [hskip] at hmatch
            have hlength : rest.length < n := by
              rw [← hdrop, List.length_drop]
              omega
            have hrest := ih rest.length hlength rest rfl
            rw [replaceFrom_skip, hdrop, hsplit]
            simpa [replaceBy] using Rewrites.swap hb ha hbefore hafter hrest

namespace Rewrites

/-! ## What stays the same -/

theorem eq_nil_iff (h : Rewrites word symbol t u) : u = [] ↔ t = [] := by
  cases h with
  | nil => simp
  | keep => simp
  | swap hb => simp [hb]

theorem isBlankText_eq (h : Rewrites word symbol t u) (hword : isBlankText word = false)
    (hsymbol : isBlankText symbol = false) : isBlankText u = isBlankText t := by
  induction h with
  | nil => rfl
  | keep c _ ih =>
      rw [isBlankText, isBlankText] at ih ⊢
      rw [List.all_cons, List.all_cons, ih]
  | swap _ _ _ _ _ _ =>
      rw [isBlankText] at hword hsymbol
      simp [isBlankText, hword, hsymbol, isBlank]

theorem head?_eq (h : Rewrites word symbol t u) :
    u.head?.map isBlank = t.head?.map isBlank := by
  cases h with
  | nil => rfl
  | keep => rfl
  | swap hb _ hbefore =>
      rw [List.append_assoc, List.append_assoc, head?_append_of_ne_nil hb]
      exact (head?_of_isBlankText hb hbefore).symm

theorem head?_space (h : Rewrites word symbol t u) (ht : t.head? = some ' ') :
    u.head? = some ' ' := by
  cases h with
  | nil => exact ht
  | keep => exact ht
  | swap => rfl

theorem getLast?_eq (h : Rewrites word symbol t u) :
    u.getLast?.map isBlank = t.getLast?.map isBlank := by
  induction h with
  | nil => rfl
  | @keep c t u h ih =>
      by_cases ht : t = []
      · rw [h.eq_nil_iff.mpr ht, ht]
      · have hu := mt h.eq_nil_iff.mp ht
        rw [← List.singleton_append, ← List.singleton_append (l := t),
          getLast?_append_of_ne_nil _ ht, getLast?_append_of_ne_nil _ hu, ih]
  | @swap before after t u _ ha _ hafter h ih =>
      by_cases ht : t = []
      · rw [h.eq_nil_iff.mpr ht, ht, List.append_nil, getLast?_append_of_ne_nil _ ha,
          getLast?_append_of_ne_nil _ (by simp)]
        exact (getLast?_of_isBlankText ha hafter).symm
      · have hu := mt h.eq_nil_iff.mp ht
        rw [List.append_cons, getLast?_append_of_ne_nil _ ht, getLast?_append_of_ne_nil _ hu, ih]

/-- There is no room for the word and blanks around it in one character. -/
theorem eq_of_singleton {c : Char} (h : Rewrites word symbol [c] u) : u = [c] := by
  generalize ht : [c] = t at h
  cases h with
  | nil => cases ht
  | keep d h =>
      obtain ⟨rfl, hnil⟩ := List.cons.inj ht
      rw [h.eq_nil_iff.mpr hnil.symm, ← hnil]
  | swap hb ha =>
      have hlength := congrArg List.length ht
      have := List.length_pos_iff.mpr hb
      have := List.length_pos_iff.mpr ha
      simp only [List.length_append, List.length_singleton] at hlength
      omega

/-! ## Where things stand -/

/-- What a text begins with before its first blank, it began with before. -/
theorem of_append {x v : Text} (hx : ∀ c ∈ x, isBlank c = false)
    (h : Rewrites word symbol t (x ++ v)) :
    ∃ s, t = x ++ s ∧ Rewrites word symbol s v := by
  induction x generalizing t with
  | nil => exact ⟨t, rfl, h⟩
  | cons c x ih =>
      have hc := hx c List.mem_cons_self
      generalize hu : c :: x ++ v = u at h
      cases h with
      | nil => simp at hu
      | keep d h =>
          simp only [List.cons_append, List.cons.injEq] at hu
          obtain ⟨rfl, rfl⟩ := hu
          obtain ⟨s, rfl, hs⟩ := ih (fun e he => hx e (List.mem_cons_of_mem _ he)) h
          exact ⟨s, rfl, hs⟩
      | swap =>
          simp only [List.cons_append, List.cons.injEq] at hu
          rw [hu.1] at hc
          exact absurd hc (by decide)

/-- **Where things come from.** What stands in the new text stood in the old one,
or it is part of a symbol, and then the word stood there. -/
theorem occurs {x before after : Text} (hx : x ≠ []) (hblank : ∀ c ∈ x, isBlank c = false)
    (h : Rewrites word symbol t (before ++ x ++ after)) :
    (∃ b a, t = b ++ x ++ a ∧ Rewrites word symbol b before ∧ Rewrites word symbol a after) ∨
      ∃ front back b l r a b' a', symbol = front ++ x ++ back ∧ before = b' ++ ' ' :: front ∧
        after = back ++ ' ' :: a' ∧ t = b ++ (l ++ word ++ r) ++ a ∧ l ≠ [] ∧ r ≠ [] ∧
        isBlankText l = true ∧ isBlankText r = true ∧ Rewrites word symbol b b' ∧
        Rewrites word symbol a a' := by
  obtain ⟨d, x, rfl⟩ := List.exists_cons_of_ne_nil hx
  have hspace : ' ' ∉ d :: x := fun hmem => absurd (hblank ' ' hmem) (by decide)
  have hd : d ≠ ' ' := fun hd => hspace (by simp [hd])
  generalize hu : before ++ d :: x ++ after = u at h
  induction h generalizing before with
  | nil => simp at hu
  | @keep c t u h ih =>
      cases before with
      | nil =>
          simp only [List.nil_append, List.cons_append, List.cons.injEq] at hu
          obtain ⟨rfl, rfl⟩ := hu
          obtain ⟨s, rfl, hs⟩ := h.of_append fun e he => hblank e (List.mem_cons_of_mem _ he)
          exact .inl ⟨[], s, rfl, .nil, hs⟩
      | cons e before =>
          simp only [List.cons_append, List.cons.injEq] at hu
          obtain ⟨rfl, hu⟩ := hu
          rcases ih hu with ⟨b, a, rfl, hb, ha⟩ |
            ⟨front, back, b, l, r, a, b', a', h1, rfl, h3, rfl, h5, h6, h7, h8, hb, ha⟩
          · exact .inl ⟨e :: b, a, rfl, .keep e hb, ha⟩
          · exact .inr ⟨front, back, e :: b, l, r, a, e :: b', a', h1, rfl, h3, rfl, h5, h6, h7,
              h8, .keep e hb, ha⟩
  | @swap l r t u hl hr hbl hbr h ih =>
      cases before with
      | nil =>
          simp only [List.nil_append, List.cons_append, List.cons.injEq] at hu
          exact absurd hu.1 hd
      | cons e before =>
          simp only [List.cons_append, List.append_assoc, List.cons.injEq] at hu
          obtain ⟨rfl, hu⟩ := hu
          -- It ends within the symbol or begins behind it; the space in between is not part of it.
          rcases List.append_eq_append_iff.mp hu with ⟨m, rfl, hm⟩ | ⟨m, rfl, hm⟩
          · rw [← List.cons_append] at hm
            rcases List.append_eq_append_iff.mp hm with ⟨k, rfl, rfl⟩ | ⟨k, hx', hk⟩
            · exact .inr ⟨before, k, [], l, r, t, [], u, by simp, rfl, rfl, by simp, hl, hr, hbl,
                hbr, .nil, h⟩
            · cases k with
              | nil =>
                  rw [List.append_nil] at hx'
                  rw [List.nil_append] at hk
                  exact .inr ⟨before, [], [], l, r, t, [], u, by simp [hx'], rfl, hk.symm,
                    by simp, hl, hr, hbl, hbr, .nil, h⟩
              | cons f k =>
                  rw [List.cons_append, List.cons.injEq] at hk
                  exact absurd (by simp [hx', ← hk.1]) hspace
          · cases m with
            | nil =>
                rw [List.nil_append, List.cons.injEq] at hm
                exact absurd hm.1.symm hd
            | cons f m =>
                simp only [List.cons_append, List.cons.injEq] at hm
                obtain ⟨rfl, rfl⟩ := hm
                rcases @ih m (by simp) with ⟨b, a, rfl, hb, ha⟩ |
                  ⟨front, back, b, l', r', a, b', a', h1, rfl, h3, rfl, h5, h6, h7, h8, hb, ha⟩
                · exact .inl ⟨l ++ word ++ r ++ b, a, by simp, .swap hl hr hbl hbr hb, ha⟩
                · exact .inr ⟨front, back, l ++ word ++ r ++ b, l', r', a,
                    ' ' :: symbol ++ ' ' :: b', a', h1, by simp, h3, by simp, h5, h6, h7, h8,
                    .swap hl hr hbl hbr hb, ha⟩

/-- What a text begins with before its first blank, it still begins with. -/
theorem append_of {x s : Text} (hx : ∀ c ∈ x, isBlank c = false)
    (h : Rewrites word symbol (x ++ s) u) :
    ∃ v, u = x ++ v ∧ Rewrites word symbol s v := by
  induction x generalizing u with
  | nil => exact ⟨u, rfl, h⟩
  | cons c x ih =>
      have hc := hx c List.mem_cons_self
      generalize ht : c :: x ++ s = t at h
      cases h with
      | nil => simp at ht
      | keep d h =>
          simp only [List.cons_append, List.cons.injEq] at ht
          obtain ⟨rfl, rfl⟩ := ht
          obtain ⟨v, rfl, hv⟩ := ih (fun e he => hx e (List.mem_cons_of_mem _ he)) h
          exact ⟨v, rfl, hv⟩
      | swap hb _ hbefore =>
          obtain ⟨d, before, rfl⟩ := List.exists_cons_of_ne_nil hb
          simp only [List.cons_append, List.cons.injEq] at ht
          rw [isBlankText, List.all_cons, ← ht.1, hc] at hbefore
          cases hbefore

/-- **What survives.** What has no part in blanks or the word is still there. -/
theorem survives {x before after : Text} (hx : x ≠ [])
    (hapart : ∀ c ∈ x, isBlank c = false ∧ c ∉ word)
    (h : Rewrites word symbol (before ++ x ++ after) u) :
    ∃ b a, u = b ++ x ++ a ∧ Rewrites word symbol before b ∧ Rewrites word symbol after a := by
  obtain ⟨d, x, rfl⟩ := List.exists_cons_of_ne_nil hx
  generalize ht : before ++ d :: x ++ after = t at h
  induction h generalizing before with
  | nil => simp at ht
  | @keep c t u h ih =>
      cases before with
      | nil =>
          simp only [List.nil_append, List.cons_append, List.cons.injEq] at ht
          obtain ⟨rfl, rfl⟩ := ht
          obtain ⟨v, rfl, hv⟩ := h.append_of fun e he => (hapart e (List.mem_cons_of_mem _ he)).1
          exact ⟨[], v, rfl, .nil, hv⟩
      | cons e before =>
          simp only [List.cons_append, List.cons.injEq] at ht
          obtain ⟨rfl, ht⟩ := ht
          obtain ⟨b, a, rfl, hb, ha⟩ := ih ht
          exact ⟨e :: b, a, rfl, .keep e hb, ha⟩
  | @swap l r t u hl hr hbl hbr h ih =>
      have hd : d ∉ l ++ word ++ r := by
        obtain ⟨hblank, hword⟩ := hapart d List.mem_cons_self
        have hno : ∀ s : Text, isBlankText s = true → d ∉ s := fun s hs hmem =>
          absurd (List.all_eq_true.mp hs d hmem) (by simp [hblank])
        simp [hno l hbl, hno r hbr, hword]
      have hrest : ∃ m, before = l ++ word ++ r ++ m ∧ m ++ d :: x ++ after = t := by
        rw [List.append_assoc] at ht
        rcases List.append_eq_append_iff.mp ht with ⟨m, hm, hm'⟩ | ⟨m, rfl, rfl⟩
        · cases m with
          | nil => exact ⟨[], by simpa using hm.symm, by simpa using hm'⟩
          | cons f m =>
              simp only [List.cons_append, List.cons.injEq] at hm'
              exact absurd (by simp [hm, hm'.1]) hd
        · exact ⟨m, rfl, by simp⟩
      obtain ⟨m, rfl, hm⟩ := hrest
      obtain ⟨b, a, rfl, hb, ha⟩ := ih hm
      exact ⟨' ' :: symbol ++ ' ' :: b, a, by simp, .swap hl hr hbl hbr hb, ha⟩

end Rewrites

/-- Where the word is found at all, the first one is written as the symbol. -/
theorem replaceBy_cases (word symbol t : Text) :
    (∀ s, s <:+ t → widthSpaced word s = 0) ∨
      ∃ b l r a a', t = b ++ (l ++ word ++ r) ++ a ∧ l ≠ [] ∧ r ≠ [] ∧
        isBlankText l = true ∧ isBlankText r = true ∧ Rewrites word symbol a a' ∧
        replaceBy (widthSpaced word) (' ' :: symbol ++ [' ']) t
          = b ++ (' ' :: symbol ++ [' ']) ++ a' := by
  induction t with
  | nil =>
      refine .inl fun s hs => ?_
      obtain rfl := List.suffix_nil.mp hs
      rfl
  | cons c t ih =>
      by_cases hfound : widthSpaced word (c :: t) = 0
      · rcases ih with hnone | ⟨b, l, r, a, a', rfl, hl, hr, hbl, hbr, ha, hreplace⟩
        · refine .inl fun s hs => ?_
          rcases List.suffix_cons_iff.mp hs with rfl | hs
          · exact hfound
          · exact hnone s hs
        · refine .inr ⟨c :: b, l, r, a, a', rfl, hl, hr, hbl, hbr, ha, ?_⟩
          rw [replaceBy] at hreplace
          rw [replaceBy, replaceFrom, hfound]
          simp only
          rw [hreplace]
          rfl
      · obtain ⟨l, r, rest, hsplit, hl, hr, hbl, hbr, hwidth⟩ := widthSpaced_spec hfound
        refine .inr ⟨[], l, r, rest, _, by simpa using hsplit, hl, hr, hbl, hbr,
          rewrites_replaceBy word symbol rest, ?_⟩
        obtain ⟨skip, hskip⟩ := Nat.exists_eq_succ_of_ne_zero hfound
        have hmatch : (c :: t).drop (widthSpaced word (c :: t)) = rest := by
          rw [hwidth, hsplit, List.drop_left]
        rw [hskip, List.drop_succ_cons] at hmatch
        rw [replaceBy, replaceFrom, hskip]
        simp only
        rw [replaceFrom_skip, hmatch, List.nil_append, replaceBy]

/-! ## Signs between texts -/

/-- Replacing goes on its own in a text where no match reaches beyond its end. -/
theorem replaceBy_append_of_within {width : Text → Nat} (replacement : Text) {p s : Text}
    (hwidth : ∀ t, width t ≤ t.length)
    (h : ∀ q, q ≠ [] → q <:+ p → width (q ++ s) = width q) :
    replaceBy width replacement (p ++ s)
      = replaceBy width replacement p ++ replaceBy width replacement s := by
  induction hn : p.length using Nat.strongRecOn generalizing p with
  | ind n ih =>
      cases p with
      | nil => rfl
      | cons c p =>
          rw [List.length_cons] at hn
          have hhere := h (c :: p) (by simp) (List.suffix_refl _)
          have hfits := hwidth (c :: p)
          rw [List.length_cons] at hfits
          rw [List.cons_append] at hhere ⊢
          rw [replaceBy, replaceBy, replaceFrom, replaceFrom, hhere]
          split
          · have hrest := ih p.length (by omega)
              (fun q hq hs => h q hq (hs.trans (List.suffix_cons c p))) rfl
            rw [replaceBy, replaceBy] at hrest
            rw [hrest, List.cons_append]
          · rename_i skip hskip
            have hle : skip ≤ p.length := by omega
            have hsuffix : p.drop skip <:+ c :: p :=
              (List.drop_suffix skip p).trans (List.suffix_cons c p)
            have hrest := ih (p.drop skip).length (by rw [List.length_drop]; omega)
              (fun q hq hs => h q hq (hs.trans hsuffix)) rfl
            rw [replaceBy, replaceBy] at hrest
            rw [replaceFrom_skip _ _ _ (p ++ s), replaceFrom_skip _ _ _ p,
              List.drop_append_of_le_length hle, hrest, List.append_assoc]

/-- The word and the blank behind it are found in the text or not at all: they do not reach
into what follows it. -/
def EndsWithin (word p z : Text) : Prop :=
  ∀ y c, y <:+ p → isBlank c = true → word ++ [c] <+: y ++ z → word ++ [c] <+: y

theorem widthSpaced_append {q z : Text} (hz : ∀ c, z.head? = some c → isBlank c = false)
    (h : EndsWithin word q z) : widthSpaced word (q ++ z) = widthSpaced word q := by
  have hlength := length_blanks_le q
  rw [widthSpaced, widthSpaced, blanks_append hz, List.drop_append_of_le_length hlength]
  have hsuffix : q.drop (blanks q) <:+ q := List.drop_suffix _ q
  cases hy : after? word (q.drop (blanks q)) with
  | some rest =>
      rw [after?_eq_some.mp hy, List.append_assoc, after?_append]
      simp only [blanks_append hz]
  | none =>
      cases hyz : after? word (q.drop (blanks q) ++ z) with
      | none => rfl
      | some rest =>
          -- A match behind the blanks would end within the text, where there is none.
          have hrest : blanks rest = 0 := by
            cases rest with
            | nil => rfl
            | cons c rest =>
                by_cases hc : isBlank c = true
                · obtain ⟨s, hs⟩ := h _ c hsuffix hc ⟨rest, by rw [after?_eq_some.mp hyz]; simp⟩
                  rw [← hs, List.append_assoc, after?_append] at hy
                  cases hy
                · simp [blanks, hc]
          simp [hrest]

theorem endsWithin_of_not_mem {p z : Text} {d : Char} (hd : isBlank d = false) (hword : d ∉ word)
    (hz : z.head? = some d) : EndsWithin word p z := by
  obtain ⟨z, rfl⟩ : ∃ z', z = d :: z' := List.head?_eq_some_iff.mp hz
  rintro y c - hc ⟨rest, hrest⟩
  rcases List.append_eq_append_iff.mp hrest with ⟨m, rfl, _⟩ | ⟨m, hm, hm'⟩
  · exact List.prefix_append _ _
  · cases m with
    | nil =>
        rw [List.append_nil] at hm
        exact hm ▸ List.prefix_refl _
    | cons e m =>
        simp only [List.cons_append, List.cons.injEq] at hm'
        have hmem : d ∈ word ++ [c] := by simp [hm, hm'.1]
        simp only [List.mem_append, List.mem_singleton] at hmem
        rcases hmem with hmem | rfl
        · exact absurd hmem hword
        · rw [hd] at hc
          cases hc

theorem endsWithin_of_ne {p z s : Text} (hword : ∀ c ∈ word, isBlank c = false)
    (hz : ∀ c ∈ z, isBlank c = false) (hne : word ≠ z) (hp : p.getLast?.all isBlank = true)
    (hs : s.head?.all isBlank = true) : EndsWithin word p (z ++ s) := by
  rintro y c hy hc ⟨u, hu⟩
  rcases List.append_eq_append_iff.mp hu with ⟨m, rfl, _⟩ | ⟨m, hm, hm'⟩
  · exact List.prefix_append _ _
  · rcases List.eq_nil_or_concat y with rfl | ⟨y, e, rfl⟩
    · -- Two words before a blank, read from the same place, are one word.
      have hfirst : (word ++ ([c] ++ u)).takeWhile (fun d => !isBlank d) = word :=
        takeWhile_append_edge hword (by simp [hc])
      rw [← List.append_assoc, hu, List.nil_append, takeWhile_append_edge hz hs] at hfirst
      exact absurd hfirst.symm hne
    · rw [List.concat_eq_append] at hy hm ⊢
      rcases List.eq_nil_or_concat m with rfl | ⟨m, f, rfl⟩
      · rw [List.append_nil] at hm
        exact hm ▸ List.prefix_refl _
      · -- The last character of the text is a blank, and the word has none.
        have hmem : e ∈ word := by
          rw [List.concat_eq_append, ← List.append_assoc] at hm
          have := List.append_inj_left' hm rfl
          simp [this]
        obtain ⟨first, rfl⟩ := hy
        rw [← List.append_assoc, List.getLast?_concat, Option.all_some, hword e hmem] at hp
        cases hp

/-- **Replacing on both sides of a sign.** A sign between two texts is left alone, and each
of the texts is replaced on its own. -/
theorem replaceBy_append_sign (replacement : Text) {p z s : Text} (hz : z ≠ [])
    (hblank : ∀ c ∈ z, isBlank c = false) (h : EndsWithin word p (z ++ s)) :
    replaceBy (widthSpaced word) replacement (p ++ z ++ s)
      = replaceBy (widthSpaced word) replacement p ++ z
        ++ replaceBy (widthSpaced word) replacement s := by
  have hhead : ∀ c, (z ++ s).head? = some c → isBlank c = false := by
    obtain ⟨d, z, rfl⟩ := List.exists_cons_of_ne_nil hz
    intro c hc
    rw [List.cons_append, List.head?_cons, Option.some.injEq] at hc
    exact hc ▸ hblank d List.mem_cons_self
  have hsign : ∀ q, (∀ c ∈ q, isBlank c = false) →
      replaceBy (widthSpaced word) replacement (q ++ s)
        = q ++ replaceBy (widthSpaced word) replacement s := by
    intro q hq
    induction q with
    | nil => rfl
    | cons c q ih =>
        have hnone : widthSpaced word (c :: (q ++ s)) = 0 := by
          simp [widthSpaced, blanks, hq c List.mem_cons_self]
        have hrest := ih fun d hd => hq d (List.mem_cons_of_mem _ hd)
        rw [replaceBy, replaceBy] at hrest
        rw [List.cons_append, replaceBy, replaceFrom, hnone]
        simp only
        rw [hrest]
        rfl
  rw [List.append_assoc, replaceBy_append_of_within replacement (widthSpaced_le word),
    hsign z hblank, List.append_assoc]
  intro q _ hq
  exact widthSpaced_append hhead fun y c hy => h y c (hy.trans hq)

end Questionnaire.Text
