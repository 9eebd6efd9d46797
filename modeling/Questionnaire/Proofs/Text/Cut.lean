import Questionnaire.Proofs.Text.Words

/-!
# Cutting and replacing

A text in which a separator matches nowhere is one piece, and nothing in it is
replaced. Where a separator begins and ends with breaks, cutting at it and
replacing it by breaks brings no word to light that was not in the text before.
-/

namespace Questionnaire.Text

/-! ## Texts without a match -/

private theorem splitFrom_of_no_match {width : Text → Nat} (piece t : Text)
    (h : ∀ s, s <:+ t → width s = 0) :
    splitFrom width 0 piece t = [piece.reverse ++ t] := by
  induction t generalizing piece with
  | nil => simp [splitFrom]
  | cons c t ih =>
      have hhere : width (c :: t) = 0 := h _ (List.suffix_refl _)
      have hrest : ∀ s, s <:+ t → width s = 0 :=
        fun s hs => h s (hs.trans (List.suffix_cons c t))
      simp [splitFrom, hhere, ih (c :: piece) hrest]

theorem splitBy_of_no_match {width : Text → Nat} {t : Text}
    (h : ∀ s, s <:+ t → width s = 0) : splitBy width t = [t] := by
  simpa [splitBy] using splitFrom_of_no_match [] t h

theorem replaceFrom_of_no_match {width : Text → Nat} (replacement : Text) {t : Text}
    (h : ∀ s, s <:+ t → width s = 0) : replaceFrom width replacement 0 t = t := by
  induction t with
  | nil => rfl
  | cons c t ih =>
      have hhere : width (c :: t) = 0 := h _ (List.suffix_refl _)
      have hrest : ∀ s, s <:+ t → width s = 0 :=
        fun s hs => h s (hs.trans (List.suffix_cons c t))
      simp [replaceFrom, hhere, ih hrest]

theorem replaceBy_of_no_match {width : Text → Nat} (replacement : Text) {t : Text}
    (h : ∀ s, s <:+ t → width s = 0) : replaceBy width replacement t = t :=
  replaceFrom_of_no_match replacement h

/-! ## The characters of a match under way -/

theorem replaceFrom_skip (width : Text → Nat) (replacement : Text) (skip : Nat) (t : Text) :
    replaceFrom width replacement skip t = replaceFrom width replacement 0 (t.drop skip) := by
  induction t generalizing skip with
  | nil => cases skip <;> rfl
  | cons c t ih =>
      cases skip with
      | zero => rfl
      | succ skip => simpa [replaceFrom] using ih skip

theorem splitFrom_skip (width : Text → Nat) (skip : Nat) (piece t : Text) :
    splitFrom width skip piece t = splitFrom width 0 piece (t.drop skip) := by
  induction t generalizing skip with
  | nil => cases skip <;> rfl
  | cons c t ih =>
      cases skip with
      | zero => rfl
      | succ skip => simpa [splitFrom] using ih skip

/-- Replacing goes over what holds no match up to the first one. -/
theorem replaceBy_append {width : Text → Nat} (replacement p s : Text) {c : Char} {skip : Nat}
    (h : ∀ q, q ≠ [] → q <:+ p → width (q ++ c :: s) = 0)
    (hmatch : width (c :: s) = skip + 1) :
    replaceBy width replacement (p ++ c :: s)
      = p ++ replacement ++ replaceBy width replacement (s.drop skip) := by
  induction p with
  | nil =>
      simp only [replaceBy, List.nil_append, replaceFrom, hmatch]
      rw [replaceFrom_skip]
  | cons d p ih =>
      have hhere : width (d :: (p ++ c :: s)) = 0 := h (d :: p) (by simp) (List.suffix_refl _)
      have hrest := ih fun q hq hs => h q hq (hs.trans (List.suffix_cons d p))
      simp only [replaceBy] at hrest
      simp [replaceBy, replaceFrom, hhere, hrest]

/-- The first match is replaced, and what follows it on its own. -/
theorem replaceBy_first {width : Text → Nat} (replacement : Text) {p s : Text}
    (h : ∀ q, q ≠ [] → q <:+ p → width (q ++ s) = 0) (hmatch : width s ≠ 0)
    (hwithin : width s ≤ s.length) : replaceBy width replacement (p ++ s)
      = p ++ replacement ++ replaceBy width replacement (s.drop (width s)) := by
  cases s with
  | nil => exact absurd (Nat.le_zero.mp hwithin) hmatch
  | cons c s =>
      obtain ⟨skip, hskip⟩ := Nat.exists_eq_succ_of_ne_zero hmatch
      rw [replaceBy_append replacement p s h hskip, hskip, List.drop_succ_cons]

/-! ## Separators that begin and end with breaks -/

/-- What the separator matches begins and ends with a break. -/
def CutsAtBreaks (width : Text → Nat) : Prop :=
  ∀ s, width s ≠ 0 → width s ≤ s.length ∧
    (∀ c, (s.take (width s)).head? = some c → isBreak c = true) ∧
    ∀ c, (s.take (width s)).getLast? = some c → isBreak c = true

private theorem openWords_splitFrom {width : Text → Nat} (hw : CutsAtBreaks width)
    (n : Nat) : ∀ (t piece : Text), t.length ≤ n → ∀ q ∈ splitFrom width 0 piece t,
      openWords q ⊆ openWords (piece.reverse ++ t) := by
  induction n with
  | zero =>
      intro t piece ht q hq
      obtain rfl : t = [] := List.length_eq_zero_iff.mp (by omega)
      simp only [splitFrom, List.mem_singleton] at hq
      simp [hq]
  | succ n ih =>
      intro t piece ht q hq
      cases t with
      | nil =>
          simp only [splitFrom, List.mem_singleton] at hq
          simp [hq]
      | cons c t =>
          simp only [List.length_cons] at ht
          rw [splitFrom] at hq
          split at hq
          · have := ih t (c :: piece) (by omega) q hq
            simpa using this
          · rename_i skip hskip
            obtain ⟨_, hhead, hlast⟩ := hw (c :: t) (by omega)
            rw [hskip] at hhead hlast
            -- The match is `c` and `skip` more characters; words go neither in nor out.
            have hsplit : c :: t = (c :: t).take (skip + 1) ++ t.drop skip := by
              simp
            rcases List.mem_cons.mp hq with rfl | hq
            · refine openWords_subset_append_left fun d hd => hhead d ?_
              simpa using hd
            · rw [splitFrom_skip] at hq
              have hsub := ih (t.drop skip) [] (by simp; omega) q hq
              simp only [List.reverse_nil, List.nil_append] at hsub
              refine List.Subset.trans hsub ?_
              rw [hsplit, ← List.append_assoc]
              refine openWords_subset_append_right fun d hd => hlast d ?_
              rw [List.getLast?_append] at hd
              simpa using hd

/-- **The pieces of a text have no words of their own.** -/
theorem openWords_of_mem_splitBy {width : Text → Nat} (hw : CutsAtBreaks width) {t q : Text}
    (h : q ∈ splitBy width t) : openWords q ⊆ openWords t := by
  simpa using openWords_splitFrom hw t.length t [] (Nat.le_refl _) q h

private theorem openWords_replaceFrom {width : Text → Nat} (hw : CutsAtBreaks width)
    {replacement : Text} (hr : replacement.all isBreak = true) (hne : replacement ≠ [])
    (n : Nat) : ∀ (t p : Text), t.length ≤ n →
      openWords (p ++ replaceFrom width replacement 0 t) ⊆ openWords (p ++ t) := by
  induction n with
  | zero =>
      intro t p ht
      obtain rfl : t = [] := List.length_eq_zero_iff.mp (by omega)
      simp [replaceFrom]
  | succ n ih =>
      intro t p ht
      cases t with
      | nil => simp [replaceFrom]
      | cons c t =>
          simp only [List.length_cons] at ht
          rw [replaceFrom]
          split
          · have := ih t (p ++ [c]) (by omega)
            simpa using this
          · rename_i skip hskip
            obtain ⟨_, hhead, hlast⟩ := hw (c :: t) (by omega)
            rw [hskip] at hhead hlast
            have hsplit : c :: t = (c :: t).take (skip + 1) ++ t.drop skip := by
              simp
            rw [replaceFrom_skip]
            -- The replacement cuts what follows off from what stands before it.
            have hbreak : ∀ x : Text, openWords (p ++ (replacement ++ x))
                = openWords p ++ openWords x := by
              intro x
              obtain ⟨d, r, rfl⟩ := List.exists_cons_of_ne_nil hne
              simp only [List.all_cons, Bool.and_eq_true] at hr
              rw [List.cons_append, openWords_append_break p _ hr.1,
                openWords_append_breaks_left hr.2]
            rw [hbreak, hsplit]
            refine List.append_subset.mpr ⟨?_, ?_⟩
            · refine openWords_subset_append_left fun d hd => hhead d ?_
              simpa using hd
            · have hrest := ih (t.drop skip) [] (by simp; omega)
              simp only [List.nil_append] at hrest
              refine List.Subset.trans hrest ?_
              rw [← List.append_assoc]
              refine openWords_subset_append_right fun d hd => hlast d ?_
              rw [List.getLast?_append] at hd
              simpa using hd

/-- **Replacing by breaks brings no word to light.** -/
theorem openWords_replaceBy {width : Text → Nat} (hw : CutsAtBreaks width) {replacement : Text}
    (hr : replacement.all isBreak = true) (hne : replacement ≠ []) (t : Text) :
    openWords (replaceBy width replacement t) ⊆ openWords t := by
  simpa [replaceBy] using openWords_replaceFrom hw hr hne t.length t [] (Nat.le_refl _)

/-! ## The separators of conditions -/

theorem blanks_spec (t : Text) :
    t = t.take (blanks t) ++ t.drop (blanks t) ∧ (t.take (blanks t)).all isBlank = true := by
  have htake : t.take (blanks t) = t.takeWhile isBlank :=
    (List.prefix_iff_eq_take.mp (List.takeWhile_prefix isBlank)).symm
  refine ⟨(List.take_append_drop _ _).symm, ?_⟩
  rw [htake]
  simp

/-- A spaced word is found where blanks, the word and blanks follow each other. -/
theorem widthSpaced_spec {word t : Text} (h : widthSpaced word t ≠ 0) :
    ∃ before after rest, t = before ++ word ++ after ++ rest ∧ before ≠ [] ∧ after ≠ [] ∧
      before.all isBlank = true ∧ after.all isBlank = true ∧
      widthSpaced word t = (before ++ word ++ after).length := by
  unfold widthSpaced at h ⊢
  by_cases hb : blanks t = 0
  · simp [hb] at h
  · simp only [hb, if_false] at h ⊢
    cases ha : after? word (t.drop (blanks t)) with
    | none => simp [ha] at h
    | some rest =>
        simp only [ha] at h ⊢
        by_cases hr : blanks rest = 0
        · simp [hr] at h
        · simp only [hr, if_false]
          obtain ⟨ht, hblank⟩ := blanks_spec t
          obtain ⟨hrest, hblank'⟩ := blanks_spec rest
          have hlen := length_blanks_le t
          have hlen' := length_blanks_le rest
          refine ⟨t.take (blanks t), rest.take (blanks rest), rest.drop (blanks rest), ?_, ?_, ?_,
            hblank, hblank', ?_⟩
          · rw [List.append_assoc, ← hrest, List.append_assoc, ← after?_eq_some.mp ha]
            exact ht
          · intro hnil
            have := congrArg List.length hnil
            simp only [List.length_take, List.length_nil] at this
            omega
          · intro hnil
            have := congrArg List.length hnil
            simp only [List.length_take, List.length_nil] at this
            omega
          · simp
            omega

/-- A loose mark is found where it stands, with whatever blanks are around it. -/
theorem widthLoose_spec {mark t : Text} (h : widthLoose mark t ≠ 0) :
    ∃ before after rest, t = before ++ mark ++ after ++ rest ∧
      before.all isBlank = true ∧ after.all isBlank = true ∧
      widthLoose mark t = (before ++ mark ++ after).length := by
  unfold widthLoose at h ⊢
  cases ha : after? mark (t.drop (blanks t)) with
  | none => simp [ha] at h
  | some rest =>
      simp only
      obtain ⟨ht, hblank⟩ := blanks_spec t
      obtain ⟨hrest, hblank'⟩ := blanks_spec rest
      have hlen := length_blanks_le t
      have hlen' := length_blanks_le rest
      refine ⟨t.take (blanks t), rest.take (blanks rest), rest.drop (blanks rest), ?_,
        hblank, hblank', ?_⟩
      · rw [List.append_assoc, ← hrest, List.append_assoc, ← after?_eq_some.mp ha]
        exact ht
      · simp
        omega

private theorem head_isBreak (before rest : Text) (hb : before.all isBlank = true)
    (h : ∀ c, rest.head? = some c → isBreak c = true) :
    ∀ c, (before ++ rest).head? = some c → isBreak c = true := by
  intro c hc
  cases before with
  | nil => exact h c (by simpa using hc)
  | cons d before =>
      simp only [List.cons_append, List.head?_cons, Option.some.injEq] at hc
      simp only [List.all_cons, Bool.and_eq_true] at hb
      exact isBreak_of_isBlank (hc ▸ hb.1)

private theorem last_isBreak (before rest : Text) (hr : rest.all isBlank = true)
    (h : ∀ c, before.getLast? = some c → isBreak c = true) :
    ∀ c, (before ++ rest).getLast? = some c → isBreak c = true := by
  intro c hc
  have := head_isBreak rest.reverse before.reverse (by simpa using hr) (by simpa using h) c
  rw [← List.reverse_append] at this
  exact this (by simpa using hc)

theorem cutsAtBreaks_widthSpaced (word : Text) : CutsAtBreaks (widthSpaced word) := by
  intro s hs
  obtain ⟨before, after, rest, hsplit, hb, ha, hbefore, hafter, hwidth⟩ := widthSpaced_spec hs
  have htake : s.take (widthSpaced word s) = before ++ (word ++ after) := by
    rw [hwidth, hsplit, List.take_left', List.append_assoc]
    rfl
  refine ⟨widthSpaced_le word s, ?_, ?_⟩
  · rw [htake]
    intro c hc
    obtain ⟨d, before, rfl⟩ := List.exists_cons_of_ne_nil hb
    refine head_isBreak (d :: before) [] hbefore (by simp) c (by simpa using hc)
  · rw [htake, ← List.append_assoc]
    intro c hc
    refine last_isBreak [] after hafter (by simp) c ?_
    rw [List.getLast?_append] at hc
    cases hl : after.getLast? with
    | none => exact absurd (List.getLast?_eq_none_iff.mp hl) ha
    | some d => simpa [hl] using hc

theorem cutsAtBreaks_widthLoose {mark : Text} (h : mark.all isBreak = true) (hne : mark ≠ []) :
    CutsAtBreaks (widthLoose mark) := by
  rw [List.all_eq_true] at h
  intro s hs
  obtain ⟨before, after, rest, hsplit, hbefore, hafter, hwidth⟩ := widthLoose_spec hs
  have htake : s.take (widthLoose mark s) = before ++ mark ++ after := by
    rw [hwidth, hsplit, List.take_left']
    rfl
  refine ⟨widthLoose_le mark s, ?_, ?_⟩
  · rw [htake, List.append_assoc]
    refine head_isBreak before _ hbefore fun c hc => h c ?_
    obtain ⟨d, mark, rfl⟩ := List.exists_cons_of_ne_nil hne
    have : d = c := by simpa using hc
    simp [this]
  · rw [htake]
    refine last_isBreak _ after hafter fun c hc => h c ?_
    cases hl : mark.getLast? with
    | none => exact absurd (List.getLast?_eq_none_iff.mp hl) hne
    | some d =>
        have : d = c := by
          rw [List.getLast?_append, hl] at hc
          simpa using hc
        exact this ▸ List.mem_of_getLast? hl

/-- A spaced word is one of the words of the text that it is found in. -/
theorem mem_openWords_of_widthSpaced {word p s : Text} (hword : isBareWord word = true)
    (h : widthSpaced word s ≠ 0) : word ∈ openWords (p ++ s) := by
  obtain ⟨before, after, rest, rfl, hb, ha, hbefore, hafter, _⟩ := widthSpaced_spec h
  have : p ++ (before ++ word ++ after ++ rest) = (p ++ before) ++ word ++ (after ++ rest) := by
    simp
  rw [this]
  refine mem_openWords_between hword ?_ ?_
  · intro c hc
    obtain ⟨before, d, rfl⟩ := (List.eq_nil_or_concat before).resolve_left hb
    simp only [List.concat_eq_append, List.all_append, Bool.and_eq_true] at hbefore
    have : c = d := by simpa [← List.append_assoc, eq_comm] using hc
    exact isBreak_of_isBlank (by simpa [this] using hbefore.2)
  · intro c hc
    obtain ⟨d, after, rfl⟩ := List.exists_cons_of_ne_nil ha
    simp only [List.all_cons, Bool.and_eq_true] at hafter
    have : c = d := by simpa [eq_comm] using hc
    exact isBreak_of_isBlank (this ▸ hafter.1)

/-! ## Separators that stand somewhere -/

theorem blanks_append {z : Text} (hz : ∀ c, z.head? = some c → isBlank c = false) (q : Text) :
    blanks (q ++ z) = blanks q := by
  induction q with
  | nil =>
      cases z with
      | nil => rfl
      | cons c z => simp [blanks, hz c rfl]
  | cons c q ih =>
      rw [blanks] at ih ⊢
      by_cases hc : isBlank c = true
      · simpa [blanks, hc] using ih
      · simp [blanks, hc]

theorem blanks_of_isBlankText {b s : Text} (hb : isBlankText b = true)
    (hs : ∀ c, s.head? = some c → isBlank c = false) : blanks (b ++ s) = b.length := by
  have hnil : s.takeWhile isBlank = [] := by
    cases s with
    | nil => rfl
    | cons c s => simp [hs c rfl]
  rw [blanks, List.takeWhile_append_of_pos fun c hc => List.all_eq_true.mp hb c hc, hnil,
    List.append_nil]

theorem blanks_ne_zero {t : Text} (h : t.head?.map isBlank = some true) : blanks t ≠ 0 := by
  cases t with
  | nil => simp at h
  | cons c t => simp_all [blanks]

theorem drop_blanks (t : Text) : t.drop (blanks t) = trimLeft t := by
  induction t with
  | nil => rfl
  | cons c t ih =>
      rw [blanks] at ih ⊢
      by_cases hc : isBlank c = true
      · simpa [trimLeft, hc] using ih
      · simp [trimLeft, hc]

/-- A word between blanks is found there. -/
theorem widthSpaced_between {word b s : Text} (hb : isBlankText b = true) (hne : b ≠ [])
    (hword : ∀ c, (word ++ s).head? = some c → isBlank c = false) (hs : blanks s ≠ 0) :
    widthSpaced word (b ++ (word ++ s)) = b.length + word.length + blanks s := by
  have hlength : b.length ≠ 0 := by simpa using hne
  rw [widthSpaced, blanks_of_isBlankText hb hword, if_neg hlength, List.drop_left, after?_append]
  exact if_neg hs

/-- A mark behind blanks is found there. -/
theorem widthLoose_behind {mark b s : Text} (hb : isBlankText b = true)
    (hmark : ∀ c, (mark ++ s).head? = some c → isBlank c = false) :
    widthLoose mark (b ++ (mark ++ s)) = b.length + mark.length + blanks s := by
  rw [widthLoose, blanks_of_isBlankText hb hmark, List.drop_left, after?_append]

/-- A word is not found where blanks are followed by a character that it does not have. -/
theorem widthSpaced_of_not_mem {word b s : Text} {d : Char} (hb : isBlankText b = true)
    (hne : word ≠ []) (hd : isBlank d = false) (hword : d ∉ word) :
    widthSpaced word (b ++ d :: s) = 0 := by
  have hhead : ∀ c, (d :: s).head? = some c → isBlank c = false := by simp [hd]
  have hafter : after? word (d :: s) = none := by
    cases hafter : after? word (d :: s) with
    | none => rfl
    | some rest =>
        obtain ⟨e, word, rfl⟩ := List.exists_cons_of_ne_nil hne
        have := after?_eq_some.mp hafter
        simp only [List.cons_append, List.cons.injEq] at this
        exact absurd (by simp [this.1]) hword
  rw [widthSpaced, blanks_of_isBlankText hb hhead, List.drop_left, hafter]
  simp

/-- Cutting goes over what holds no match up to the first one. -/
theorem splitBy_append {width : Text → Nat} {p s : Text} (hne : s ≠ [])
    (h : ∀ q, q ≠ [] → q <:+ p → width (q ++ s) = 0) (hmatch : width s ≠ 0) :
    splitBy width (p ++ s) = p :: splitBy width (s.drop (width s)) := by
  have hgen : ∀ piece, splitFrom width 0 piece (p ++ s)
      = (piece.reverse ++ p) :: splitBy width (s.drop (width s)) := by
    induction p with
    | nil =>
        intro piece
        obtain ⟨c, s, rfl⟩ := List.exists_cons_of_ne_nil hne
        obtain ⟨skip, hskip⟩ := Nat.exists_eq_succ_of_ne_zero hmatch
        rw [List.nil_append, splitFrom, hskip]
        simp only
        rw [splitFrom_skip, splitBy, List.append_nil]
        rfl
    | cons d p ih =>
        intro piece
        have hhere := h (d :: p) (by simp) (List.suffix_refl _)
        rw [List.cons_append] at hhere
        rw [List.cons_append, splitFrom, hhere]
        simp only
        rw [ih fun q hq hs => h q hq (hs.trans (List.suffix_cons d p))]
        simp
  simpa [splitBy] using hgen []

/-- The first match in a text, if there is one. -/
theorem exists_first_match (width : Text → Nat) (t : Text) :
    (∀ s, s <:+ t → width s = 0) ∨
      ∃ p s, t = p ++ s ∧ width s ≠ 0 ∧ ∀ q, q ≠ [] → q <:+ p → width (q ++ s) = 0 := by
  by_cases hhere : width t = 0
  · induction t with
    | nil =>
        refine .inl fun s hs => ?_
        rwa [List.suffix_nil.mp hs]
    | cons c t ih =>
        by_cases hnext : width t = 0
        · rcases ih hnext with hnone | ⟨p, s, rfl, hmatch, hfirst⟩
          · refine .inl fun s hs => ?_
            rcases List.suffix_cons_iff.mp hs with rfl | hs
            · exact hhere
            · exact hnone s hs
          · refine .inr ⟨c :: p, s, rfl, hmatch, fun q hq hs => ?_⟩
            rcases List.suffix_cons_iff.mp hs with rfl | hs
            · exact hhere
            · exact hfirst q hq hs
        · refine .inr ⟨[c], t, rfl, hnext, fun q hq hs => ?_⟩
          rcases List.suffix_cons_iff.mp hs with rfl | hs
          · exact hhere
          · exact absurd (List.suffix_nil.mp hs) hq
  · refine .inr ⟨[], t, rfl, hhere, fun q hq hs => absurd (List.suffix_nil.mp hs) hq⟩

theorem splitBy_ne_nil (width : Text → Nat) (t : Text) : splitBy width t ≠ [] := by
  have hgen : ∀ skip piece, splitFrom width skip piece t ≠ [] := by
    induction t with
    | nil => intro skip piece; cases skip <;> simp [splitFrom]
    | cons c t ih =>
        intro skip piece
        cases skip with
        | succ skip => exact ih skip piece
        | zero =>
            rw [splitFrom]
            split
            · exact ih _ _
            · simp
  exact hgen 0 []

/-! ## Occurrences -/

/-- Where the first character of a mark stands nowhere before it, the mark occurs there first. -/
theorem occurrences_append {c : Char} {mark p u : Text} (h : c ∉ p) :
    occurrences (c :: mark) (p ++ (c :: mark ++ u)) = occurrences (c :: mark) u + 1 := by
  let width := fun s => if hasStart (c :: mark) s then (c :: mark).length else 0
  have hfirst : width (c :: mark ++ u) = (c :: mark).length := by
    exact if_pos (hasStart_iff.mpr (List.prefix_append _ _))
  have hbefore : ∀ q, q ≠ [] → q <:+ p → width (q ++ (c :: mark ++ u)) = 0 := by
    intro q hq hsuffix
    refine if_neg fun hstart => ?_
    obtain ⟨d, q, rfl⟩ := List.exists_cons_of_ne_nil hq
    obtain ⟨rest, hrest⟩ := hasStart_iff.mp hstart
    obtain rfl := (List.cons.inj hrest).1
    exact h (hsuffix.subset List.mem_cons_self)
  have hsplit := splitBy_append (by simp) hbefore (by rw [hfirst]; simp)
  rw [hfirst, List.drop_left] at hsplit
  have hpos := List.length_pos_iff.mpr (splitBy_ne_nil width u)
  change (splitBy width _).length - 1 = (splitBy width u).length - 1 + 1
  rw [hsplit, List.length_cons]
  omega

theorem occurrences_of_not_infix {mark t : Text} (h : ¬ mark <:+: t) : occurrences mark t = 0 := by
  rw [occurrences, splitBy_of_no_match]
  · rfl
  · intro s hs
    exact if_neg fun hstart => h ((hasStart_iff.mp hstart).isInfix.trans hs.isInfix)

/-- A mark occurs in what ends with it. -/
theorem occurrences_ne_zero (t : Text) {mark : Text} (h : mark ≠ []) :
    occurrences mark (t ++ mark) ≠ 0 := by
  let width := fun s => if hasStart mark s then mark.length else 0
  rcases exists_first_match width (t ++ mark) with hnone | ⟨p, s, hsplit, hmatch, hfirst⟩
  · have hmark := hnone mark (List.suffix_append _ _)
    rw [show width mark = mark.length from if_pos (hasStart_iff.mpr List.prefix_rfl)] at hmark
    exact absurd (List.length_eq_zero_iff.mp hmark) h
  · have hne : s ≠ [] := by
      rintro rfl
      exact hmatch (if_neg fun hstart => h (List.prefix_nil.mp (hasStart_iff.mp hstart)))
    have hpos := List.length_pos_iff.mpr (splitBy_ne_nil width (s.drop (width s)))
    change (splitBy width (t ++ mark)).length - 1 ≠ 0
    rw [hsplit, splitBy_append hne hfirst hmatch, List.length_cons]
    omega

/-! ## Lines -/

/-- No line has a line feed in it. -/
theorem not_mem_of_mem_lines {t line : Text} (h : line ∈ lines t) : '\n' ∉ line := by
  have hgen : ∀ (t piece : Text), '\n' ∉ piece →
      ∀ line ∈ splitFrom (fun s => if s.head? = some '\n' then 1 else 0) 0 piece t,
        '\n' ∉ line := by
    intro t
    induction t with
    | nil =>
        intro piece hpiece line hline
        rw [splitFrom, List.mem_singleton] at hline
        simpa [hline] using hpiece
    | cons c t ih =>
        intro piece hpiece line hline
        by_cases hc : c = '\n'
        · subst hc
          simp only [splitFrom, List.head?_cons, if_true, List.mem_cons] at hline
          rcases hline with rfl | hline
          · simpa using hpiece
          · exact ih [] (by simp) line hline
        · simp only [splitFrom, List.head?_cons, Option.some.injEq, hc, if_false] at hline
          exact ih (c :: piece) (by simp [hpiece, Ne.symm hc]) line hline
  exact hgen t [] (by simp) line h

end Questionnaire.Text
