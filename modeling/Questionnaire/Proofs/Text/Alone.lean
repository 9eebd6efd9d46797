import Questionnaire.Proofs.Text.Trim

/-!
# Words that stand alone

What stands at the edges of a text, and whether that is a blank. A word stands
alone in a text where a blank or nothing is on either side of it. Blanks around
the text change nothing about that.
-/

namespace Questionnaire.Text

/-! ## The edges of a text -/

theorem isBlank_space : isBlank ' ' = true := by decide

theorem head?_append_of_ne_nil {s : Text} (h : s ≠ []) (t : Text) :
    (s ++ t).head? = s.head? := by
  rw [List.head?_append, Option.or_of_isSome]
  simpa using h

theorem getLast?_append_of_ne_nil (s : Text) {t : Text} (h : t ≠ []) :
    (s ++ t).getLast? = t.getLast? := by
  rw [List.getLast?_append, Option.or_of_isSome]
  simpa using h

theorem head?_of_isBlankText {t : Text} (hne : t ≠ []) (h : isBlankText t = true) :
    t.head?.map isBlank = some true := by
  obtain ⟨c, hc⟩ := Option.ne_none_iff_exists'.mp (mt List.head?_eq_none_iff.mp hne)
  rw [hc, Option.map_some, List.all_eq_true.mp h c (List.mem_of_head? hc)]

theorem getLast?_of_isBlankText {t : Text} (hne : t ≠ []) (h : isBlankText t = true) :
    t.getLast?.map isBlank = some true := by
  obtain ⟨c, hc⟩ := Option.ne_none_iff_exists'.mp (mt List.getLast?_eq_none_iff.mp hne)
  rw [hc, Option.map_some, List.all_eq_true.mp h c (List.mem_of_getLast? hc)]

theorem head?_all_of_isBlankText {t : Text} (h : isBlankText t = true) :
    t.head?.all isBlank = true := by
  rw [Option.all_eq_true]
  exact fun c hc => List.all_eq_true.mp h c (List.mem_of_head? hc)

theorem getLast?_all_of_isBlankText {t : Text} (h : isBlankText t = true) :
    t.getLast?.all isBlank = true := by
  rw [Option.all_eq_true]
  exact fun c hc => List.all_eq_true.mp h c (List.mem_of_getLast? hc)

/-- Whether an edge is a blank or nothing follows from what is known of its character. -/
theorem all_isBlank_eq (edge : Option Char) :
    edge.all isBlank = (edge.map isBlank).getD true := by
  cases edge <;> rfl

theorem map_isBlank_of_all {edge : Option Char} (h : edge.all isBlank = true)
    (hne : edge ≠ none) : edge.map isBlank = some true := by
  cases edge with
  | none => exact absurd rfl hne
  | some c => simpa using h

theorem all_isBlank_of_map {edge : Option Char} (h : edge.map isBlank = some true) :
    edge.all isBlank = true := by
  rw [all_isBlank_eq, h]
  rfl

theorem not_isBlankText_of_ne_nil {t : Text} (hne : t ≠ []) (h : ∀ c ∈ t, isBlank c = false) :
    isBlankText t = false := by
  obtain ⟨c, t, rfl⟩ := List.exists_cons_of_ne_nil hne
  simp [isBlankText, h c List.mem_cons_self]

theorem not_mem_of_isBlankText {t : Text} (h : isBlankText t = true) {c : Char}
    (hc : isBlank c = false) : c ∉ t := by
  intro hmem
  have hblank := List.all_eq_true.mp h c hmem
  rw [hc] at hblank
  cases hblank

/-- The word that a text begins with ends at the first blank. -/
theorem takeWhile_append_edge {w s : Text} (hw : ∀ c ∈ w, isBlank c = false)
    (hs : s.head?.all isBlank = true) : (w ++ s).takeWhile (fun c => !isBlank c) = w := by
  have hnil : s.takeWhile (fun c => !isBlank c) = [] := by
    cases s with
    | nil => rfl
    | cons c s => simp_all
  rw [List.takeWhile_append_of_pos fun c hc => by simp [hw c hc], hnil, List.append_nil]

/-- A text begins with a word, of no character if a blank is the first. -/
theorem exists_first_word (t : Text) : ∃ w rest, t = w ++ rest ∧ (∀ c ∈ w, isBlank c = false) ∧
    rest.head?.all isBlank = true := by
  refine ⟨t.takeWhile fun c => !isBlank c, t.dropWhile fun c => !isBlank c,
    List.takeWhile_append_dropWhile.symm, fun c hc => ?_, ?_⟩
  · have hall : (t.takeWhile fun c => !isBlank c).all (fun c => !isBlank c) = true := by simp
    simpa using List.all_eq_true.mp hall c hc
  · rw [Option.all_eq_true]
    intro c hc
    have := List.head?_dropWhile_not (fun c => !isBlank c) t
    rw [hc] at this
    simpa using this

/-- A text ends with a word, of no character if a blank is the last. -/
theorem exists_last_word (t : Text) : ∃ rest w, t = rest ++ w ∧ (∀ c ∈ w, isBlank c = false) ∧
    rest.getLast?.all isBlank = true := by
  obtain ⟨w, rest, hsplit, hw, hrest⟩ := exists_first_word t.reverse
  refine ⟨rest.reverse, w.reverse, ?_, by simpa using hw, by simpa using hrest⟩
  rw [← List.reverse_append, ← hsplit, List.reverse_reverse]

/-! ## Words that stand alone -/

/-- The word stands in the text with a blank or nothing on either side. -/
def StandsAlone (word t : Text) : Prop :=
  ∃ before after, t = before ++ word ++ after ∧
    before.getLast?.all isBlank = true ∧ after.head?.all isBlank = true

theorem standsAlone_iff {word t : Text} :
    StandsAlone word t ↔ ∃ i ∈ List.range (t.length + 1), hasStart word (t.drop i) = true ∧
      (t.take i).getLast?.all isBlank = true ∧
      ((t.drop i).drop word.length).head?.all isBlank = true := by
  constructor
  · rintro ⟨before, after, rfl, hbefore, hafter⟩
    have hlength : before.length < (before ++ word ++ after).length + 1 := by
      rw [List.length_append, List.length_append]
      omega
    refine ⟨before.length, List.mem_range.mpr hlength, ?_, ?_, ?_⟩
    · rw [List.append_assoc, List.drop_left, hasStart_iff]
      exact List.prefix_append _ _
    · rwa [List.append_assoc, List.take_left]
    · rwa [List.append_assoc, List.drop_left, List.drop_left]
  · rintro ⟨i, _, hstart, hbefore, hafter⟩
    obtain ⟨after, hsplit⟩ := hasStart_iff.mp hstart
    rw [← hsplit, List.drop_left] at hafter
    refine ⟨t.take i, after, ?_, hbefore, hafter⟩
    rw [List.append_assoc, hsplit, List.take_append_drop]

instance (word t : Text) : Decidable (StandsAlone word t) := decidable_of_iff' _ standsAlone_iff

/-- A word that stands in a text stands in it behind blanks as well. -/
theorem StandsAlone.append_left {word t before : Text} (h : StandsAlone word t)
    (hblank : before.all isBlank = true) : StandsAlone word (before ++ t) := by
  obtain ⟨first, after, rfl, hfirst, hafter⟩ := h
  refine ⟨before ++ first, after, by simp, ?_, hafter⟩
  cases first with
  | nil =>
      rw [List.append_nil]
      exact getLast?_all_of_isBlankText hblank
  | cons c first => rwa [getLast?_append_of_ne_nil _ (by simp)]

/-- A word that stands in a text stands in it before blanks as well. -/
theorem StandsAlone.append_right {word t after : Text} (h : StandsAlone word t)
    (hblank : after.all isBlank = true) : StandsAlone word (t ++ after) := by
  obtain ⟨before, last, rfl, hbefore, hlast⟩ := h
  refine ⟨before, last ++ after, by simp, hbefore, ?_⟩
  cases last with
  | nil => exact head?_all_of_isBlankText hblank
  | cons c last => exact hlast

/-! ## Blanks around a text -/

section Padded

variable {lead t tail before x after : Text}

/-- What has no blanks in it stands in the text and not in the blanks around it. -/
theorem exists_of_padded (hlead : isBlankText lead = true) (htail : isBlankText tail = true)
    (hne : x ≠ []) (hx : ∀ c ∈ x, isBlank c = false)
    (h : lead ++ t ++ tail = before ++ x ++ after) :
    ∃ m n, before = lead ++ m ∧ after = n ++ tail ∧ t = m ++ x ++ n := by
  have hno : ∀ {b m : Text}, isBlankText b = true → m ⊆ b → m ⊆ x → m = [] := by
    intro b m hb hmb hmx
    cases m with
    | nil => rfl
    | cons c m =>
        have hblank := List.all_eq_true.mp hb c (hmb List.mem_cons_self)
        rw [hx c (hmx List.mem_cons_self)] at hblank
        cases hblank
  -- It begins behind the blanks before the text.
  obtain ⟨m, rfl, hm⟩ : ∃ m, before = lead ++ m ∧ t ++ tail = m ++ x ++ after := by
    rw [List.append_assoc, List.append_assoc] at h
    rcases List.append_eq_append_iff.mp h with ⟨m, rfl, hm⟩ | ⟨m, rfl, hm⟩
    · exact ⟨m, rfl, by simpa using hm⟩
    · rcases List.append_eq_append_iff.mp hm with ⟨n, rfl, -⟩ | ⟨n, rfl, -⟩
      · exact absurd (hno hlead (by simp) (by simp)) hne
      · obtain rfl : m = [] := hno hlead (by simp) (by simp)
        exact ⟨[], by simp, by simpa using hm.symm⟩
  -- And it ends before those behind it.
  rcases List.append_eq_append_iff.mp hm with ⟨n, hn, rfl⟩ | ⟨n, rfl, rfl⟩
  · rcases List.append_eq_append_iff.mp hn with ⟨k, rfl, rfl⟩ | ⟨k, rfl, rfl⟩
    · obtain rfl : n = [] := hno htail (by simp) (by simp)
      exact ⟨m, [], by simp⟩
    · exact absurd (hno htail (by simp) (by simp)) hne
  · exact ⟨m, n, rfl, rfl, rfl⟩

/-- A word that stands alone in a text stands alone in it without the blanks around it. -/
theorem StandsAlone.trim {word t : Text} (hne : word ≠ []) (hword : ∀ c ∈ word, isBlank c = false)
    (h : StandsAlone word t) : StandsAlone word (trim t) := by
  obtain ⟨lead, tail, hsplit, hlead, htail, -, -⟩ := trim_spec t
  obtain ⟨before, after, heq, hbefore, hafter⟩ := h
  obtain ⟨m, n, rfl, rfl, htrim⟩ :=
    exists_of_padded hlead htail hne hword (hsplit.symm.trans heq)
  refine ⟨m, n, htrim, ?_, ?_⟩
  · by_cases hm : m = []
    · rw [hm]
      rfl
    · rwa [getLast?_append_of_ne_nil _ hm] at hbefore
  · cases n with
    | nil => rfl
    | cons c n => exact hafter

theorem StandsAlone.of_trim {word t : Text} (h : StandsAlone word (Text.trim t)) :
    StandsAlone word t := by
  obtain ⟨lead, tail, hsplit, hlead, htail, -, -⟩ := trim_spec t
  rw [hsplit]
  exact (h.append_left hlead).append_right htail

/-- What has no blanks in it and is in a text is in it without the blanks around it. -/
theorem infix_trim {x t : Text} (hne : x ≠ []) (hx : ∀ c ∈ x, isBlank c = false)
    (h : x <:+: t) : x <:+: trim t := by
  obtain ⟨lead, tail, hsplit, hlead, htail, -, -⟩ := trim_spec t
  obtain ⟨before, after, heq⟩ := h
  obtain ⟨m, n, -, -, htrim⟩ := exists_of_padded hlead htail hne hx (hsplit.symm.trans heq.symm)
  exact ⟨m, n, htrim.symm⟩

theorem isInfix_trim (t : Text) : trim t <:+: t := by
  obtain ⟨lead, tail, hsplit, -⟩ := trim_spec t
  exact ⟨lead, tail, hsplit.symm⟩

end Padded

/-! ## Words on the two sides of a sign -/

/-- A text that has nothing in common with the one in the middle stands on one side of it. -/
theorem append_eq_append_apart {b x a p g s : Text} (hx : x ≠ []) (hg : g ≠ [])
    (hapart : ∀ c ∈ x, c ∉ g) (h : b ++ x ++ a = p ++ g ++ s) :
    (∃ m, p = b ++ x ++ m ∧ a = m ++ g ++ s) ∨ ∃ m, s = m ++ x ++ a ∧ b = p ++ g ++ m := by
  -- Where the two overlap, one begins within the other.
  have hoverlap : ∀ {y z n u v : Text}, y ≠ [] → (∀ c ∈ y, c ∉ z ++ n) → y ++ u = n ++ v →
      n = [] := by
    intro y z n u v hy hno heq
    obtain ⟨c, y, rfl⟩ := List.exists_cons_of_ne_nil hy
    cases n with
    | nil => rfl
    | cons d n =>
        rw [List.cons_append, List.cons_append, List.cons.injEq] at heq
        exact absurd (by simp [heq.1]) (hno c List.mem_cons_self)
  rw [List.append_assoc, List.append_assoc] at h
  rcases List.append_eq_append_iff.mp h with ⟨m, rfl, hm⟩ | ⟨m, rfl, hm⟩
  · rcases List.append_eq_append_iff.mp hm with ⟨n, rfl, rfl⟩ | ⟨n, rfl, hn⟩
    · exact .inl ⟨n, by simp, by simp⟩
    · obtain rfl := hoverlap hg (fun c hc hmem => hapart c hmem hc) hn
      exact .inl ⟨[], by simp, by simpa using hn.symm⟩
  · rcases List.append_eq_append_iff.mp hm with ⟨n, rfl, rfl⟩ | ⟨n, rfl, hn⟩
    · exact .inr ⟨n, by simp, by simp⟩
    · obtain rfl := hoverlap hx hapart hn
      exact .inr ⟨[], by simpa using hn.symm, by simp⟩

/-- **Two words that stand alone** in a text stand apart, or they are one and the same. -/
theorem append_eq_append_words {b x a p z s : Text} (hx : x ≠ []) (hz : z ≠ [])
    (hxblank : ∀ c ∈ x, isBlank c = false) (hzblank : ∀ c ∈ z, isBlank c = false)
    (hb : b.getLast?.all isBlank = true) (ha : a.head?.all isBlank = true)
    (hp : p.getLast?.all isBlank = true) (hs : s.head?.all isBlank = true)
    (h : b ++ x ++ a = p ++ z ++ s) :
    (∃ m, p = b ++ x ++ m ∧ a = m ++ z ++ s) ∨ (∃ m, s = m ++ x ++ a ∧ b = p ++ z ++ m) ∨
      (b = p ∧ x = z ∧ a = s) := by
  -- A word that begins before a blank ends before it.
  have hwithin : ∀ {y m u v : Text}, m ≠ [] → m.getLast?.all isBlank = true →
      (∀ c ∈ y, isBlank c = false) → y ++ u = m ++ v → ∃ n, m = y ++ n ∧ u = n ++ v := by
    intro y m u v hm hlast hy heq
    rcases List.append_eq_append_iff.mp heq with ⟨n, rfl, rfl⟩ | ⟨n, rfl, -⟩
    · exact ⟨n, rfl, rfl⟩
    · obtain ⟨m, c, rfl⟩ := (List.eq_nil_or_concat m).resolve_left hm
      rw [List.concat_eq_append, List.getLast?_concat, Option.all_some, hy c (by simp)] at hlast
      cases hlast
  rw [List.append_assoc, List.append_assoc] at h
  rcases List.append_eq_append_iff.mp h with ⟨m, rfl, hm⟩ | ⟨m, rfl, hm⟩
  · by_cases hnil : m = []
    · subst hnil
      have hword := takeWhile_append_edge hxblank ha
      rw [hm, List.nil_append, takeWhile_append_edge hzblank hs] at hword
      subst hword
      exact .inr (.inr ⟨by simp, rfl, by simpa using hm⟩)
    · rw [getLast?_append_of_ne_nil _ hnil] at hp
      obtain ⟨n, rfl, rfl⟩ := hwithin hnil hp hxblank hm
      exact .inl ⟨n, by simp, by simp⟩
  · by_cases hnil : m = []
    · subst hnil
      have hword := takeWhile_append_edge hzblank hs
      rw [hm, List.nil_append, takeWhile_append_edge hxblank ha] at hword
      subst hword
      exact .inr (.inr ⟨by simp, rfl, by simpa using hm.symm⟩)
    · rw [getLast?_append_of_ne_nil _ hnil] at hb
      obtain ⟨n, rfl, rfl⟩ := hwithin hnil hb hzblank hm
      exact .inr (.inl ⟨n, by simp, by simp⟩)

end Questionnaire.Text
