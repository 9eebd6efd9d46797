import Questionnaire.Proofs.Template.Scan

/-!
# The parts of a conditional

The words THEN and ELSE cut the inside of a conditional where they were written:
no earlier word of the kind stands alone outside the blocks in it. So the inside
of a conditional gives back its condition and its branches.
-/

namespace Questionnaire.Template

open Text

variable {word : Text}

/-! ## Where a word is found -/

theorem wordAlone?_eq_some {before t tail : Text} :
    wordAlone? word before t = some tail ↔
      before.head?.all isBlank = true ∧ t = word ++ tail ∧ tail.head?.all isBlank = true := by
  have hedge : ∀ o : Option Char, (o.map isBlank).getD true = o.all isBlank := by
    rintro (_ | c) <;> rfl
  rw [wordAlone?, hedge]
  by_cases h : before.head?.all isBlank = true
  · simp [h, hedge, Option.filter_eq_some_iff, after?_eq_some]
  · simp [h]

/-- Where a text goes on with what is not in the word, the word ends before. -/
theorem append_of_word {r v tail : Text} (h : r ++ v = word ++ tail)
    (hv : ∀ c, v.head? = some c → c ∉ word) : ∃ a, r = word ++ a ∧ tail = a ++ v := by
  rcases List.append_eq_append_iff.mp h with ⟨a, hword, hsplit⟩ | ⟨a, hr, htail⟩
  · cases a with
    | nil => exact ⟨[], by simpa using hword.symm, by simpa using hsplit.symm⟩
    | cons c a =>
        refine absurd ?_ (hv c (by rw [hsplit]; rfl))
        rw [hword]
        exact List.mem_append_right _ List.mem_cons_self
  · exact ⟨a, hr, htail⟩

/-- A word that begins in front of a tree, or in its plain texts, is found in its outline too. -/
theorem word_of_outline (hw : Separates word) {u : Text} (hu : u.head?.all isBlank = true)
    (tree : Tree) : ∀ {r tail : Text}, r ++ (tree.source ++ u) = word ++ tail →
      tail.head?.all isBlank = true →
      ∃ tail', r ++ tree.outline = word ++ tail' ∧ tail'.head?.all isBlank = true := by
  -- An opening brace is in no word, and is no blank behind one.
  have hbrace : ∀ {r tail x y : Text}, r ++ '\x7b' :: x = word ++ tail →
      tail.head?.all isBlank = true →
      ∃ tail', r ++ '\x7b' :: y = word ++ tail' ∧ tail'.head?.all isBlank = true := by
    intro r tail x y h htail
    obtain ⟨a, rfl, rfl⟩ := append_of_word h fun c hc => by
      obtain rfl : '\x7b' = c := by simpa using hc
      exact fun hmem => absurd (hw.isInside hmem) (by decide)
    refine ⟨a ++ '\x7b' :: y, by simp, ?_⟩
    cases a <;> simpa using htail
  induction tree with
  | nil =>
      intro r tail h htail
      obtain ⟨a, rfl, rfl⟩ := append_of_word h fun c hc hmem => by
        have hblank : isBlank c = true := by
          rw [show (Tree.source .nil ++ u).head? = u.head? from rfl] at hc
          simpa [hc] using hu
        simp [hw.isBlank hmem] at hblank
      refine ⟨a, by simp [Tree.outline], ?_⟩
      cases a with
      | nil => rfl
      | cons c a => simpa using htail
  | text t rest ih =>
      intro r tail h htail
      have hsplit : r ++ t ++ (rest.source ++ u) = word ++ tail := by
        simpa [Tree.source] using h
      simpa [Tree.outline] using ih hsplit htail
  | hole content rest _ =>
      intro r tail h htail
      simp only [Tree.source, written, List.append_assoc, List.cons_append] at h
      simpa only [Tree.outline, written, List.append_assoc, List.cons_append] using hbrace h htail
  | oneWay condition yes rest _ _ =>
      intro r tail h htail
      simp only [Tree.source, block, List.append_assoc, List.cons_append] at h
      simpa only [Tree.outline, block, List.append_assoc, List.cons_append] using hbrace h htail
  | twoWay condition yes no rest _ _ _ =>
      intro r tail h htail
      simp only [Tree.source, block, List.append_assoc, List.cons_append] at h
      simpa only [Tree.outline, block, List.append_assoc, List.cons_append] using hbrace h htail

/-! ## Where no word is found -/

/-- What stands before a place, in the text and in its outline, is alike as to blanks. -/
def SameEdge (before done : Text) : Prop :=
  before.head?.all isBlank = done.getLast?.all isBlank

theorem SameEdge.append {before done : Text} (h : SameEdge before done) {t u : Text}
    (ht : t.getLast? = u.getLast?) : SameEdge (t.reverse ++ before) (done ++ u) := by
  rw [SameEdge, List.head?_append, List.getLast?_append, List.head?_reverse, ht]
  cases u.getLast? with
  | none => exact h
  | some c => rfl

/-- No word is found in a piece of a tree if none stands in the outline. -/
theorem quiet_of_not_stands (hw : Separates word) {u : Text} (hu : u.head?.all isBlank = true)
    (rest : Tree) {t before done : Text} (hedge : SameEdge before done)
    (h : ¬ StandsAlone word (done ++ (t ++ rest.outline))) :
    Quiet word (rest.source ++ u) before t := by
  induction t generalizing before done with
  | nil => trivial
  | cons c t ih =>
      constructor
      · refine Option.eq_none_iff_forall_ne_some.mpr fun tail htail => h ?_
        obtain ⟨hbefore, hsplit, hafter⟩ := wordAlone?_eq_some.mp htail
        obtain ⟨tail', hsplit', hafter'⟩ := word_of_outline hw hu rest hsplit hafter
        exact ⟨done, tail', by rw [hsplit', List.append_assoc], by rwa [← hedge], hafter'⟩
      · exact ih (hedge.append (t := [c]) (u := [c]) rfl) (by simpa using h)

/-- A blank is passed. -/
theorem cutWordFrom_blank (hw : Separates word) (before u : Text) :
    cutWordFrom word 0 before (' ' :: u) = cutWordFrom word 0 (' ' :: before) u := by
  refine cutWordFrom_run (t := [' ']) (unpaired_of_inside (by decide) u) fun _ => ⟨?_, trivial⟩
  refine Option.eq_none_iff_forall_ne_some.mpr fun tail htail => ?_
  obtain ⟨_, hsplit, _⟩ := wordAlone?_eq_some.mp htail
  obtain ⟨c, word, rfl⟩ := List.exists_cons_of_ne_nil hw.ne_nil
  obtain ⟨rfl, _⟩ := List.cons.inj hsplit
  exact absurd (hw.isBlank List.mem_cons_self) (by decide)

/-- A word between blanks is found. -/
theorem cutWordFrom_word (hw : Separates word) (before u : Text) :
    cutWordFrom word 0 before (' ' :: (word ++ ' ' :: u))
      = some (before.reverse ++ [' '], ' ' :: u) := by
  rw [cutWordFrom_blank hw]
  have hfound : wordAlone? word (' ' :: before) (word ++ ' ' :: u) = some (' ' :: u) :=
    wordAlone?_eq_some.mpr ⟨rfl, rfl, rfl⟩
  obtain ⟨c, word, rfl⟩ := List.exists_cons_of_ne_nil hw.ne_nil
  obtain ⟨hopen, hclose⟩ := ne_of_isInside (hw.isInside List.mem_cons_self)
  rw [List.cons_append] at hfound ⊢
  rw [cutWordFrom]
  · simp [hfound]
  · exact fun _ h => absurd h hopen
  · exact fun _ h => absurd h hclose

/-- **The search for a word goes over a tree** in whose outline it does not stand. -/
theorem cutWordFrom_source (hw : Separates word) {tree : Tree} (h : tree.IsWellFormed)
    {u : Text} (hu : u.head?.all isBlank = true) {before done : Text}
    (hedge : SameEdge before done) (hstands : ¬ StandsAlone word (done ++ tree.outline)) :
    cutWordFrom word 0 before (tree.source ++ u)
      = cutWordFrom word 0 (tree.source.reverse ++ before) u := by
  have hhead : ∀ {rest : Tree}, rest.IsWellFormed → (rest.source ++ u).head? ≠ some '\x7d' := by
    intro rest hrest
    by_cases hnil : rest.source = []
    · rw [hnil, List.nil_append]
      intro hclose
      simp [hclose, Tree.isBlank_brace] at hu
    · exact hrest.balanced.head?_append_ne hnil u
  induction tree generalizing before done with
  | nil => rfl
  | text t rest ih =>
      have hin : t.all isInside = true := List.all_eq_true.mpr fun c hc => (h.1 c hc).1
      rw [Tree.source, List.append_assoc, cutWordFrom_run (unpaired_of_inside hin _)
        fun _ => quiet_of_not_stands hw hu rest hedge hstands,
        ih h.2 (hedge.append rfl) (by simpa [Tree.outline] using hstands)]
      simp
  | hole content rest ih =>
      rw [Tree.source, List.append_assoc,
        cutWordFrom_run (unpaired_written h.1 h.2.1 (hhead h.2.2))
          fun _ => quiet_of_not_stands hw hu rest hedge hstands,
        ih h.2.2 (hedge.append rfl) (by simpa [Tree.outline] using hstands)]
      simp
  | oneWay condition yes rest _ ih =>
      obtain ⟨hc, hyes, _, hrest⟩ := h
      have hinside := hc.balanced.append hyes.balanced
      rw [Tree.source, List.append_assoc, cutWordFrom_block hw hinside before (hhead hrest),
        ih hrest (hedge.append (u := block []) (by simp)) (by simpa [Tree.outline] using hstands)]
      simp
  | twoWay condition yes no rest _ _ ih =>
      obtain ⟨hc, hyes, _, hno, hrest⟩ := h
      have hinside := balanced_choice hc hyes.balanced hno.balanced
      rw [Tree.source, List.append_assoc, cutWordFrom_block hw hinside before (hhead hrest),
        ih hrest (hedge.append (u := block []) (by simp)) (by simpa [Tree.outline] using hstands)]
      simp

/-! ## The two words -/

theorem separates_then : Separates "THEN".toList :=
  ⟨by decide, by decide, by decide⟩

theorem separates_else : Separates "ELSE".toList :=
  ⟨by decide, by decide, by decide⟩

/-- The word THEN cuts the inside of a conditional behind its condition. -/
theorem cutWord?_then {condition : Text} (h : IsCondition condition) (branches : Text) :
    cutWord? "THEN".toList (trimLeft condition ++ (" THEN ".toList ++ branches))
      = some (trimLeft condition ++ [' '], ' ' :: branches) := by
  obtain ⟨before, hsplit, hblank, _⟩ := trimLeft_spec condition
  have hin : (trimLeft condition).all isInside = true := by
    have := h.inside
    rw [hsplit, List.all_append, Bool.and_eq_true] at this
    exact this.2
  have hedge : SameEdge [] [] := rfl
  have hstands : ¬ StandsAlone "THEN".toList ([] ++ (trimLeft condition ++ Tree.nil.outline)) := by
    intro hmem
    apply h.standing
    rw [hsplit]
    exact StandsAlone.append_left (by simpa [Tree.outline] using hmem) hblank
  have hquiet : Quiet "THEN".toList (" THEN ".toList ++ branches) [] (trimLeft condition) :=
    quiet_of_not_stands separates_then (u := " THEN ".toList ++ branches) rfl Tree.nil hedge hstands
  rw [cutWord?, cutWordFrom_run (unpaired_of_inside hin _) fun _ => hquiet]
  have hword := cutWordFrom_word separates_then ((trimLeft condition).reverse ++ []) branches
  simpa using hword

/-- The search for the word ELSE goes over the first branch of a conditional. -/
theorem cutWord?_else {yes : Tree} (h : yes.IsWellFormed)
    (hstands : ¬ StandsAlone "ELSE".toList yes.outline) {u : Text} (hu : u.head?.all isBlank = true) :
    cutWord? "ELSE".toList (' ' :: (yes.source ++ u))
      = cutWordFrom "ELSE".toList 0 (yes.source.reverse ++ [' ']) u := by
  have hedge : SameEdge [' '] [] := rfl
  rw [cutWord?, cutWordFrom_blank separates_else,
    cutWordFrom_source separates_else h hu hedge hstands]

/-- What the inside of a conditional is cut into. -/
theorem ofText?_opening {condition : Text} (h : IsCondition condition) (branches : Text) :
    Branches.ofText? (opening condition ++ branches)
      = match cutWord? "ELSE".toList (' ' :: branches) with
        | none => some ⟨trim condition, trim branches, []⟩
        | some both => some ⟨trim condition, trim both.1, trim both.2⟩ := by
  have hstart : trimLeft (opening condition ++ branches)
      = "IF".toList ++ ' ' :: (condition ++ (" THEN ".toList ++ branches)) := by
    rw [trimLeft_eq_self_of_head]
    · simp [opening]
    · intro c hc
      obtain rfl : 'I' = c := by simpa [opening] using hc
      decide
  have hrest : trimLeft (' ' :: (condition ++ (" THEN ".toList ++ branches)))
      = trimLeft condition ++ (" THEN ".toList ++ branches) := by
    rw [← List.singleton_append, trimLeft_append_of_blank (by decide),
      trimLeft_append_of_not_blank h.notBlank]
  have hblanks : blanks (' ' :: (condition ++ (" THEN ".toList ++ branches))) ≠ 0 := by
    simp [blanks, show isBlank ' ' = true by decide]
  have hnotBlank : isBlankText (trimLeft condition ++ [' ']) = false := by
    rw [isBlankText, List.all_append, ← isBlankText, isBlankText_trimLeft, h.notBlank,
      Bool.false_and]
  have htrim : trim (trimLeft condition ++ [' ']) = trim condition := by
    rw [trim_append_blank _ (by decide), trim_trimLeft]
  have hyes : trim (' ' :: branches) = trim branches := trim_cons_blank (by decide) _
  rw [Branches.ofText?, hstart, after?_append]
  cases helse : cutWord? "ELSE".toList (' ' :: branches) <;>
    simp only [Option.bind_some, hblanks, if_false, hrest, cutWord?_then h, hnotBlank, htrim, hyes,
      helse, Bool.false_eq_true]

/-- **A conditional with one branch gives back its parts**, without the blanks around them. -/
theorem ofText?_oneWay {condition : Text} (h : IsCondition condition) {yes : Tree}
    (hyes : yes.IsWellFormed) (hstands : ¬ StandsAlone "ELSE".toList yes.outline) :
    Branches.ofText? (opening condition ++ yes.source)
      = some ⟨trim condition, trim yes.source, []⟩ := by
  have helse := cutWord?_else hyes hstands (u := []) rfl
  rw [List.append_nil] at helse
  rw [ofText?_opening h, helse]
  rfl

/-- **A conditional with two branches gives back its parts**, without the blanks around them. -/
theorem ofText?_twoWay {condition : Text} (h : IsCondition condition) {yes : Tree}
    (hyes : yes.IsWellFormed) (hstands : ¬ StandsAlone "ELSE".toList yes.outline) (no : Text) :
    Branches.ofText? (choice condition yes.source no)
      = some ⟨trim condition, trim yes.source, trim no⟩ := by
  have helse := cutWord?_else hyes hstands (u := " ELSE ".toList ++ no) rfl
  have hword := cutWordFrom_word separates_else (yes.source.reverse ++ [' ']) no
  have hsplit : choice condition yes.source no
      = opening condition ++ (yes.source ++ (" ELSE ".toList ++ no)) := by
    simp [choice]
  have hfound : cutWord? "ELSE".toList (' ' :: (yes.source ++ (" ELSE ".toList ++ no)))
      = some (' ' :: yes.source ++ [' '], ' ' :: no) := by
    rw [helse]
    simpa using hword
  rw [hsplit, ofText?_opening h, hfound]
  simp only [trim_append_blank _ (show [' '].all isBlank = true by decide),
    trim_cons_blank (show isBlank ' ' = true by decide)]

end Questionnaire.Template
