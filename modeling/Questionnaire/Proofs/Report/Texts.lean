import Questionnaire.Proofs.Condition.Dependence
import Questionnaire.Proofs.Formula.Operands
import Questionnaire.Proofs.Report.Parts

/-!
# Names that a text hangs on

What is looked up for a placeholder is what counts in it (`mem_placeholderNames`),
although its style is cut off in two ways. So a text that does not use a name, and
looks it up only where it counts (`Accounts`), is filled alike over two scopes that
differ at that name alone (`Accounts.fill?_eq`).
-/

namespace Questionnaire

open Text

namespace Report

open Formula Template

/-! ## Styles are cut off alike -/

theorem exists_blanks {t : Text} (h : blanks t ≠ 0) :
    ∃ b, t = b ++ trimLeft t ∧ isBlankText b = true ∧ b ≠ [] := by
  obtain ⟨hsplit, hblank⟩ := blanks_spec t
  rw [drop_blanks] at hsplit
  refine ⟨t.take (blanks t), hsplit, hblank, fun hnil => h ?_⟩
  have hlength := congrArg List.length hnil
  rw [List.length_take, List.length_nil] at hlength
  have := length_blanks_le t
  omega

/-- A style stands at the end, behind a name, blanks, the word AS and blanks. -/
theorem beforeStyle?_spec {word content name : Text} (h : beforeStyle? word content = some name) :
    ∃ b b', content = name ++ (b ++ ("AS".toList ++ (b' ++ word))) ∧ isBlankText b = true ∧
      b ≠ [] ∧ isBlankText b' = true ∧ b' ≠ [] ∧ ∀ c, name.getLast? = some c → isBlank c = false := by
  -- The text is read from its end.
  rw [beforeStyle?, Option.bind_eq_some_iff] at h
  obtain ⟨behind, hbehind, h⟩ := h
  split at h
  · cases h
  · rename_i hfirst
    rw [Option.bind_eq_some_iff] at h
    obtain ⟨front, hfront, h⟩ := h
    split at h
    · cases h
    · rename_i hsecond
      cases h
      obtain ⟨b', hb', hblank', hne'⟩ := exists_blanks hfirst
      obtain ⟨b, hb, hblank, hne⟩ := exists_blanks hsecond
      rw [after?_eq_some.mp hfront, hb] at hb'
      refine ⟨b.reverse, b'.reverse, ?_, by simpa [isBlankText] using hblank, by simpa using hne,
        by simpa [isBlankText] using hblank', by simpa using hne', fun c hc => ?_⟩
      · rw [after?_eq_some, hb'] at hbehind
        have := congrArg List.reverse hbehind
        simpa using this
      · obtain ⟨_, _, _, hhead⟩ := trimLeft_spec front
        exact hhead c (by simpa using hc)

/-- Where a placeholder is cut, the count cuts it. -/
theorem beforeStyle?_of_template {word content name : Text}
    (h : Template.beforeStyle? word content = some name) :
    beforeStyle? word content = some name := by
  rw [Template.beforeStyle?, Option.bind_eq_some_iff] at h
  obtain ⟨behind, hbehind, h⟩ := h
  split at h
  · cases h
  · rename_i hfirst
    rw [Option.bind_eq_some_iff] at h
    obtain ⟨front, hfront, h⟩ := h
    split at h
    · cases h
    · rename_i hsecond
      dsimp only at h
      split at h
      · cases h
      · rw [beforeStyle?, hbehind, Option.bind_some, if_neg hfirst, hfront, Option.bind_some,
          if_neg hsecond, h]

/-- The two styles do not end alike. -/
theorem beforeStyle?_list {content name : Text}
    (h : beforeStyle? "INLINE_LIST".toList content = some name) :
    beforeStyle? "LIST".toList content = none := by
  obtain ⟨b, b', rfl, -, -, -, -, -⟩ := beforeStyle?_spec h
  have hsplit : (name ++ (b ++ ("AS".toList ++ (b' ++ "INLINE_LIST".toList)))).reverse
      = "LIST".toList.reverse ++
        ("INLINE_".toList.reverse ++ (name ++ (b ++ ("AS".toList ++ b'))).reverse) := by
    simp
  have hblanks : blanks ("INLINE_".toList.reverse ++
      (name ++ (b ++ ("AS".toList ++ b'))).reverse) = 0 := by
    simp [blanks, isBlank]
  rw [beforeStyle?, hsplit, after?_append, Option.bind_some, if_pos hblanks]

/-- A placeholder without its style has no blanks at its ends. -/
theorem trim_withoutStyle {content : Text} (h : trim content = content) :
    trim (withoutStyle content) = withoutStyle content := by
  have hcut : ∀ {word name : Text}, beforeStyle? word content = some name → trim name = name := by
    intro word name hname
    obtain ⟨b, b', hsplit, -, -, -, -, hlast⟩ := beforeStyle?_spec hname
    refine trim_eq_self (fun c hc => trim_head (t := content) ?_) hlast
    rw [h, hsplit, List.head?_append, hc]
    rfl
  rw [withoutStyle]
  cases hinline : beforeStyle? "INLINE_LIST".toList content with
  | some name => exact hcut hinline
  | none =>
      cases hlist : beforeStyle? "LIST".toList content with
      | some name => exact hcut hlist
      | none => exact h

/-- What has a style is neither an identifier nor a formula. -/
theorem not_formula_of_style {word content name : Text} (hword : Text.isName word = true)
    (h : beforeStyle? word content = some name) :
    isIdentifier content = false ∧ namesIn content = [] := by
  obtain ⟨b, b', rfl, hb, hne, hb', hne', -⟩ := beforeStyle?_spec h
  constructor
  · rw [Bool.eq_false_iff]
    intro hname
    have hbare := Condition.isBareWord_of_isIdentifier hname
    rw [isBareWord, Bool.and_eq_true] at hbare
    obtain ⟨c, b, rfl⟩ := List.exists_cons_of_ne_nil hne
    rw [isBlankText, List.all_cons, Bool.and_eq_true] at hb
    have := List.all_eq_true.mp hbare.2 c (by simp)
    rw [isWord_of_isBlank hb.1] at this
    cases this
  · rw [namesIn]
    split
    · rename_i formula hformula
      exact absurd hformula (ofText_of_adjacent hb hne (by decide) hb' hne' hword formula)
    · rfl

/-- **Style by style**: the placeholder is cut where the count cuts it, or it is no name and no
formula at all. -/
theorem cutStyle_cases {content : Text} (h : trim content = content) :
    (cutStyle content).1 = withoutStyle content ∨
      isIdentifier (cutStyle content).1 = false ∧ namesIn (cutStyle content).1 = [] := by
  have htrim := trim_withoutStyle h
  rw [withoutStyle] at htrim ⊢
  rw [cutStyle]
  cases hinline : Template.beforeStyle? "INLINE_LIST".toList content with
  | some name =>
      left
      rw [beforeStyle?_of_template hinline] at htrim ⊢
      exact htrim
  | none =>
      cases hlist : Template.beforeStyle? "LIST".toList content with
      | some name =>
          left
          have hcut := beforeStyle?_of_template hlist
          have hother : beforeStyle? "INLINE_LIST".toList content = none := by
            rw [Option.eq_none_iff_forall_ne_some]
            intro other hother
            rw [beforeStyle?_list hother] at hcut
            cases hcut
          rw [hother, hcut] at htrim ⊢
          exact htrim
      | none =>
          cases hfirst : beforeStyle? "INLINE_LIST".toList content with
          | some name => exact .inr (not_formula_of_style (by decide) hfirst)
          | none =>
              cases hsecond : beforeStyle? "LIST".toList content with
              | some name => exact .inr (not_formula_of_style (by decide) hsecond)
              | none => exact .inl rfl

/-! ## What is looked up for a placeholder -/

theorem isName_of_isIdentifier {n : Text} (h : isIdentifier n = true) : isName n = true := by
  have hbare := Condition.isBareWord_of_isIdentifier h
  cases n with
  | nil => cases h
  | cons c rest =>
      rw [isIdentifier, Bool.and_eq_true] at h
      rw [isBareWord, Bool.and_eq_true, List.all_cons, Bool.and_eq_true] at hbare
      rw [isName, h.1, hbare.2.2]
      rfl

/-- The names that are looked up for a placeholder: its own, and those of a computation. -/
def holeReads (content : Text) : List Text :=
  let name := (cutStyle (trim content)).1
  name :: if isComputation name then namesIn name else []

theorem fillHole?_congr {content : Text} {scope other : Scope}
    (h : ∀ n ∈ holeReads content, scope.get? n = other.get? n) :
    fillHole? scope content = fillHole? other content := by
  rw [fillHole?, fillHole?, meaning, meaning, h _ List.mem_cons_self]
  rw [holeReads] at h
  cases other.get? (cutStyle (trim content)).1 with
  | some value => rfl
  | none =>
      by_cases hcomputed : isComputation (cutStyle (trim content)).1 = true
      · rw [if_pos hcomputed] at h
        simp only [hcomputed, if_true]
        rw [evaluate_congr fun n hn => h n (List.mem_cons_of_mem _ hn)]
      · simp only [hcomputed, if_false, Bool.false_eq_true]

/-- **What is looked up for a placeholder counts**, unless it begins as a conditional does. -/
theorem mem_placeholderNames {content x : Text} (hx : isIdentifier x = true)
    (hstart : hasStart "IF ".toList (withoutStyle (trim content)) = false)
    (h : x ∈ holeReads content) : x ∈ placeholderNames content := by
  have hbare := Condition.isBareWord_of_isIdentifier hx
  rw [placeholderNames, hstart, if_neg Bool.false_ne_true]
  rcases cutStyle_cases (trim_trim content) with hcut | ⟨hname, hnames⟩
  · rw [holeReads, hcut] at h
    generalize withoutStyle (trim content) = name at h
    rcases List.mem_cons.mp h with rfl | h
    · rw [isComputation_of_isBareWord hbare, if_neg Bool.false_ne_true,
        if_pos (isName_of_isIdentifier hx)]
      exact List.mem_singleton_self x
    · split at h
      · rename_i hcomputed
        rw [if_pos hcomputed]
        exact Condition.mem_identifiers_of_isIdentifier hx (namesIn_subset_openWords name h)
      · cases h
  · rw [holeReads, hnames] at h
    rcases List.mem_cons.mp h with rfl | h
    · rw [hx] at hname
      cases hname
    · simp at h

/-! ## Whole texts -/

/-- The names of the placeholder are not counted: another brace stands next to it, or it begins as
a conditional does. -/
def Placeholder.isHidden (p : Placeholder) : Bool :=
  p.touches || hasStart "IF ".toList (withoutStyle (trim p.content))

end Report

namespace Template

open Report

/-- A condition that may be put while the text is settled, whatever was chosen before. -/
inductive Puts (c : Text) : Text → Prop where
  | here {t : Text} {cut : Text × Text} {size : Nat} {branches : Branches}
      (hcut : cutOpening? [] t = some cut) (hsize : closingFrom 1 0 0 cut.2 = some size)
      (hbranches : Branches.ofText? (cut.2.take size) = some branches)
      (hc : branches.condition = c) : Puts c t
  | later {choose : Text → Bool} {t : Text} {settled : Text × Text}
      (hone : settleOne? choose t = some settled) (h : Puts c settled.2) : Puts c t

/-- A text whose names all count: it has no blocks, or it writes a tree, the conditions in it look
the name up only where it counts, and no placeholder for which it is looked up is hidden. -/
structure Counts (x t : Text) : Prop where
  /-- The conditions of the text are found. -/
  blocks : ¬ "\x7b\x7b".toList <:+: t ∨ ∃ tree : Tree, tree.IsWellFormed ∧ tree.source = t ∧
    ∀ c ∈ tree.conditions, Condition.Accounts x (trim c)
  /-- Its placeholders are found where the name is looked up. -/
  placeholders : ∀ p ∈ placesFrom none t, x ∈ holeReads p.content → p.isHidden = false

/-- A text of any form for which the name is not looked up, whatever is chosen. -/
structure Ignores (x t : Text) : Prop where
  conditions : ∀ c, Puts c t → Condition.Accounts x c ∧ x ∉ Validation.references c
  placeholders : ∀ (choose : Text → Bool) content,
    .hole content ∈ pieces (settle choose t) → x ∉ holeReads content

/-- The name is looked up in a text only where it counts. -/
def Accounts (x t : Text) : Prop := Counts x t ∨ Ignores x t

/-! ## Texts of any form -/

/-- One block is settled alike if its condition is answered alike. -/
theorem settleOne?_congr {choose other : Text → Bool} {t : Text}
    (h : ∀ c, Puts c t → choose c = other c) : settleOne? choose t = settleOne? other t := by
  rw [settleOne?, settleOne?]
  refine Option.bind_congr fun cut hcut => Option.map_congr fun size hsize => ?_
  cases hbranches : Branches.ofText? (cut.2.take size) with
  | none => rfl
  | some branches => simp only [h branches.condition (.here hcut hsize hbranches rfl)]

/-- So is a whole text, by induction on what is still to be settled. -/
theorem settle_congr {choose other : Text → Bool} {t : Text}
    (h : ∀ c, Puts c t → choose c = other c) : settle choose t = settle other t := by
  have hone := settleOne?_congr h
  rw [settle_eq choose, settle_eq other, ← hone]
  cases hsettled : settleOne? choose t with
  | none => rfl
  | some settled =>
      have := length_settleOne? hsettled
      exact congrArg (settled.1 ++ ·) (settle_congr fun c hc => h c (.later hsettled hc))
termination_by t.length

/-- The conditions of a tree count in its text. -/
theorem mem_textReferences_of_condition {tree : Tree} (h : tree.IsWellFormed) {c x : Text}
    (hc : c ∈ tree.conditions) (hx : x ∈ Validation.references (trim c)) :
    x ∈ textReferences tree.source := by
  have hfound := conditionsFrom_source h []
  rw [List.append_nil] at hfound
  rw [textReferences, hfound]
  exact List.mem_append_left _ (List.mem_flatMap.mpr
    ⟨trim c, List.mem_append_left _ (List.mem_map_of_mem hc), hx⟩)

/-- Without a pair of braces nothing is settled. -/
theorem settle_of_no_pair {choose : Text → Bool} {t : Text} (h : ¬ "\x7b\x7b".toList <:+: t) :
    settle choose t = t := by
  have hcut : ∀ (t before : Text), ¬ "\x7b\x7b".toList <:+: t → cutOpening? before t = none := by
    intro t
    induction t with
    | nil => exact fun before _ => rfl
    | cons c t ih =>
        intro before hpair
        rw [cutOpening?]
        · exact ih _ fun hmem => hpair (hmem.trans (List.suffix_cons c t).isInfix)
        · rintro more rfl rfl
          exact hpair ⟨[], more, rfl⟩
  rw [settle_eq, settleOne?, hcut t [] h]
  rfl

theorem fillPieces?_congr {scope other : Scope} {pieces : List Piece}
    (h : ∀ content, .hole content ∈ pieces → fillHole? scope content = fillHole? other content) :
    fillPieces? scope pieces = fillPieces? other pieces := by
  induction pieces with
  | nil => rfl
  | cons piece rest ih =>
      have hrest := ih fun content hmem => h content (List.mem_cons_of_mem _ hmem)
      cases piece with
      | plain c => rw [fillPieces?, fillPieces?, hrest]
      | hole content => rw [fillPieces?_hole, fillPieces?_hole, hrest, h content List.mem_cons_self]

section

variable {x t : Text} {scope other : Scope} (hname : isIdentifier x = true)
  (hreserved : x ∉ Validation.reserved) (hapart : scope.KeepsApart x)
  (hsame : scope.SameBut x other)
include hname hreserved hapart hsame

theorem Counts.fill?_eq (h : Counts x t) (hunused : x ∉ textReferences t) :
    fill? scope t = fill? other t := by
  -- A placeholder for which the name is looked up would count.
  have hhole : ∀ p ∈ placesFrom none t, fillHole? scope p.content = fillHole? other p.content := by
    refine fun p hp => fillHole?_congr fun n hn => hsame n ?_
    rintro rfl
    have hshown := h.placeholders p hp hn
    rw [Placeholder.isHidden, Bool.or_eq_false_iff] at hshown
    refine hunused (List.mem_append_right _ (List.mem_flatMap.mpr ⟨p.content, ?_, ?_⟩))
    · exact mem_placeholdersFrom List.not_mem_nil hp hshown.1
    · exact mem_placeholderNames hname hshown.2 hn
  rcases h.blocks with hflat | ⟨tree, hwell, rfl, hconditions⟩
  · rw [fill?, fill?, settle_of_no_pair hflat, settle_of_no_pair hflat]
    refine fillPieces?_congr fun content hmem => ?_
    obtain ⟨p, hp, rfl⟩ := exists_place_of_piece hmem
    exact hhole p hp
  · rw [(fill?_source scope hwell).1, (fill?_source other hwell).1]
    refine Tree.filled?_congr (fun c hc => ?_) fun content hmem => ?_
    · rw [← Condition.evaluate_trim c scope, ← Condition.evaluate_trim c other]
      exact (hconditions c hc).evaluate_eq hname hreserved
        (fun hmem => hunused (mem_textReferences_of_condition hwell hc hmem)) hapart hsame
    · obtain ⟨p, hp, rfl⟩ := exists_place_of_hole hwell hmem
      exact hhole p hp

theorem Ignores.fill?_eq (h : Ignores x t) : fill? scope t = fill? other t := by
  have hsettle : settle (Condition.evaluate · scope) t = settle (Condition.evaluate · other) t :=
    settle_congr fun c hc => (h.conditions c hc).1.evaluate_eq hname hreserved
      (h.conditions c hc).2 hapart hsame
  rw [fill?, fill?, ← hsettle]
  refine fillPieces?_congr fun content hmem => fillHole?_congr fun n hn => hsame n ?_
  rintro rfl
  exact h.placeholders _ content hmem hn

/-- **A text does not hang on a name** that it does not use, if the name is looked up only where
it counts. -/
theorem Accounts.fill?_eq (h : Accounts x t) (hunused : x ∉ textReferences t) :
    fill? scope t = fill? other t :=
  h.elim (fun h => h.fill?_eq hname hreserved hapart hsame hunused)
    fun h => h.fill?_eq hname hreserved hapart hsame

end

end Template
end Questionnaire
