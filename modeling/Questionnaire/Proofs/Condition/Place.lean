import Questionnaire.Proofs.Condition.Malformed

/-!
# A condition in its place

One condition among others in a row (`Connective.embed`). Where it fits
(`Connective.Fits`), the row is read as what stands in it, the condition between
what was there before it and what is there behind it (`shapeOf_embed`), and the
others are read the same whatever the condition is. Trimming a row and writing
its keyword operators as symbols leave a condition in its place.
-/

namespace Questionnaire.Condition

open Text

namespace Connective

variable (k : Connective)

/-- A text and what follows it: nothing, or a sign and something behind it. -/
def followed (x : Text) : Option (Spelling × Text) → Text
  | none => x
  | some (z, rest) => x ++ k.sign z ++ rest

/-- A condition in a row: the conditions before it with the signs behind them, and what
follows it. -/
def embed (before : List (Text × Spelling)) (after : Option (Spelling × Text)) (x : Text) : Text :=
  k.row before (k.followed x after)

/-- What follows may follow. -/
def Follows (x : Text) : Option (Spelling × Text) → Prop
  | none => True
  | some (z, rest) => k.Meets z x rest ∧ isBlankText rest = false

/-- The condition fits into the row: the row is joined by the connective and by no looser one,
and nothing denies the whole of it. -/
structure Fits (before : List (Text × Spelling)) (after : Option (Spelling × Text))
    (x : Text) : Prop where
  /-- There is a row before it. -/
  stands : k.Stands before (k.followed x after)
  /-- It is itself no row. -/
  notJoins : ¬ k.Joins x
  /-- There is a row behind it. -/
  follows : k.Follows x after
  /-- It does not stand alone. -/
  several : before ≠ [] ∨ after ≠ none
  /-- OR is looser than AND. -/
  precedence : k = .and → ¬ or.Joins (k.embed before after x)
  /-- NOT is looser than both. -/
  notDenies : ¬ Denies (k.embed before after x)

instance (x : Text) : (after : Option (Spelling × Text)) → Decidable (k.Follows x after)
  | none => isTrue trivial
  | some (z, rest) => inferInstanceAs (Decidable (k.Meets z x rest ∧ isBlankText rest = false))

instance (before : List (Text × Spelling)) (after : Option (Spelling × Text)) (x : Text) :
    Decidable (k.Fits before after x) :=
  decidable_of_iff (k.Stands before (k.followed x after) ∧ ¬ k.Joins x ∧ k.Follows x after ∧
      (before ≠ [] ∨ after ≠ none) ∧ (k = .and → ¬ or.Joins (k.embed before after x)) ∧
      ¬ Denies (k.embed before after x))
    ⟨fun h => ⟨h.1, h.2.1, h.2.2.1, h.2.2.2.1, h.2.2.2.2.1, h.2.2.2.2.2⟩,
      fun h => ⟨h.stands, h.notJoins, h.follows, h.several, h.precedence, h.notDenies⟩⟩

variable {k} {before : List (Text × Spelling)} {after : Option (Spelling × Text)} {x : Text}

/-! ## Blanks around a row -/

theorem sign_ne_nil (z : Spelling) : k.sign z ≠ [] := by
  cases z <;> cases k <;> decide

theorem isBlankText_row {last : Text} (h : isBlankText last = false) :
    isBlankText (k.row before last) = false := by
  induction before with
  | nil => exact h
  | cons piece rest ih => rw [row, isBlankText_append, ih, Bool.and_false]

theorem isBlankText_followed (hx : isBlankText x = false) :
    isBlankText (k.followed x after) = false := by
  cases after with
  | none => exact hx
  | some found =>
      rw [followed, isBlankText_append, isBlankText_append, hx]
      rfl

theorem isBlankText_embed (hx : isBlankText x = false) :
    isBlankText (k.embed before after x) = false :=
  isBlankText_row (isBlankText_followed hx)

theorem trimRight_row {last : Text} (h : isBlankText last = false) :
    trimRight (k.row before last) = k.row before (trimRight last) := by
  induction before with
  | nil => rfl
  | cons piece rest ih =>
      rw [row, trimRight_append_of_not_blank _ (isBlankText_row h), ih, row]

theorem Stands.trimRight {last : Text} (hlast : isBlankText last = false)
    (h : k.Stands before last) : k.Stands before (trimRight last) := by
  induction before with
  | nil => trivial
  | cons piece rest ih =>
      refine ⟨h.1, h.2.1, ?_, ih h.2.2.2⟩
      rw [← trimRight_row hlast]
      exact h.2.2.1.trimRight (isBlankText_row hlast)

/-! ## Trimming a row -/

theorem Fits.trimLeft_nil (hx : isBlankText x = false) (h : k.Fits [] after x) :
    trimLeft (k.embed [] after x) = k.embed [] after (trimLeft x) ∧
      k.Fits [] after (trimLeft x) := by
  have heq : trimLeft (k.embed [] after x) = k.embed [] after (trimLeft x) := by
    cases after with
    | none => rfl
    | some found =>
        simp only [embed, row, followed]
        rw [List.append_assoc, trimLeft_append_of_not_blank hx, List.append_assoc]
  refine ⟨heq, trivial, fun hjoins => h.notJoins hjoins.of_trimLeft, ?_, h.several,
    fun hk hjoins => h.precedence hk (heq ▸ hjoins).of_trimLeft,
    fun hdenies => h.notDenies (heq ▸ hdenies).of_trimLeft⟩
  cases after with
  | none => trivial
  | some found => exact ⟨h.follows.1.trimLeft hx, h.follows.2⟩

theorem Fits.trimLeft_cons {p : Text} {z : Spelling} (h : k.Fits ((p, z) :: before) after x) :
    trimLeft (k.embed ((p, z) :: before) after x) = k.embed ((trimLeft p, z) :: before) after x ∧
      k.Fits ((trimLeft p, z) :: before) after x := by
  have heq := trimLeft_row (k := k) (z := z) h.stands.1 before (k.followed x after)
  exact ⟨heq, h.stands.trimLeft, h.notJoins, h.follows, .inl (by simp),
    fun hk hjoins => h.precedence hk (Joins.of_trimLeft (heq.symm ▸ hjoins)),
    fun hdenies => h.notDenies (Denies.of_trimLeft (heq.symm ▸ hdenies))⟩

theorem Fits.trimRight_none (hx : isBlankText x = false) (h : k.Fits before none x) :
    trimRight (k.embed before none x) = k.embed before none (trimRight x) ∧
      k.Fits before none (trimRight x) := by
  have heq : trimRight (k.embed before none x) = k.embed before none (trimRight x) :=
    trimRight_row hx
  exact ⟨heq, h.stands.trimRight hx, fun hjoins => h.notJoins hjoins.of_trimRight, trivial,
    h.several, fun hk hjoins => h.precedence hk (Joins.of_trimRight (heq.symm ▸ hjoins)),
    fun hdenies => h.notDenies (Denies.of_trimRight (heq.symm ▸ hdenies))⟩

theorem Fits.trimRight_some (hx : isBlankText x = false) {z : Spelling} {rest : Text}
    (h : k.Fits before (some (z, rest)) x) :
    trimRight (k.embed before (some (z, rest)) x) = k.embed before (some (z, trimRight rest)) x ∧
      k.Fits before (some (z, trimRight rest)) x := by
  have hrest := h.follows.2
  have hfollowed : trimRight (k.followed x (some (z, rest)))
      = k.followed x (some (z, trimRight rest)) := trimRight_append_of_not_blank _ hrest
  have heq : trimRight (k.embed before (some (z, rest)) x)
      = k.embed before (some (z, trimRight rest)) x := by
    rw [embed, trimRight_row (isBlankText_followed hx), hfollowed, embed]
  have hstands := h.stands.trimRight (isBlankText_followed hx)
  rw [hfollowed] at hstands
  exact ⟨heq, hstands, h.notJoins,
    ⟨h.follows.1.trimRight hrest, (isBlankText_trimRight rest).trans hrest⟩, .inr (by simp),
    fun hk hjoins => h.precedence hk (Joins.of_trimRight (heq.symm ▸ hjoins)),
    fun hdenies => h.notDenies (Denies.of_trimRight (heq.symm ▸ hdenies))⟩

/-! ## Keyword operators in a row -/

theorem Follows.normalize (h : k.Follows x after) :
    k.Follows (normalize x) (after.map fun found => (found.1, normalize found.2)) := by
  cases after with
  | none => trivial
  | some found => exact ⟨h.1.normalize, (sameBlanks_normalize found.2).blank.trans h.2⟩

theorem Fits.normalize (h : k.Fits before after x) :
    normalize (k.embed before after x) = k.embed (normalized before)
        (after.map fun found => (found.1, normalize found.2)) (normalize x) ∧
      k.Fits (normalized before) (after.map fun found => (found.1, normalize found.2))
        (normalize x) := by
  have hfollowed : Condition.normalize (k.followed x after) = k.followed (Condition.normalize x)
      (after.map fun found => (found.1, Condition.normalize found.2)) := by
    cases after with
    | none => rfl
    | some found => exact normalize_sign h.follows.1
  have heq : Condition.normalize (k.embed before after x) = k.embed (normalized before)
      (after.map fun found => (found.1, Condition.normalize found.2)) (Condition.normalize x) := by
    rw [embed, normalize_row h.stands, hfollowed, embed]
  have hstands := h.stands.normalize
  rw [hfollowed] at hstands
  refine ⟨heq, hstands, fun hjoins => h.notJoins hjoins.of_normalize, h.follows.normalize, ?_,
    fun hk hjoins => h.precedence hk (Joins.of_normalize (heq.symm ▸ hjoins)),
    fun hdenies => h.notDenies (Denies.of_normalize (heq.symm ▸ hdenies))⟩
  exact h.several.imp (by simp [normalized]) (by simp)

/-! ## Reading a row -/

/-- What is read before the place. -/
def readBefore (before : List (Text × Spelling)) : List Text :=
  before.map fun piece => trim piece.1

variable (k) in
/-- What is read behind the place. -/
def readAfter : Option (Spelling × Text) → List Text
  | none => []
  | some (_, rest) => (splitBy k.width (trimLeft rest)).map trim

variable (k) in
/-- The pattern of conditions joined by the connective. -/
def shapeOf (parts : List Text) : Shape :=
  match k with
  | or => .anyOf parts
  | and => .allOf parts

theorem row_concat (z : Spelling) (last : Text) :
    k.row (before ++ [(x, z)]) last = k.row before (x ++ k.sign z ++ last) := by
  induction before with
  | nil => rfl
  | cons piece rest ih => rw [List.cons_append, row, row, ih]

theorem Stands.concat {z : Spelling} {last : Text} (hx : isBlankText x = false)
    (hjoins : ¬ k.Joins x) (hmeets : k.Meets z x last)
    (h : k.Stands before (x ++ k.sign z ++ last)) : k.Stands (before ++ [(x, z)]) last := by
  induction before with
  | nil => exact ⟨hx, hjoins, hmeets, trivial⟩
  | cons piece rest ih =>
      refine ⟨h.1, h.2.1, ?_, ih h.2.2.2⟩
      have hmeets := h.2.2.1
      rwa [← row_concat] at hmeets

theorem length_sign_pos (z : Spelling) : 0 < (k.sign z).length :=
  List.length_pos_iff.mpr (sign_ne_nil z)

theorem length_le_row (pieces : List (Text × Spelling)) (last : Text) :
    last.length + pieces.length ≤ (k.row pieces last).length := by
  induction pieces with
  | nil => exact Nat.le_refl _
  | cons piece rest ih =>
      have hsign := length_sign_pos (k := k) piece.2
      rw [row, List.length_append, List.length_append, List.length_cons]
      omega

/-- A condition is shorter than the row that it stands in. -/
theorem Fits.length_lt (h : k.Fits before after x) :
    x.length < (k.embed before after x).length := by
  have hrow := length_le_row (k := k) before (k.followed x after)
  rw [embed]
  cases after with
  | none =>
      have := List.length_pos_iff.mpr (h.several.resolve_right (by simp))
      rw [followed] at hrow
      rw [followed]
      omega
  | some found =>
      have hsign := length_sign_pos (k := k) found.1
      rw [followed, List.length_append, List.length_append] at hrow
      rw [followed]
      omega

/-- A row is cut at its signs, and the condition in its place is one of the pieces. -/
theorem Fits.map_trim_splitBy (hx : isBlankText x = false) (h : k.Fits before after x) :
    (splitBy k.width (k.embed before after x)).map trim
      = readBefore before ++ trim x :: k.readAfter after := by
  cases after with
  | none =>
      obtain ⟨piece, rest, rfl⟩ := List.exists_cons_of_ne_nil (h.several.resolve_right (by simp))
      have hlast := splitBy_of_not_splits fun hsplits =>
        h.notJoins (Joins.of_trimLeft hsplits.joins)
      rw [embed, map_trim_splitBy_row h.stands, followed, hlast, List.map_singleton, trim_trimLeft]
      rfl
  | some found =>
      obtain ⟨z, last⟩ := found
      have hstands := Stands.concat hx h.notJoins h.follows.1 h.stands
      rw [embed, followed, ← row_concat]
      obtain ⟨piece, rest, heq⟩ :=
        List.exists_cons_of_ne_nil (show before ++ [(x, z)] ≠ [] by simp)
      rw [heq] at hstands ⊢
      rw [map_trim_splitBy_row hstands, ← heq]
      simp [readBefore, readAfter]

theorem pieces?_eq_some {width : Text → Nat} {t : Text} {parts : List Text}
    (h : (splitBy width t).map trim = parts) (hseveral : 2 ≤ parts.length) :
    pieces? width t = some parts := by
  subst h
  rw [pieces?]
  split
  · rename_i heq
    rw [heq]
  · rename_i hne
    cases hsplit : splitBy width t with
    | nil => simp [hsplit] at hseveral
    | cons first rest =>
        cases rest with
        | nil => simp [hsplit] at hseveral
        | cons second rest => exact absurd hsplit (hne first second rest)

/-- **Reading a row**: nothing but what is around the place decides whether an operator dangles,
and if none does, what is in the place is read as one of those joined. -/
theorem Fits.shapeOf_embed (hx : isBlankText x = false) (h : k.Fits before after x) :
    Condition.shapeOf (k.embed before after x)
      = if (readBefore before ++ k.readAfter after).any List.isEmpty
        then .test (.dangling (k.embed before after x))
        else k.shapeOf (readBefore before ++ trim x :: k.readAfter after) := by
  have hseveral : 2 ≤ (readBefore before ++ trim x :: k.readAfter after).length := by
    have hlength : (readBefore before).length = before.length := by simp [readBefore]
    rw [List.length_append, List.length_cons, hlength]
    rcases h.several with hbefore | hafter
    · have := List.length_pos_iff.mpr hbefore
      omega
    · obtain ⟨found, rfl⟩ := Option.ne_none_iff_exists'.mp hafter
      have := List.length_pos_iff.mpr (splitBy_ne_nil k.width (trimLeft found.2))
      simp only [readAfter, List.length_map]
      omega
  have hpieces := pieces?_eq_some (h.map_trim_splitBy hx) hseveral
  have hempty : (readBefore before ++ trim x :: k.readAfter after).any List.isEmpty
      = (readBefore before ++ k.readAfter after).any List.isEmpty := by
    have : (trim x).isEmpty = false := by
      rw [List.isEmpty_eq_false_iff]
      intro hnil
      rw [← isBlankText_trim, hnil] at hx
      cases hx
    simp [this]
  rw [Condition.shapeOf, after?_eq_none_of_not_denies h.notDenies]
  cases k with
  | or =>
      rw [show pieces? widthOr _ = _ from hpieces]
      simp only [hempty, shapeOf]
  | and =>
      have hor : pieces? widthOr (and.embed before after x) = none :=
        pieces?_of_no_match (width_eq_zero (k := or) (mt Splits.joins (h.precedence rfl)))
      rw [hor, show pieces? widthAnd _ = _ from hpieces]
      simp only [hempty, shapeOf]

end Connective

end Questionnaire.Condition
