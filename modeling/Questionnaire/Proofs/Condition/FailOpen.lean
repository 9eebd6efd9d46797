import Questionnaire.Proofs.Condition.Place

/-!
# Fail-open

A condition that cannot be read holds, and that is settled where it stands and
not for the whole condition around it: every denial above a malformed part turns
the answer over. A condition with a place in it is a `Frame`; what is put in the
place stands under as many denials as there are NOTs read above it. Where their
number is even, a malformed condition in the place hides nothing that another
one would show; where it is odd, it shows nothing that another one would hide,
and so it may hide what another one shows (`evaluate_fill`).

The argument goes along two conditions that are the same but for one leaf
(`Twin`). Reading both one step further leaves them so, with one denial less
above the leaf if the step was a denial.
-/

namespace Questionnaire.Condition

open Text

/-! ## Conditions with a place in them -/

/-- A condition with a place in it: the place itself, a condition with a place under a NOT, or
in a row of conditions under one connective. Texts bring the blanks around them along. -/
inductive Frame where
  | hole
  | denial (lead : Text) (inner : Frame)
  | among (k : Connective) (before : List (Text × Spelling)) (inner : Frame)
      (after : Option (Spelling × Text))

namespace Frame

/-- The condition with a text in its place. -/
def fill (t : Text) : Frame → Text
  | hole => t
  | denial lead inner => lead ++ "NOT".toList ++ inner.fill t
  | among k before inner after => k.embed before after (inner.fill t)

/-- The number of denials over the place. -/
def denials : Frame → Nat
  | hole => 0
  | denial _ inner => inner.denials + 1
  | among _ _ inner _ => inner.denials

/-- The text is a leaf, and with it in the place every NOT and every connective is read where
the frame has it. -/
def Takes (t : Text) : Frame → Prop
  | hole => IsLeaf t
  | denial lead inner =>
    isBlankText lead = true ∧ (inner.fill t).head? = some ' ' ∧ inner.Takes t
  | among k before inner after => k.Fits before after (inner.fill t) ∧ inner.Takes t

/-- Nothing stands behind the place. -/
def IsLast : Frame → Prop
  | hole => True
  | denial _ inner => inner.IsLast
  | among _ _ inner after => after = none ∧ inner.IsLast

/-- Whether a frame takes a text is settled along the frame. -/
def decideTakes (t : Text) : (frame : Frame) → Decidable (frame.Takes t)
  | hole => inferInstanceAs (Decidable (IsLeaf t))
  | denial lead inner =>
    have := inner.decideTakes t
    inferInstanceAs (Decidable (isBlankText lead = true ∧ (inner.fill t).head? = some ' ' ∧
      inner.Takes t))
  | among k before inner after =>
    have := inner.decideTakes t
    inferInstanceAs (Decidable (k.Fits before after (inner.fill t) ∧ inner.Takes t))

instance (t : Text) (frame : Frame) : Decidable (frame.Takes t) := frame.decideTakes t

variable {frame : Frame} {t : Text}

theorem Takes.notBlank (h : frame.Takes t) : isBlankText (frame.fill t) = false := by
  induction frame with
  | hole => exact IsLeaf.notBlank h
  | denial lead inner ih =>
      rw [fill, isBlankText_append, ih h.2.2, Bool.and_false]
  | among k before inner after ih => exact Connective.isBlankText_embed (ih h.2)

/-- Where nothing stands behind the place, the blanks at the end are those of what is in it. -/
theorem Takes.trimRight (hlast : frame.IsLast) (h : frame.Takes t) :
    trimRight (frame.fill t) = frame.fill (trimRight t) ∧ frame.Takes (trimRight t) := by
  induction frame with
  | hole => exact ⟨rfl, IsLeaf.trimRight h⟩
  | denial lead inner ih =>
      obtain ⟨heq, htakes⟩ := ih hlast h.2.2
      refine ⟨?_, h.1, ?_, htakes⟩
      · rw [fill, trimRight_append_of_not_blank _ h.2.2.notBlank, heq, fill]
      · rw [← heq, head?_trimRight h.2.2.notBlank, h.2.1]
  | among k before inner after ih =>
      obtain ⟨rfl, hlast⟩ := hlast
      obtain ⟨heq, htakes⟩ := ih hlast h.2
      have hfits := h.1.trimRight_none h.2.notBlank
      rw [heq] at hfits
      exact ⟨hfits.1, hfits.2, htakes⟩

end Frame

/-! ## The same but for one leaf -/

/-- The two conditions are the same but for one leaf under the given number of denials, which is
broken in the first. -/
inductive Twin : Nat → Text → Text → Prop
  | leaf {c d : Text} : IsLeaf c → IsBroken c → isBlankText d = false → Twin 0 c d
  | denial {n : Nat} {lead c d : Text} : isBlankText lead = true → c.head? = some ' ' →
    d.head? = some ' ' → Twin n c d →
    Twin (n + 1) (lead ++ "NOT".toList ++ c) (lead ++ "NOT".toList ++ d)
  | among {n : Nat} {k : Connective} {before : List (Text × Spelling)}
    {after : Option (Spelling × Text)} {c d : Text} : k.Fits before after c →
    k.Fits before after d → Twin n c d →
    Twin n (k.embed before after c) (k.embed before after d)

theorem Frame.twin {frame : Frame} {m w : Text} (hbroken : IsBroken m) (hm : frame.Takes m)
    (hw : frame.Takes w) : Twin frame.denials (frame.fill m) (frame.fill w) := by
  induction frame with
  | hole => exact .leaf hm hbroken hw.notBlank
  | denial lead inner ih => exact .denial hm.1 hm.2.1 hw.2.1 (ih hm.2.2 hw.2.2)
  | among k before inner after ih => exact .among hm.1 hw.1 (ih hm.2 hw.2)

namespace Twin

variable {n : Nat} {c d : Text}

theorem notBlank (h : Twin n c d) : isBlankText c = false ∧ isBlankText d = false := by
  have hnot : ∀ lead t : Text, isBlankText (lead ++ "NOT".toList ++ t) = false := by
    intro lead t
    have hword : isBlankText "NOT".toList = false := by decide
    rw [isBlankText_append, isBlankText_append, hword, Bool.and_false]
    rfl
  induction h with
  | leaf hleaf _ hd => exact ⟨hleaf.notBlank, hd⟩
  | denial => exact ⟨hnot _ _, hnot _ _⟩
  | among _ _ _ ih =>
      exact ⟨Connective.isBlankText_embed ih.1, Connective.isBlankText_embed ih.2⟩

/-! ## Reading on -/

theorem head?_normalize_space {t : Text} (h : t.head? = some ' ') :
    (Condition.normalize t).head? = some ' ' :=
  normalize_induction (P := fun t => t.head? = some ' ') h fun keyword _ t ht =>
    (rewrites_spaced keyword t).head?_space ht

theorem normalize (h : Twin n c d) : Twin n (normalize c) (normalize d) := by
  induction h with
  | leaf hleaf hbroken hd =>
      exact .leaf hleaf.normalize hbroken.normalize ((sameBlanks_normalize _).blank.trans hd)
  | denial hlead hc hd _ ih =>
      rw [normalize_append_not hlead (by rw [hc]; rfl), normalize_append_not hlead (by rw [hd]; rfl)]
      exact .denial ((sameBlanks_normalize _).blank.trans hlead) (head?_normalize_space hc)
        (head?_normalize_space hd) ih
  | among hc hd _ ih =>
      obtain ⟨heqc, hc⟩ := hc.normalize
      obtain ⟨heqd, hd⟩ := hd.normalize
      rw [heqc, heqd]
      exact .among hc hd ih

theorem trimLeft (h : Twin n c d) : Twin n (trimLeft c) (trimLeft d) := by
  induction h with
  | leaf hleaf hbroken hd =>
      exact .leaf hleaf.trimLeft hbroken.trimLeft ((isBlankText_trimLeft _).trans hd)
  | denial hlead hc hd h _ =>
      have htrim : ∀ t : Text, Text.trimLeft ("NOT".toList ++ t) = [] ++ "NOT".toList ++ t :=
        fun t => trimLeft_eq_self_of_head (by simp [isBlank])
      rw [List.append_assoc, List.append_assoc, trimLeft_append_of_blank hlead,
        trimLeft_append_of_blank hlead, htrim, htrim]
      exact .denial rfl hc hd h
  | @among n k before after c d hc hd h ih =>
      cases before with
      | nil =>
          obtain ⟨heqc, hc⟩ := hc.trimLeft_nil h.notBlank.1
          obtain ⟨heqd, hd⟩ := hd.trimLeft_nil h.notBlank.2
          rw [heqc, heqd]
          exact .among hc hd ih
      | cons piece before =>
          obtain ⟨heqc, hc⟩ := hc.trimLeft_cons
          obtain ⟨heqd, hd⟩ := hd.trimLeft_cons
          rw [heqc, heqd]
          exact .among hc hd h

theorem trimRight (h : Twin n c d) : Twin n (trimRight c) (trimRight d) := by
  induction h with
  | leaf hleaf hbroken hd =>
      exact .leaf hleaf.trimRight hbroken.trimRight ((isBlankText_trimRight _).trans hd)
  | denial hlead hc hd h ih =>
      rw [trimRight_append_of_not_blank _ h.notBlank.1,
        trimRight_append_of_not_blank _ h.notBlank.2]
      exact .denial hlead (by rw [head?_trimRight h.notBlank.1, hc])
        (by rw [head?_trimRight h.notBlank.2, hd]) ih
  | @among n k before after c d hc hd h ih =>
      cases after with
      | none =>
          obtain ⟨heqc, hc⟩ := hc.trimRight_none h.notBlank.1
          obtain ⟨heqd, hd⟩ := hd.trimRight_none h.notBlank.2
          rw [heqc, heqd]
          exact .among hc hd ih
      | some found =>
          obtain ⟨heqc, hc⟩ := hc.trimRight_some h.notBlank.1
          obtain ⟨heqd, hd⟩ := hd.trimRight_some h.notBlank.2
          rw [heqc, heqd]
          exact .among hc hd h

/-- What the outermost patterns of the two are looked for in. -/
theorem read (h : Twin n c d) :
    Twin n (trim (Condition.normalize (trim c))) (trim (Condition.normalize (trim d))) :=
  h.trimLeft.trimRight.normalize.trimLeft.trimRight

end Twin

/-! ## The answers -/

theorem shape_of_not_blank {t : Text} (h : isBlankText t = false) :
    shape t = shapeOf (trim (normalize (trim t))) := by
  simp [shape, h]

theorem length_read_le (t : Text) : (trim (normalize (trim t))).length ≤ t.length :=
  Nat.le_trans (length_trim_le _) (Nat.le_trans (length_normalize_le _) (length_trim_le t))

theorem evaluate_of_shapeOf {k : Connective} {t : Text} {parts : List Text} {scope : Scope}
    (h : shape t = k.shapeOf parts) : evaluate t scope =
      match k with
      | .or => parts.any (evaluate · scope)
      | .and => parts.all (evaluate · scope) := by
  cases k with
  | or => exact evaluate_of_shape_anyOf h
  | and => exact evaluate_of_shape_allOf h

theorem evaluate_of_denial {t x : Text} {scope : Scope} (hx : x.head? = some ' ')
    (h : shape t = shapeOf ("NOT".toList ++ x)) : evaluate t scope = !evaluate x scope := by
  obtain ⟨rest, rfl⟩ := List.head?_eq_some_iff.mp hx
  have hdenial : shapeOf ("NOT".toList ++ ' ' :: rest) = .denial rest := by
    have hafter : after? "NOT ".toList ("NOT".toList ++ ' ' :: rest) = some rest := rfl
    rw [shapeOf, hafter]
  rw [evaluate_of_shape_denial (h.trans hdenial), ← evaluate_trim (' ' :: rest),
    trim_cons_blank isBlank_space, evaluate_trim]

/-- Of two rows that differ in one condition the one holds if the other does, if that is so of
the two conditions. -/
theorem evaluate_imp_of_embed {k : Connective} {before : List (Text × Spelling)}
    {after : Option (Spelling × Text)} {x y c d : Text} {scope : Scope}
    (hx : isBlankText x = false) (hy : isBlankText y = false) (hfx : k.Fits before after x)
    (hfy : k.Fits before after y) (hc : shape c = shapeOf (k.embed before after x))
    (hd : shape d = shapeOf (k.embed before after y))
    (h : evaluate x scope = true → evaluate y scope = true) :
    evaluate c scope = true → evaluate d scope = true := by
  rw [hfx.shapeOf_embed hx] at hc
  rw [hfy.shapeOf_embed hy] at hd
  split at hd
  · intro _
    rw [evaluate_of_shape_test hd]
    rfl
  · rename_i hdangles
    rw [if_neg hdangles] at hc
    rw [evaluate_of_shapeOf hc, evaluate_of_shapeOf hd]
    cases k with
    | or =>
        simp only [List.any_append, List.any_cons, evaluate_trim, Bool.or_eq_true]
        exact Or.imp_right (Or.imp_left h)
    | and =>
        simp only [List.all_append, List.all_cons, evaluate_trim, Bool.and_eq_true]
        exact And.imp_right (And.imp_left h)

/-- Under an even number of denials the broken leaf holds the condition open, under an odd number
it holds it shut. -/
theorem Twin.evaluate {n : Nat} {c d : Text} (h : Twin n c d) (scope : Scope) :
    (n % 2 = 0 → evaluate d scope = true → evaluate c scope = true) ∧
      (n % 2 = 1 → evaluate c scope = true → evaluate d scope = true) := by
  -- By the length of the condition: what its outermost pattern joins or denies is shorter.
  induction hlength : c.length using Nat.strongRecOn generalizing n c d with
  | ind length ih =>
      have hc := shape_of_not_blank h.notBlank.1
      have hd := shape_of_not_blank h.notBlank.2
      have hread := h.read
      have hle := length_read_le c
      have htc := isTrimmed_trim (Condition.normalize (trim c))
      have htd := isTrimmed_trim (Condition.normalize (trim d))
      generalize trim (Condition.normalize (trim c)) = c' at *
      generalize trim (Condition.normalize (trim d)) = d' at *
      cases hread with
      | leaf hleaf hbroken _ =>
          rw [hleaf.shapeOf_eq, hbroken.testOf_eq htc] at hc
          refine ⟨fun _ _ => ?_, by simp⟩
          rw [evaluate_of_shape_test hc]
          rfl
      | @denial n lead x y hlead hx hy hxy =>
          obtain rfl : lead = [] := htc.left_eq_nil (List.append_assoc _ _ _) hlead
          have hshorter : x.length < length := by
            simp only [List.length_append] at hle
            have : "NOT".toList.length = 3 := rfl
            omega
          obtain ⟨heven, hodd⟩ := ih x.length hshorter hxy rfl
          rw [evaluate_of_denial hx hc, evaluate_of_denial hy hd]
          simp only [Bool.not_eq_true', ← Bool.not_eq_true]
          exact ⟨fun hn => mt (hodd (by omega)), fun hn => mt (heven (by omega))⟩
      | @among n k before after x y hx hy hxy =>
          have hshorter := hx.length_lt
          obtain ⟨heven, hodd⟩ := ih x.length (by omega) hxy rfl
          obtain ⟨hxblank, hyblank⟩ := hxy.notBlank
          exact ⟨fun hn => evaluate_imp_of_embed hyblank hxblank hy hx hd hc (heven hn),
            fun hn => evaluate_imp_of_embed hxblank hyblank hx hy hc hd (hodd hn)⟩

/-- **Fail-open.** Under an even number of denials a malformed condition hides nothing that
another leaf in its place would show; under an odd number it shows nothing that another leaf
would hide. One that ends in a word which a blank makes an operator has to be the last: with a
connective behind it the word is read, and the condition compares. -/
theorem evaluate_fill {frame : Frame} {m w : Text} (hm : IsMalformed m) (htakes : frame.Takes m)
    (hw : frame.Takes w) (hends : frame.IsLast ∨ ¬ EndsOpen m) (scope : Scope) :
    (frame.denials % 2 = 0 →
      evaluate (frame.fill w) scope = true → evaluate (frame.fill m) scope = true) ∧
    (frame.denials % 2 = 1 →
      evaluate (frame.fill m) scope = true → evaluate (frame.fill w) scope = true) := by
  by_cases hopen : EndsOpen m
  · -- Nothing is behind it, so that the blanks at its end do not count.
    obtain ⟨heqm, htakesm⟩ := htakes.trimRight (hends.resolve_right fun hclosed => hclosed hopen)
    obtain ⟨heqw, htakesw⟩ := hw.trimRight (hends.resolve_right fun hclosed => hclosed hopen)
    have htwin := Frame.twin (hm.trimRight.isBroken (not_endsOpen_trimRight m)) htakesm htakesw
    rw [← heqm, ← heqw] at htwin
    have hanswers := htwin.evaluate scope
    simpa only [evaluate_trimRight] using hanswers
  · exact (Frame.twin (hm.isBroken hopen) htakes hw).evaluate scope

/-- A condition with a place under two denials, as in `NOT ok OR NOT a b && done`. -/
def nestedFrame : Frame :=
  .denial [] (.among .or [(" ok ".toList, .word)]
    (.denial [' '] (.among .and [] .hole (some (.mark, " done".toList)))) none)

theorem evaluate_fill_nestedFrame :
    IsMalformed " a b ".toList ∧ nestedFrame.Takes " a b ".toList ∧
      nestedFrame.Takes " true ".toList ∧ (nestedFrame.IsLast ∨ ¬ EndsOpen " a b ".toList) ∧
      evaluate (nestedFrame.fill " a b ".toList) [("done".toList, .bool true)] = true := by
  have hmalformed : IsMalformed " a b ".toList := ⟨by decide +kernel, _, rfl⟩
  have hm : nestedFrame.Takes " a b ".toList := by decide +kernel
  have hw : nestedFrame.Takes " true ".toList := by decide +kernel
  have hends : nestedFrame.IsLast ∨ ¬ EndsOpen " a b ".toList := .inr (by decide +kernel)
  have hshows : evaluate (nestedFrame.fill " true ".toList) [("done".toList, .bool true)]
      = true := by
    decide +kernel
  have hfill := (evaluate_fill hmalformed hm hw hends [("done".toList, .bool true)]).1
  exact ⟨hmalformed, hm, hw, hends, hfill rfl hshows⟩

/-- Under one denial a malformed condition hides what a false one shows. -/
example : evaluate "NOT a b".toList [] = false ∧ evaluate "NOT false".toList [] = true := by
  decide +kernel

/-- A malformed condition that ends open is a comparison before a connective. -/
example : evaluate "b GREATER_THAN_OR_EQUAL".toList [] = true ∧
    evaluate "b GREATER_THAN_OR_EQUAL AND true".toList [] = false := by
  decide +kernel

end Questionnaire.Condition
