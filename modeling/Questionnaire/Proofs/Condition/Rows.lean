import Questionnaire.Proofs.Condition.Place
import Questionnaire.Validation.Reference

/-!
# Rows joined by both connectives

The parts of a condition with the connectives between them (`rowOf`), each of
them there to be seen (`Parted`). What is left of a part without blanks and
negations is its core, and `IsRow` names the cores of a row. Cutting a row at
every connective gives its cores (`IsRow.map_core_splitBy`); cutting it at one
connective gives rows of some of them (`IsRow.of_mem_splitBy`), and so does
taking blanks or a negation off. Every text of which no piece is blank or begins
with a connective is a row (`isRow_of_splitBy`).
-/

namespace Questionnaire.Condition

open Text Validation

/-! ## Parts and rows -/

/-- A text that is not blank and that no connective cuts, not even with a blank before it. -/
structure IsPart (p : Text) : Prop where
  filled : isBlankText p = false
  apart : ∀ k : Connective, ¬ k.Splits p

/-- A part with the sign behind it. -/
structure Link where
  /-- The part. -/
  part : Text
  /-- The connective. -/
  connective : Connective
  /-- How it is written. -/
  spelling : Spelling
deriving DecidableEq, Repr

/-- The sign behind a part. -/
def Link.sign (link : Link) : Text := link.connective.sign link.spelling

/-- The sign may stand between the part and what follows. -/
def Link.Meets (link : Link) (s : Text) : Prop :=
  link.connective.Meets link.spelling link.part s

/-- Parts with connectives between them, and the last one. -/
def rowOf : List Link → Text → Text
  | [], last => last
  | link :: rest, last => link.part ++ link.sign ++ rowOf rest last

/-- Every part of the row is one, and every sign may stand where it does. -/
def Parted : List Link → Text → Prop
  | [], last => IsPart last
  | link :: rest, last => IsPart link.part ∧ link.Meets (rowOf rest last) ∧ Parted rest last

/-- What is left of a part without blanks and negations. -/
def core (t : Text) : Text := dropDenials (trim t)

/-- The cores of the parts of a row. -/
def cores (links : List Link) (last : Text) : List Text :=
  links.map (fun link => core link.part) ++ [core last]

/-- The text is a row of parts with the given cores. -/
def IsRow (ys : List Text) (u : Text) : Prop :=
  ∃ links last, u = rowOf links last ∧ Parted links last ∧ cores links last = ys

/-! ## Cores -/

theorem cores_nil (last : Text) : cores [] last = [core last] := rfl

theorem cores_cons (link : Link) (rest : List Link) (last : Text) :
    cores (link :: rest) last = core link.part :: cores rest last := rfl

theorem core_trimLeft (t : Text) : core (trimLeft t) = core t := by
  rw [core, trim_trimLeft, core]

theorem core_trimRight (t : Text) : core (trimRight t) = core t := by
  rw [core, trim_trimRight, core]

theorem dropDenials_of_after {t rest : Text} (h : after? "NOT ".toList t = some rest) :
    dropDenials t = core rest := by
  rw [dropDenials]
  split
  · rename_i hnone
    rw [h] at hnone
    cases hnone
  · rename_i found hfound
    rw [h, Option.some.injEq] at hfound
    rw [hfound, core]

theorem dropDenials_of_not_after {t : Text} (h : after? "NOT ".toList t = none) :
    dropDenials t = t := by
  rw [dropDenials]
  split
  · rfl
  · rename_i rest hrest
    rw [h] at hrest
    cases hrest

theorem core_of_after {t rest : Text} (h : after? "NOT ".toList (trim t) = some rest) :
    core t = core rest := dropDenials_of_after h

theorem core_of_not_after {t : Text} (h : after? "NOT ".toList (trim t) = none) :
    core t = trim t := dropDenials_of_not_after h

theorem trim_denial {t : Text} (h : isBlankText t = false) :
    trim ("NOT ".toList ++ t) = "NOT ".toList ++ trimRight t := by
  have hleft : trimLeft ("NOT ".toList ++ t) = "NOT ".toList ++ t :=
    trimLeft_eq_self_of_head (by simp [isBlank])
  rw [trim, hleft, trimRight_append_of_not_blank _ h]

/-- A negation is no part of the core. -/
theorem core_denial {t : Text} (h : isBlankText t = false) :
    core ("NOT ".toList ++ t) = core t := by
  rw [core_of_after (trim_denial h ▸ after?_append _ _), core_trimRight]

theorem core_denial_of_blank {t : Text} (h : isBlankText t = true) :
    core ("NOT ".toList ++ t) = "NOT".toList := by
  have htrim : trim ("NOT ".toList ++ t) = "NOT".toList := by
    rw [show "NOT ".toList ++ t = "NOT".toList ++ ' ' :: t from rfl, trim,
      trimLeft_eq_self_of_head (by simp [isBlank]),
      trimRight_append_of_blank _ (by simpa [isBlankText, isBlank] using h)]
    rfl
  rw [core_of_not_after (by rw [htrim]; rfl), htrim]

/-! ## Parts and blanks -/

/-- Whether a sign may stand between two texts is settled by the characters next to it. -/
theorem Connective.Meets.of_edges {k : Connective} {z : Spelling} {p p' s s' : Text}
    (h : k.Meets z p s) (hp : p'.getLast? = p.getLast?) (hs : s'.head? = s.head?) :
    k.Meets z p' s' := by
  cases z with
  | word => exact ⟨hp ▸ h.1, hs ▸ h.2⟩
  | mark =>
      rw [Connective.Meets, hp]
      exact h

theorem Connective.Splits.of_trimLeft {k : Connective} {t : Text} (h : k.Splits (trimLeft t)) :
    k.Splits t := by
  obtain ⟨lead, hsplit, hblank, -⟩ := trimLeft_spec t
  rw [hsplit]
  rcases h with ⟨before, after, heq, hbefore, hafter⟩ | hmark
  · refine .inl ⟨lead ++ before, after, by rw [heq]; simp, ?_, hafter⟩
    by_cases hnil : before = []
    · rw [hnil, List.append_nil]
      exact getLast?_all_of_isBlankText hblank
    · rwa [getLast?_append_of_ne_nil _ hnil]
  · exact .inr (hmark.trans (List.suffix_append _ _).isInfix)

theorem Connective.Splits.of_trimRight {k : Connective} {t : Text} (h : k.Splits (trimRight t)) :
    k.Splits t := by
  obtain ⟨tail, hsplit, -⟩ := trimRight_spec t
  rw [hsplit]
  rcases h with ⟨before, after, heq, hbefore, hafter⟩ | hmark
  · have hne : after ≠ [] := by
      rintro rfl
      simp at hafter
    exact .inl ⟨before, after ++ tail, by rw [heq]; simp, hbefore, by
      rwa [head?_append_of_ne_nil hne]⟩
  · exact .inr (hmark.trans (List.prefix_append _ _).isInfix)

theorem IsPart.trimLeft {p : Text} (h : IsPart p) : IsPart (trimLeft p) :=
  ⟨by rw [isBlankText_trimLeft, h.filled], fun k hsplits => h.apart k hsplits.of_trimLeft⟩

theorem IsPart.trimRight {p : Text} (h : IsPart p) : IsPart (trimRight p) :=
  ⟨by rw [isBlankText_trimRight, h.filled], fun k hsplits => h.apart k hsplits.of_trimRight⟩

theorem IsPart.ne_nil {p : Text} (h : IsPart p) : p ≠ [] := by
  rintro rfl
  exact absurd h.filled (by decide)

theorem isBlankText_rowOf {links : List Link} {last : Text} (h : Parted links last) :
    isBlankText (rowOf links last) = false := by
  cases links with
  | nil => exact h.filled
  | cons link rest =>
      rw [rowOf, isBlankText_append, isBlankText_append, h.1.filled]
      rfl

theorem rowOf_ne_nil {links : List Link} {last : Text} (h : Parted links last) :
    rowOf links last ≠ [] := by
  intro hnil
  have hfilled := isBlankText_rowOf h
  rw [hnil] at hfilled
  exact absurd hfilled (by decide)

/-- The row with the blanks behind it left out. -/
theorem trimRight_rowOf {links : List Link} {last : Text} (h : Parted links last) :
    trimRight (rowOf links last) = rowOf links (trimRight last) ∧
      Parted links (trimRight last) := by
  induction links with
  | nil => exact ⟨rfl, h.trimRight⟩
  | cons link rest ih =>
      obtain ⟨hrow, hrest⟩ := ih h.2.2
      have hblank := isBlankText_rowOf h.2.2
      refine ⟨?_, h.1, ?_, hrest⟩
      · rw [rowOf, trimRight_append_of_not_blank _ hblank, hrow, rowOf]
      · rw [← hrow]
        exact h.2.1.trimRight hblank

/-- The row with the blanks before it left out. -/
theorem trimLeft_rowOf {link : Link} {rest : List Link} {last : Text}
    (h : Parted (link :: rest) last) : trimLeft (rowOf (link :: rest) last)
        = rowOf ({ link with part := trimLeft link.part } :: rest) last ∧
      Parted ({ link with part := trimLeft link.part } :: rest) last := by
  refine ⟨?_, h.1.trimLeft, h.2.1.trimLeft h.1.filled, h.2.2⟩
  rw [rowOf, rowOf, List.append_assoc, List.append_assoc,
    trimLeft_append_of_not_blank h.1.filled]
  rfl

namespace IsRow

variable {ys : List Text} {u : Text}

theorem trimRight (h : IsRow ys u) : IsRow ys (trimRight u) := by
  obtain ⟨links, last, rfl, hparted, rfl⟩ := h
  obtain ⟨hrow, hparted'⟩ := trimRight_rowOf hparted
  exact ⟨links, _, hrow, hparted', by rw [cores, core_trimRight, cores]⟩

theorem trimLeft (h : IsRow ys u) : IsRow ys (trimLeft u) := by
  obtain ⟨links, last, rfl, hparted, rfl⟩ := h
  cases links with
  | nil =>
      exact ⟨[], Text.trimLeft last, rfl, hparted.trimLeft, by
        rw [cores_nil, cores_nil, core_trimLeft]⟩
  | cons link rest =>
      obtain ⟨hrow, hparted'⟩ := trimLeft_rowOf hparted
      exact ⟨_, last, hrow, hparted', by rw [cores_cons, cores_cons, core_trimLeft]⟩

/-- Blanks around a row do not count. -/
theorem trim (h : IsRow ys u) : IsRow ys (trim u) := h.trimLeft.trimRight

/-- A sign does not begin within a negation. -/
theorem sign_not_in_denial {link : Link} {s rest m : Text} {c : Char} (hpart : IsPart link.part)
    (hmeets : link.Meets s) (hm : link.sign ++ s = c :: m ++ rest) :
    "NOT ".toList ≠ link.part ++ c :: m := by
  obtain ⟨p, k, z⟩ := link
  intro hsplit
  have hsign : (k.sign z).head? = some c := by
    have := congrArg List.head? hm
    rwa [Link.sign, head?_append_of_ne_nil (k.sign_ne_nil z)] at this
  -- The one sign that begins with a letter of the negation is OR, and it needs a blank before it.
  have hletter : c ∈ "NOT ".toList := hsplit ▸ List.mem_append_right _ List.mem_cons_self
  have hor : c = 'O' ∧ z = .word := by
    revert hsign hletter
    cases k <;> cases z <;> simp +contextual [Connective.sign, Connective.word, Connective.mark,
      eq_comm]
  obtain ⟨rfl, rfl⟩ := hor
  have hlast : p.getLast?.map isBlank = some true := hmeets.1
  have hnot : "NOT ".toList = ['N', 'O', 'T', ' '] := rfl
  rw [hnot] at hsplit
  cases p with
  | nil => exact hpart.ne_nil rfl
  | cons d p =>
      obtain ⟨hd, hrest⟩ := List.cons.inj hsplit
      cases p with
      | nil =>
          rw [← hd] at hlast
          exact absurd hlast (by decide)
      | cons e p =>
          have hmem : 'O' ∈ ['T', ' '] := by
            rw [(List.cons.inj hrest).2]
            exact List.mem_append_right _ List.mem_cons_self
          exact absurd hmem (by decide)

/-- **A negation before a row** is none of its cores. -/
theorem of_denial {rest : Text} (h : IsRow ys ("NOT ".toList ++ rest)) (hnot : "NOT".toList ∉ ys) :
    IsRow ys rest := by
  obtain ⟨links, last, hsplit, hparted, rfl⟩ := h
  -- The negation ends within the first part.
  have hpart : ∀ p', IsPart ("NOT ".toList ++ p') → core ("NOT ".toList ++ p') ≠ "NOT".toList →
      IsPart p' ∧ core ("NOT ".toList ++ p') = core p' := by
    intro p' hp hne
    have hfilled : isBlankText p' = false := by
      rw [Bool.eq_false_iff]
      exact fun hblank => hne (core_denial_of_blank hblank)
    refine ⟨⟨hfilled, fun k hsplits => hp.apart k ?_⟩, core_denial hfilled⟩
    rcases hsplits with ⟨before, after, rfl, hbefore, hafter⟩ | hmark
    · refine .inl ⟨"NOT ".toList ++ before, after, by simp, ?_, hafter⟩
      cases before with
      | nil => rfl
      | cons c before => rwa [getLast?_append_of_ne_nil _ (by simp)]
    · exact .inr (hmark.trans (List.suffix_append _ _).isInfix)
  cases links with
  | nil =>
      obtain rfl : last = "NOT ".toList ++ rest := hsplit.symm
      obtain ⟨hrest, hcore⟩ := hpart rest hparted fun h => hnot (by simp only [cores_nil, h,
        List.mem_singleton])
      exact ⟨[], rest, rfl, hrest, by rw [cores_nil, cores_nil, hcore]⟩
  | cons link links =>
      obtain ⟨p, k, z⟩ := link
      have hwithin : ∃ p', p = "NOT ".toList ++ p' ∧
          rest = p' ++ k.sign z ++ rowOf links last := by
        rw [rowOf, Link.sign, List.append_assoc] at hsplit
        rcases List.append_eq_append_iff.mp hsplit with ⟨p', hp, hrest⟩ | ⟨m, hp, hm⟩
        · exact ⟨p', hp, by rw [hrest, List.append_assoc]⟩
        · cases m with
          | nil => exact ⟨[], by simpa using hp.symm, by simpa using hm.symm⟩
          | cons c m => exact absurd (hp.trans rfl) (sign_not_in_denial hparted.1 hparted.2.1 hm)
      obtain ⟨p', rfl, rfl⟩ := hwithin
      obtain ⟨hp', hcore⟩ := hpart p' hparted.1 fun h => hnot (by simp only [cores_cons, h,
        List.mem_cons, true_or])
      have hmeets : k.Meets z p' (rowOf links last) :=
        hparted.2.1.of_edges (getLast?_append_of_ne_nil _ hp'.ne_nil).symm rfl
      exact ⟨⟨p', k, z⟩ :: links, last, rfl, ⟨hp', hmeets, hparted.2.2⟩,
        by rw [cores_cons, cores_cons, hcore]⟩

end IsRow

/-! ## Excerpts -/

/-- The text stands within the other, and not directly behind a symbol. -/
def IsExcerpt (r u : Text) : Prop :=
  ∃ before after, u = before ++ r ++ after ∧
    ∀ c, before.getLast? = some c → ∀ relation : Relation, c ∉ relation.symbol

namespace IsExcerpt

variable {r s t u : Text}

theorem refl (u : Text) : IsExcerpt u u := ⟨[], [], by simp, by simp⟩

theorem trans (hr : IsExcerpt r s) (hs : IsExcerpt s u) : IsExcerpt r u := by
  obtain ⟨b, a, rfl, hb⟩ := hr
  obtain ⟨b', a', rfl, hb'⟩ := hs
  refine ⟨b' ++ b, a ++ a', by simp, fun c hc => ?_⟩
  by_cases hnil : b = []
  · rw [hnil, List.append_nil] at hc
    exact hb' c hc
  · rw [getLast?_append_of_ne_nil _ hnil] at hc
    exact hb c hc

theorem of_append (r after : Text) : IsExcerpt r (r ++ after) := ⟨[], after, by simp, by simp⟩

theorem of_append_left {before : Text}
    (h : ∀ c ∈ before, ∀ relation : Relation, c ∉ relation.symbol) (r : Text) :
    IsExcerpt r (before ++ r) :=
  ⟨before, [], by simp, fun c hc => h c (List.mem_of_getLast? hc)⟩

theorem of_sign (p : Text) (k : Connective) (z : Spelling) (s : Text) :
    IsExcerpt s (p ++ k.sign z ++ s) := by
  refine ⟨p ++ k.sign z, [], by simp, fun c hc => ?_⟩
  rw [getLast?_append_of_ne_nil _ (k.sign_ne_nil z)] at hc
  have hall : (k.sign z).all (fun c => relations.all fun relation =>
      !relation.symbol.contains c) = true := by
    cases k <;> cases z <;> decide
  intro relation
  have hrelation := List.all_eq_true.mp (List.all_eq_true.mp hall c (List.mem_of_getLast? hc))
    relation (by cases relation <;> simp [relations])
  simpa using hrelation

theorem trimRight (u : Text) : IsExcerpt (trimRight u) u := by
  obtain ⟨after, hsplit, -⟩ := trimRight_spec u
  exact ⟨[], after, by simpa using hsplit, by simp⟩

theorem trimLeft (u : Text) : IsExcerpt (trimLeft u) u := by
  obtain ⟨before, hsplit, hblank, -⟩ := trimLeft_spec u
  refine ⟨before, [], by simpa using hsplit, fun c hc relation hmem => ?_⟩
  have hc := List.all_eq_true.mp hblank c (List.mem_of_getLast? hc)
  rw [isBlank_of_mem_symbol hmem] at hc
  cases hc

theorem trim (u : Text) : IsExcerpt (trim u) u := (trimRight _).trans (trimLeft u)

end IsExcerpt

/-! ## Cutting at every connective -/

theorem widthConnective_eq (t : Text) : widthConnective t =
    match Connective.or.width t with
    | 0 => Connective.and.width t
    | width => width := rfl

theorem widthConnective_eq_zero {t : Text} (h : ∀ k : Connective, k.width t = 0) :
    widthConnective t = 0 := by
  rw [widthConnective_eq, h .or]
  exact h .and

namespace Connective

variable {k : Connective}

/-- Where AND stands, there is no OR. -/
theorem width_or_of_and_sign {z : Spelling} {b s : Text} (hb : isBlankText b = true) :
    or.width (b ++ (and.sign z ++ s)) = 0 := by
  have hhead : ∃ d u, and.sign z ++ s = d :: u ∧ isBlank d = false ∧ d ∉ or.word ∧
      or.mark.head? ≠ some d := by
    cases z with
    | word => exact ⟨'A', _, rfl, by decide⟩
    | mark => exact ⟨'&', _, rfl, by decide⟩
  obtain ⟨d, u, heq, hd, hword, hmark⟩ := hhead
  have hloose : widthLoose or.mark (b ++ d :: u) = 0 := by
    have hdrop := blanks_of_isBlankText (s := d :: u) hb (by simp [hd])
    rw [widthLoose, hdrop, List.drop_left]
    cases hafter : after? or.mark (d :: u) with
    | none => rfl
    | some rest =>
        refine absurd ?_ hmark
        have hsplit := after?_eq_some.mp hafter
        obtain ⟨e, hor, -⟩ := or.mark_eq
        rw [hor, List.cons_append, List.cons.injEq] at hsplit
        rw [hor, hsplit.1]
        rfl
  rw [heq, width_eq, widthSpaced_of_not_mem hb or.word_ne_nil hd hword]
  exact hloose

theorem widthConnective_sign {z : Spelling} {b s : Text} (hb : isBlankText b = true)
    (hmeets : z = .word → b ≠ [] ∧ s.head?.map isBlank = some true) :
    widthConnective (b ++ (k.sign z ++ s)) = b.length + (k.sign z).length + blanks s := by
  have hsign : (k.sign z).length ≠ 0 := by
    cases z <;> cases k <;> decide
  cases k with
  | or =>
      rw [widthConnective_eq, width_sign hb hmeets]
      split
      · omega
      · rfl
  | and =>
      rw [widthConnective_eq, width_or_of_and_sign hb]
      exact width_sign hb hmeets

theorem widthConnective_sign_ne_zero {z : Spelling} {b s : Text} (hb : isBlankText b = true)
    (hmeets : z = .word → b ≠ [] ∧ s.head?.map isBlank = some true) :
    widthConnective (b ++ (k.sign z ++ s)) ≠ 0 := by
  have := List.length_pos_iff.mpr (k.sign_ne_nil z)
  rw [widthConnective_sign hb hmeets]
  omega

end Connective

/-- The first part of a row is cut off at the sign behind it. -/
theorem splitBy_link {link : Link} {s : Text} (hpart : IsPart link.part) (hmeets : link.Meets s) :
    splitBy widthConnective (link.part ++ link.sign ++ s)
      = trimRight link.part :: splitBy widthConnective (trimLeft s) := by
  refine Connective.splitBy_of_width hpart.filled hmeets
    (fun b hb => Connective.widthConnective_sign hb) fun first q b hsplit hb hq hedge => ?_
  refine widthConnective_eq_zero fun j => ?_
  have hsplits := hpart.apart j
  rw [Link.Meets, hsplit] at hmeets
  rw [hsplit] at hsplits
  rw [Connective.width_eq, Connective.widthSpaced_before_sign j hsplits hmeets hb hq hedge]
  exact Connective.widthLoose_before_sign j hsplits hmeets hb hq hedge

theorem splitBy_isPart {p : Text} (h : IsPart p) : splitBy widthConnective p = [p] :=
  splitBy_of_no_match fun s hs => widthConnective_eq_zero fun k =>
    Connective.width_eq_zero (h.apart k) s hs

/-- **Cutting a row at every connective** gives its cores. -/
theorem IsRow.map_core_splitBy {ys : List Text} {u : Text} (h : IsRow ys u) :
    (splitBy widthConnective u).map core = ys := by
  induction ys generalizing u with
  | nil =>
      obtain ⟨links, last, -, -, hcores⟩ := h
      simp [cores] at hcores
  | cons y ys ih =>
      obtain ⟨links, last, rfl, hparted, hcores⟩ := h
      cases links with
      | nil =>
          rw [← hcores, rowOf, splitBy_isPart hparted]
          rfl
      | cons link rest =>
          rw [cores_cons, List.cons.injEq] at hcores
          have hrest : IsRow ys (rowOf rest last) := ⟨rest, last, rfl, hparted.2.2, hcores.2⟩
          rw [rowOf, splitBy_link hparted.1 hparted.2.1, List.map_cons, ih hrest.trimLeft,
            core_trimRight, hcores.1]

/-! ## Cutting at one connective -/

/-- A sign of one connective does not make another one of the texts on its two sides. -/
theorem not_splits_append {k j : Connective} {z : Spelling} {p s : Text} (hne : j ≠ k)
    (hp : ¬ k.Splits p) (hs : ¬ k.Splits s) : ¬ k.Splits (p ++ j.sign z ++ s) := by
  have hapart : ∀ w, ∀ c ∈ k.sign w, c ∉ j.sign z := by
    intro w c hc hmem
    have hall : (k.sign w).all (fun c => !(j.sign z).contains c) = true := by
      revert hne
      cases k <;> cases j <;> cases z <;> cases w <;> decide
    have := List.all_eq_true.mp hall c hc
    simp [hmem] at this
  have hsign : j.sign z ≠ [] := j.sign_ne_nil z
  rintro (⟨before, after, hsplit, hbefore, hafter⟩ | ⟨before, after, hsplit⟩)
  · rcases append_eq_append_apart k.word_ne_nil hsign (hapart .word) hsplit.symm with
      ⟨m, rfl, rfl⟩ | ⟨m, rfl, rfl⟩
    · refine hp (.inl ⟨before, m, rfl, hbefore, ?_⟩)
      cases m with
      | nil =>
          obtain ⟨c, hc, hblank⟩ := Option.map_eq_some_iff.mp hafter
          rw [j.head?_sign z s hc] at hblank
          cases hblank
      | cons c m => simpa using hafter
    · refine hs (.inl ⟨m, after, rfl, ?_, hafter⟩)
      by_cases hm : m = []
      · rw [hm]
        rfl
      · rwa [getLast?_append_of_ne_nil _ hm] at hbefore
  · rcases append_eq_append_apart (k.sign_ne_nil .mark) hsign (hapart .mark) hsplit with
      ⟨m, rfl, -⟩ | ⟨m, rfl, -⟩
    · exact hp (.inr ⟨before, m, rfl⟩)
    · exact hs (.inr ⟨m, after, rfl⟩)

theorem rowOf_append (before : List Link) (link : Link) (behind : List Link) (last : Text) :
    rowOf (before ++ link :: behind) last
      = rowOf before link.part ++ link.sign ++ rowOf behind last := by
  induction before with
  | nil => rfl
  | cons first before ih => rw [List.cons_append, rowOf, ih, rowOf]; simp

/-- A row is a row on both sides of each of its signs. -/
theorem parted_append {before : List Link} {link : Link} {behind : List Link} {last : Text}
    (h : Parted (before ++ link :: behind) last) : Parted before link.part ∧
      link.connective.Meets link.spelling (rowOf before link.part) (rowOf behind last) ∧
      Parted behind last := by
  induction before with
  | nil => exact h
  | cons first before ih =>
      rw [List.cons_append, Parted, rowOf_append, List.append_assoc] at h
      obtain ⟨hfirst, hmeets, hrest⟩ := h
      obtain ⟨hbefore, hmeets', hbehind⟩ := ih hrest
      have hne := rowOf_ne_nil hbefore
      exact ⟨⟨hfirst, hmeets.of_edges rfl (head?_append_of_ne_nil hne _).symm, hbefore⟩,
        hmeets'.of_edges (getLast?_append_of_ne_nil _ hne) rfl, hbehind⟩

theorem cores_append (before : List Link) (link : Link) (behind : List Link) (last : Text) :
    cores (before ++ link :: behind) last = cores before link.part ++ cores behind last := by
  simp [cores]

/-- A row has the connective at a sign of its own, or it does not join anything by it. -/
theorem not_splits_or_split (k : Connective) {links : List Link} {last : Text}
    (h : Parted links last) :
    ((∀ link ∈ links, link.connective ≠ k) ∧ ¬ k.Splits (rowOf links last)) ∨
      ∃ before link behind, links = before ++ link :: behind ∧ link.connective = k ∧
        ¬ k.Splits (rowOf before link.part) := by
  induction links with
  | nil => exact .inl ⟨by simp, h.apart k⟩
  | cons link rest ih =>
      by_cases hk : link.connective = k
      · exact .inr ⟨[], link, rest, rfl, hk, h.1.apart k⟩
      · rcases ih h.2.2 with ⟨hlinks, hrest⟩ | ⟨before, found, behind, rfl, hfound, hbefore⟩
        · exact .inl ⟨List.forall_mem_cons.mpr ⟨hk, hlinks⟩,
            not_splits_append hk (h.1.apart k) hrest⟩
        · exact .inr ⟨link :: before, found, behind, rfl, hfound,
            not_splits_append hk (h.1.apart k) hbefore⟩

theorem cores_ne_nil (links : List Link) (last : Text) : cores links last ≠ [] := by
  simp [cores]

/-- **Cutting a row at one connective** gives rows of some of its cores. -/
theorem IsRow.of_mem_splitBy {k : Connective} {ys : List Text} {u r : Text} (h : IsRow ys u)
    (hr : r ∈ splitBy k.width u) :
    IsExcerpt (Text.trim r) u ∧ ∃ zs ⊆ ys, IsRow zs (Text.trim r) := by
  induction hn : ys.length using Nat.strongRecOn generalizing ys u with
  | ind n ih =>
      obtain ⟨links, last, rfl, hparted, rfl⟩ := id h
      rcases not_splits_or_split k hparted with ⟨-, hsplits⟩ |
        ⟨before, link, behind, rfl, rfl, hsplits⟩
      · rw [Connective.splitBy_of_not_splits hsplits, List.mem_singleton] at hr
        rw [hr]
        exact ⟨.trim _, _, List.Subset.refl _, h.trim⟩
      · obtain ⟨hbefore, hmeets, hbehind⟩ := parted_append hparted
        rw [rowOf_append] at hr ⊢
        rw [Link.sign, Connective.splitBy_sign (isBlankText_rowOf hbefore) hsplits hmeets,
          List.mem_cons] at hr
        rw [cores_append] at hn ⊢
        rcases hr with rfl | hr
        · have hrow : IsRow (cores before link.part) (rowOf before link.part) :=
            ⟨before, link.part, rfl, hbefore, rfl⟩
          refine ⟨?_, _, List.subset_append_left _ _, hrow.trimRight.trim⟩
          rw [trim_trimRight, List.append_assoc]
          exact (IsExcerpt.trim _).trans (.of_append _ _)
        · have hrow : IsRow (cores behind last) (rowOf behind last) :=
            ⟨behind, last, rfl, hbehind, rfl⟩
          have hlength := List.length_pos_iff.mpr (cores_ne_nil before link.part)
          rw [List.length_append] at hn
          obtain ⟨hexcerpt, zs, hsub, hzs⟩ := ih _ (by omega) hrow.trimLeft hr rfl
          exact ⟨(hexcerpt.trans (.trimLeft _)).trans (.of_sign _ _ _ _), zs,
            List.subset_append_of_subset_right _ hsub, hzs⟩

/-- A row that no connective cuts is a part. -/
theorem IsRow.isPart {ys : List Text} {u : Text} (h : IsRow ys u)
    (hnone : ∀ k : Connective, pieces? k.width u = none) : IsPart u ∧ ys = [core u] := by
  obtain ⟨links, last, rfl, hparted, rfl⟩ := h
  have hlinks : ∀ k : Connective, ∀ link ∈ links, link.connective ≠ k := by
    intro k
    rcases not_splits_or_split k hparted with ⟨hlinks, -⟩ |
      ⟨before, link, behind, rfl, rfl, hsplits⟩
    · exact hlinks
    · obtain ⟨hbefore, hmeets, -⟩ := parted_append hparted
      obtain ⟨second, others, hothers⟩ := List.exists_cons_of_ne_nil
        (Text.splitBy_ne_nil link.connective.width (Text.trimLeft (rowOf behind last)))
      have hpieces := hnone link.connective
      rw [rowOf_append, Link.sign, pieces?, Connective.splitBy_sign (isBlankText_rowOf hbefore)
        hsplits hmeets, hothers] at hpieces
      cases hpieces
  cases links with
  | nil => exact ⟨hparted, rfl⟩
  | cons link rest => exact absurd rfl (hlinks link.connective link List.mem_cons_self)

/-! ## Texts that are rows -/

theorem widthConnective_spec {s : Text} (h : widthConnective s ≠ 0) :
    ∃ (k : Connective) (z : Spelling) (b a rest : Text), s = b ++ k.sign z ++ a ++ rest ∧
      isBlankText b = true ∧ isBlankText a = true ∧ (z = .word → b ≠ [] ∧ a ≠ []) ∧
      widthConnective s = (b ++ k.sign z ++ a).length := by
  have hone : ∀ k : Connective, k.width s ≠ 0 → ∃ (z : Spelling) (b a rest : Text),
      s = b ++ k.sign z ++ a ++ rest ∧ isBlankText b = true ∧ isBlankText a = true ∧
      (z = .word → b ≠ [] ∧ a ≠ []) ∧ k.width s = (b ++ k.sign z ++ a).length := by
    intro k hk
    rw [Connective.width_eq] at hk ⊢
    by_cases hword : widthSpaced k.word s = 0
    · rw [hword] at hk ⊢
      obtain ⟨b, a, rest, hsplit, hb, ha, hwidth⟩ := widthLoose_spec hk
      exact ⟨.mark, b, a, rest, hsplit, hb, ha, by simp, hwidth⟩
    · obtain ⟨b, a, rest, hsplit, hb, ha, hbb, hab, hwidth⟩ := widthSpaced_spec hword
      refine ⟨.word, b, a, rest, hsplit, hbb, hab, fun _ => ⟨hb, ha⟩, ?_⟩
      split
      · exact absurd ‹_› hword
      · exact hwidth
  rw [widthConnective_eq] at h ⊢
  by_cases hor : Connective.or.width s = 0
  · rw [hor] at h ⊢
    exact ⟨.and, hone .and h⟩
  · obtain ⟨z, b, a, rest, hsplit, hb, ha, hz, hwidth⟩ := hone .or hor
    refine ⟨.or, z, b, a, rest, hsplit, hb, ha, hz, ?_⟩
    split
    · exact absurd ‹_› hor
    · exact hwidth

theorem Connective.not_mem_of_isBlankText {k : Connective} {z : Spelling} {b : Text}
    (hb : isBlankText b = true) : ∀ c ∈ k.sign z, c ∉ b := by
  intro c hc hmem
  have hall : (k.sign z).all (fun c => !isBlank c) = true := by
    cases k <;> cases z <;> decide
  have := List.all_eq_true.mp hall c hc
  rw [List.all_eq_true.mp hb c hmem] at this
  cases this

/-- Blanks before a part make no connective. -/
theorem IsPart.append_left {b p : Text} (hb : isBlankText b = true) (h : IsPart p) :
    IsPart (b ++ p) := by
  refine ⟨by rw [isBlankText_append, h.filled, Bool.and_false], fun k hsplits => ?_⟩
  by_cases hne : b = []
  · rw [hne] at hsplits
    exact h.apart k hsplits
  have hin : ∀ z before after, before ++ k.sign z ++ after = [] ++ b ++ p →
      ∃ m, p = m ++ k.sign z ++ after ∧ before = b ++ m := by
    intro z before after heq
    rcases append_eq_append_apart (k.sign_ne_nil z) hne (k.not_mem_of_isBlankText hb) heq with
      ⟨m, hnil, -⟩ | ⟨m, hp, hm⟩
    · have := k.sign_ne_nil z
      simp_all
    · exact ⟨m, hp, by simpa using hm⟩
  rcases hsplits with ⟨before, after, hsplit, hbefore, hafter⟩ | ⟨before, after, hsplit⟩
  · obtain ⟨m, rfl, rfl⟩ := hin .word before after hsplit.symm
    refine h.apart k (.inl ⟨m, after, rfl, ?_, hafter⟩)
    by_cases hm : m = []
    · rw [hm]
      rfl
    · rwa [getLast?_append_of_ne_nil _ hm] at hbefore
  · obtain ⟨m, rfl, -⟩ := hin .mark before after hsplit
    exact h.apart k (.inr ⟨m, after, rfl⟩)

/-- The text begins with the word for a connective. -/
def Connective.Opens (k : Connective) (t : Text) : Prop :=
  hasStart k.word t = true ∧ (t.drop k.word.length).head?.all isBlank = true

instance (k : Connective) (t : Text) : Decidable (k.Opens t) :=
  inferInstanceAs (Decidable (hasStart k.word t = true ∧ _ = true))

/-- What stands before the first sign of a text is cut by no connective, if it does not begin
with one. -/
theorem IsPart.of_first {p b s : Text} (hfilled : isBlankText p = false)
    (hopens : ∀ k : Connective, ¬ k.Opens p) (hb : isBlankText b = true)
    (hfirst : ∀ q, q ≠ [] → q <:+ p → widthConnective (q ++ (b ++ s)) = 0) : IsPart (p ++ b) := by
  refine ⟨by rw [isBlankText_append, hfilled, Bool.false_and], fun k hsplits => ?_⟩
  have hin : ∀ z before after, before ++ k.sign z ++ after = p ++ b →
      ∃ m, p = before ++ k.sign z ++ m ∧ after = m ++ b := by
    intro z before after heq
    by_cases hne : b = []
    · exact ⟨after, by simpa [hne] using heq.symm, by simp [hne]⟩
    rw [← List.append_nil (p ++ b)] at heq
    rcases append_eq_append_apart (k.sign_ne_nil z) hne (k.not_mem_of_isBlankText hb) heq with
      ⟨m, hp, hm⟩ | ⟨m, hnil, -⟩
    · exact ⟨m, hp, by simpa using hm⟩
    · have := k.sign_ne_nil z
      simp_all
  rcases hsplits with ⟨before, after, hsplit, hbefore, hafter⟩ | ⟨before, after, hsplit⟩
  · obtain ⟨m, rfl, rfl⟩ := hin .word before after hsplit.symm
    rcases List.eq_nil_or_concat before with rfl | ⟨before, c, rfl⟩
    · refine hopens k ⟨hasStart_iff.mpr (by simp [Connective.sign]), ?_⟩
      cases m with
      | nil => simp [Connective.sign]
      | cons d m => simpa [Connective.sign] using hafter
    · -- The word would have been found behind the blank before it.
      have hc : isBlankText [c] = true := by simpa [isBlankText] using hbefore
      have hhead : (m ++ b ++ s).head?.map isBlank = some true := by
        rw [head?_append_of_ne_nil (fun hnil => by simp [hnil] at hafter), hafter]
      have hzero := hfirst ([c] ++ k.sign .word ++ m) (by simp) ⟨before, by simp⟩
      simp only [List.append_assoc] at hzero hhead
      exact Connective.widthConnective_sign_ne_zero hc (fun _ => ⟨by simp, hhead⟩) hzero
  · obtain ⟨m, rfl, rfl⟩ := hin .mark before after hsplit
    have hzero := hfirst (k.sign .mark ++ m) (by simp [k.sign_ne_nil]) ⟨before, by simp⟩
    rw [List.append_assoc] at hzero
    exact Connective.widthConnective_sign_ne_zero (b := []) rfl (by simp) hzero

/-- Blanks before a row are blanks before its first part. -/
theorem IsRow.append_left {ys : List Text} {u b : Text} (hb : isBlankText b = true)
    (h : IsRow ys u) : ∃ ys, IsRow ys (b ++ u) := by
  obtain ⟨links, last, rfl, hparted, -⟩ := h
  cases links with
  | nil => exact ⟨_, [], b ++ last, rfl, hparted.append_left hb, rfl⟩
  | cons link rest =>
      refine ⟨_, ⟨b ++ link.part, link.connective, link.spelling⟩ :: rest, last, ?_,
        ⟨hparted.1.append_left hb, ?_, hparted.2.2⟩, rfl⟩
      · simp [rowOf, Link.sign]
      · exact hparted.2.1.of_edges (getLast?_append_of_ne_nil _ hparted.1.ne_nil) rfl

/-- The first sign of a text may stand where it does. -/
theorem meets_of_first {k : Connective} {z : Spelling} {p b a rest : Text}
    (hb : isBlankText b = true) (ha : isBlankText a = true) (hz : z = .word → b ≠ [] ∧ a ≠ [])
    (hfirst : ∀ q, q ≠ [] → q <:+ p → widthConnective (q ++ (b ++ k.sign z ++ a ++ rest)) = 0) :
    k.Meets z (p ++ b) (a ++ rest) := by
  cases z with
  | word =>
      obtain ⟨hbne, hane⟩ := hz rfl
      refine ⟨?_, ?_⟩
      · rw [getLast?_append_of_ne_nil _ hbne]
        exact getLast?_of_isBlankText hbne hb
      · rw [head?_append_of_ne_nil hane]
        exact head?_of_isBlankText hane ha
  | mark =>
      obtain ⟨d, hmark, hd, -⟩ := k.mark_eq
      rw [Connective.Meets, hmark, List.head?_cons]
      intro hlast
      by_cases hbne : b = []
      · -- The mark would have been found one character earlier.
        rw [hbne, List.append_nil, List.getLast?_eq_some_iff] at hlast
        obtain ⟨p, rfl⟩ := hlast
        have hzero := hfirst [d] (by simp) (List.suffix_append _ _)
        have hsame : [d] ++ (b ++ k.sign .mark ++ a ++ rest)
            = [] ++ (k.sign .mark ++ d :: (a ++ rest)) := by
          simp [hbne, Connective.sign, hmark]
        rw [hsame] at hzero
        exact Connective.widthConnective_sign_ne_zero rfl (by simp) hzero
      · rw [getLast?_append_of_ne_nil _ hbne] at hlast
        have := List.all_eq_true.mp hb d (List.mem_of_getLast? hlast)
        rw [hd] at this
        cases this

/-- **A text of which no piece is blank** or begins with a connective is a row. -/
theorem isRow_of_splitBy {u : Text} (h : ∀ p ∈ splitBy widthConnective u,
    isBlankText p = false ∧ ∀ k : Connective, ¬ k.Opens p) : ∃ ys, IsRow ys u := by
  induction hn : u.length using Nat.strongRecOn generalizing u with
  | ind n ih =>
      rcases exists_first_match widthConnective u with hnone | ⟨p, s, rfl, hmatch, hfirst⟩
      · rw [splitBy_of_no_match hnone] at h
        obtain ⟨hfilled, hopens⟩ := h u (by simp)
        have hpart : IsPart (u ++ []) := .of_first (s := []) hfilled hopens rfl
          fun q _ hq => by simpa using hnone q hq
        rw [List.append_nil] at hpart
        exact ⟨_, [], u, rfl, hpart, rfl⟩
      · have hne : s ≠ [] := by
          rintro rfl
          exact hmatch rfl
        rw [splitBy_append hne hfirst hmatch] at h
        obtain ⟨k, z, b, a, rest, rfl, hb, ha, hz, hwidth⟩ := widthConnective_spec hmatch
        rw [hwidth, List.drop_left] at h
        obtain ⟨hfilled, hopens⟩ := h p List.mem_cons_self
        have hlength : rest.length < n := by
          have := List.length_pos_iff.mpr (k.sign_ne_nil z)
          simp only [List.length_append] at hn
          omega
        obtain ⟨ys, hrest⟩ := ih _ hlength (fun q hq => h q (List.mem_cons_of_mem _ hq)) rfl
        obtain ⟨ys, links, last, hrow, hparted, -⟩ := hrest.append_left ha
        have hmeets : k.Meets z (p ++ b) (rowOf links last) := by
          rw [← hrow]
          exact meets_of_first hb ha hz hfirst
        have hpart : IsPart (p ++ b) := .of_first (s := k.sign z ++ a ++ rest) hfilled hopens hb
          fun q hq hs => by simpa only [List.append_assoc] using hfirst q hq hs
        refine ⟨_, ⟨p ++ b, k, z⟩ :: links, last, ?_, ⟨hpart, hmeets, hparted⟩, rfl⟩
        rw [rowOf, ← hrow]
        simp [Link.sign]

end Questionnaire.Condition
