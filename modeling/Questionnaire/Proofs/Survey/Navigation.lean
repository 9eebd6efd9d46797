import Questionnaire.Survey
import Mathlib.Data.List.Basic

/-!
# The navigation as an outline

The navigation keeps the order of the entries, and an entry of the second level
stands below the nearest one of the first level before it (`IsOutline`). What is
grouped is never changed again but for the last group (`foldl_group_concat`), so
where an entry goes is settled by what stands before it.
-/

namespace Questionnaire.Survey

variable {before between : List Entry} {entry top : Entry} {groups : List (Entry × List Entry)}

/-- The entries of some groups: each top entry, then those below it. -/
def listing (groups : List (Entry × List Entry)) : List Entry :=
  groups.flatMap fun item => item.1 :: item.2

@[simp] theorem listing_append (groups more : List (Entry × List Entry)) :
    listing (groups ++ more) = listing groups ++ listing more :=
  List.flatMap_append

@[simp] theorem listing_cons (item : Entry × List Entry) (groups : List (Entry × List Entry)) :
    listing (item :: groups) = item.1 :: (item.2 ++ listing groups) :=
  List.flatMap_cons

@[simp] theorem listing_nil : listing [] = [] := rfl

/-! ## One more entry -/

/-- An entry that is not of the second level, or has no entry of the first level to go
below, is a top entry. -/
theorem group_top (h : entry.level ≠ 2 ∨ ∀ item ∈ groups, item.1.level ≠ 1) :
    group groups entry = groups ++ [(entry, [])] := by
  rcases List.eq_nil_or_concat groups with rfl | ⟨front, last, rfl⟩
  · rfl
  · rw [List.concat_eq_append] at h ⊢
    have hlast : ¬(entry.level = 2 ∧ last.1.level = 1) := by
      rintro ⟨hentry, htop⟩
      exact h.elim (fun hne => hne hentry) fun hnone => hnone last (by simp) htop
    simp [group, hlast]

/-- An entry of the second level goes below the last top entry. -/
theorem group_below (front : List (Entry × List Entry)) (children : List Entry)
    (htop : top.level = 1) (hentry : entry.level = 2) :
    group (front ++ [(top, children)]) entry = front ++ [(top, children ++ [entry])] := by
  simp [group, htop, hentry]

/-- An entry leaves all groups but the last alone. -/
theorem group_concat (front : List (Entry × List Entry)) (top : Entry) (children : List Entry)
    (entry : Entry) :
    group (front ++ [(top, children)]) entry = front ++ [(top, children ++ [entry])] ∨
      group (front ++ [(top, children)]) entry = front ++ [(top, children)] ++ [(entry, [])] := by
  by_cases h : entry.level = 2 ∧ top.level = 1
  · exact .inl (group_below front children h.2 h.1)
  · exact .inr (by simp [group, h])

theorem listing_group (groups : List (Entry × List Entry)) (entry : Entry) :
    listing (group groups entry) = listing groups ++ [entry] := by
  rcases List.eq_nil_or_concat groups with rfl | ⟨front, last, rfl⟩
  · rfl
  · rw [List.concat_eq_append]
    obtain h | h := group_concat front last.1 last.2 entry <;> simp [h]

/-! ## All entries -/

/-- Nothing is lost, and the order is kept. -/
theorem listing_foldl_group (groups : List (Entry × List Entry)) (entries : List Entry) :
    listing (entries.foldl group groups) = listing groups ++ entries := by
  induction entries generalizing groups with
  | nil => simp
  | cons entry rest ih => rw [List.foldl_cons, ih, listing_group, List.append_assoc]; rfl

theorem level_of_mem_groups (h : ∀ e ∈ listing groups, e.level ≠ 1) :
    ∀ item ∈ groups, item.1.level ≠ 1 := fun item hitem =>
  h item.1 (List.mem_flatMap.mpr ⟨item, hitem, List.mem_cons_self⟩)

/-- **Entries change no group but the last.** -/
theorem foldl_group_concat (front : List (Entry × List Entry)) (top : Entry)
    (children entries : List Entry) :
    entries.foldl group (front ++ [(top, children)])
      = front ++ entries.foldl group [(top, children)] := by
  induction entries generalizing front top children with
  | nil => rfl
  | cons entry rest ih =>
      rw [List.foldl_cons, List.foldl_cons]
      by_cases h : entry.level = 2 ∧ top.level = 1
      · rw [group_below front children h.2 h.1, ih]
        exact congrArg (front ++ rest.foldl group ·) (group_below [] children h.2 h.1).symm
      · have hnew : ∀ front : List (Entry × List Entry), group (front ++ [(top, children)]) entry
            = front ++ [(top, children)] ++ [(entry, [])] := fun front => by simp [group, h]
        have hone := hnew []
        rw [List.nil_append] at hone
        rw [hnew, hone, ih (front ++ [(top, children)]), ih [(top, children)], List.append_assoc]

/-- The first group only gets more entries below. -/
theorem exists_foldl_group (top : Entry) (children entries : List Entry) :
    ∃ more back, entries.foldl group [(top, children)] = (top, children ++ more) :: back := by
  induction entries generalizing children with
  | nil => exact ⟨[], [], by simp⟩
  | cons entry rest ih =>
      rw [List.foldl_cons]
      obtain h | h := group_concat [] top children entry <;> rw [List.nil_append] at h
      · obtain ⟨more, back, hrest⟩ := ih (children ++ [entry])
        exact ⟨entry :: more, back, by rw [h, List.nil_append, hrest]; simp⟩
      · exact ⟨[], rest.foldl group [(entry, [])], by
          rw [h, foldl_group_concat, List.append_nil]
          rfl⟩

/-- Entries of the second level gather below a top entry of the first. -/
theorem foldl_group_below (htop : top.level = 1) (h : ∀ e ∈ between, e.level = 2)
    (children : List Entry) :
    between.foldl group [(top, children)] = [(top, children ++ between)] := by
  induction between generalizing children with
  | nil => simp
  | cons entry rest ih =>
      obtain ⟨hentry, hrest⟩ := List.forall_mem_cons.mp h
      have hone : group [(top, children)] entry = [(top, children ++ [entry])] :=
        group_below [] children htop hentry
      rw [List.foldl_cons, hone, ih hrest, List.append_assoc]
      rfl

/-- Before a top entry the groups are those of what stands before it. -/
theorem foldl_group_top (h : entry.level ≠ 2 ∨ ∀ e ∈ before, e.level ≠ 1) (behind : List Entry) :
    ∃ more back, (before ++ entry :: behind).foldl group []
      = before.foldl group [] ++ (entry, more) :: back := by
  have hlisting : listing (before.foldl group []) = before := listing_foldl_group [] before
  have hnew : group (before.foldl group []) entry = before.foldl group [] ++ [(entry, [])] :=
    group_top (h.imp_right fun hnone => level_of_mem_groups (hlisting.symm ▸ hnone))
  obtain ⟨more, back, hback⟩ := exists_foldl_group entry [] behind
  refine ⟨more, back, ?_⟩
  rw [List.foldl_append, List.foldl_cons, hnew, foldl_group_concat, hback, List.nil_append]

/-- An entry of the second level behind one of the first, with others of the second level
in between. -/
theorem foldl_group_child (before behind : List Entry) (htop : top.level = 1)
    (hbetween : ∀ e ∈ between, e.level = 2) (hentry : entry.level = 2) :
    ∃ more back, (before ++ top :: (between ++ entry :: behind)).foldl group []
      = before.foldl group [] ++ (top, between ++ entry :: more) :: back := by
  have hne : top.level ≠ 2 := by omega
  have hall : ∀ e ∈ between ++ [entry], e.level = 2 := by
    simpa [or_imp, forall_and] using ⟨hbetween, hentry⟩
  obtain ⟨more, back, hback⟩ := exists_foldl_group top (between ++ [entry]) behind
  refine ⟨more, back, ?_⟩
  have hsplit : between ++ entry :: behind = (between ++ [entry]) ++ behind := by simp
  rw [List.foldl_append, List.foldl_cons, group_top (.inl hne), foldl_group_concat, hsplit,
    List.foldl_append, foldl_group_below htop hall, List.nil_append, hback]
  simp

/-! ## The outline -/

/-- Whether the entry that stands behind `before` is a top entry of the groups. -/
def StandsAtTop (groups : List (Entry × List Entry)) (before : List Entry) (entry : Entry) : Prop :=
  ∃ front children back, groups = front ++ (entry, children) :: back ∧ listing front = before

/-- Whether the entry that stands behind `before`, `top` and `between` is below this `top`. -/
def StandsBelow (groups : List (Entry × List Entry)) (before : List Entry) (top : Entry)
    (between : List Entry) (entry : Entry) : Prop :=
  ∃ front more back, groups = front ++ (top, between ++ entry :: more) :: back ∧
    listing front = before

/-- An entry below another one is no top entry. -/
theorem StandsBelow.not_standsAtTop {other : Entry}
    (h : StandsBelow groups before top between entry) :
    ¬StandsAtTop groups (before ++ top :: between) other := by
  rintro ⟨front, children, back, hsplit, hfront⟩
  obtain ⟨front', more, back', hgroups, rfl⟩ := h
  rw [hgroups] at hsplit
  -- The group with `top` lies in front of the other one or does not: both cannot be.
  rcases List.append_eq_append_iff.mp hsplit with ⟨mid, rfl, hmid⟩ | ⟨mid, rfl, hmid⟩
  · have hlength := congrArg List.length hfront
    cases mid with
    | nil => simp at hlength
    | cons first mid =>
        obtain ⟨rfl, -⟩ := List.cons.inj hmid
        simp at hlength
  · have hlength := congrArg List.length hfront
    simp at hlength

/-- **The groups are an outline of the entries.** -/
structure IsOutline (entries : List Entry) (groups : List (Entry × List Entry)) : Prop where
  /-- Top entries with the entries below them are all entries in order. -/
  listed : listing groups = entries
  /-- An entry of the second level is below the nearest one of the first level before it. -/
  below : ∀ before top between entry behind,
    entries = before ++ top :: (between ++ entry :: behind) → top.level = 1 →
      (∀ e ∈ between, e.level ≠ 1) → entry.level = 2 → StandsBelow groups before top between entry
  /-- The top entries are those of the first level and those with none of the first level
  before them. -/
  top : ∀ before entry behind, entries = before ++ entry :: behind →
    (StandsAtTop groups before entry ↔ entry.level = 1 ∨ ∀ e ∈ before, e.level ≠ 1)

/-- The last entry of the first level, where there is one. -/
theorem exists_nearest (h : ∃ e ∈ before, e.level = 1) :
    ∃ front top between, before = front ++ top :: between ∧ top.level = 1 ∧
      ∀ e ∈ between, e.level ≠ 1 := by
  induction before with
  | nil => simp at h
  | cons first rest ih =>
      by_cases hrest : ∃ e ∈ rest, e.level = 1
      · obtain ⟨front, top, between, rfl, hfound⟩ := ih hrest
        exact ⟨first :: front, top, between, rfl, hfound⟩
      · have hfirst : first.level = 1 := by
          obtain ⟨e, he, hlevel⟩ := h
          rcases List.mem_cons.mp he with rfl | he
          · exact hlevel
          · exact absurd ⟨e, he, hlevel⟩ hrest
        exact ⟨[], first, rest, rfl, hfirst, fun e he hlevel => hrest ⟨e, he, hlevel⟩⟩

/-- **The navigation is an outline of the entries**, where there are two levels. -/
theorem isOutline_navigation (survey : Survey)
    (h : ∀ e ∈ survey.entries, e.level = 1 ∨ e.level = 2) :
    IsOutline survey.entries survey.navigation := by
  have hbelow : ∀ before top between entry behind,
      survey.entries = before ++ top :: (between ++ entry :: behind) → top.level = 1 →
        (∀ e ∈ between, e.level ≠ 1) → entry.level = 2 →
          StandsBelow survey.navigation before top between entry := by
    intro before top between entry behind hentries htop hbetween hentry
    have hsecond : ∀ e ∈ between, e.level = 2 := fun e he =>
      (h e (by rw [hentries]; simp [he])).resolve_left (hbetween e he)
    obtain ⟨more, back, hgroups⟩ := foldl_group_child before behind htop hsecond hentry
    exact ⟨_, more, back, by rw [navigation, hentries, hgroups], listing_foldl_group [] before⟩
  refine ⟨listing_foldl_group [] survey.entries, hbelow, fun before entry behind hentries => ?_⟩
  constructor
  · intro htop
    by_contra hnot
    rw [not_or] at hnot
    push Not at hnot
    obtain ⟨front, top, between, rfl, htop', hbetween⟩ := exists_nearest hnot.2
    have hentry : entry.level = 2 :=
      (h entry (by rw [hentries]; simp)).resolve_left hnot.1
    exact (hbelow front top between entry behind (by simpa using hentries) htop' hbetween
      hentry).not_standsAtTop htop
  · intro hlevel
    have hnone : entry.level ≠ 2 ∨ ∀ e ∈ before, e.level ≠ 1 := hlevel.imp_left fun hone => by omega
    obtain ⟨more, back, hgroups⟩ := foldl_group_top hnone behind
    exact ⟨_, more, back, by rw [navigation, hentries, hgroups], listing_foldl_group [] before⟩

/-- Two entries of the second level, then one of the first with two below it and one with none. -/
def menuSurvey : Survey where
  name := []
  entries := [⟨['a'], 2, []⟩, ⟨['b'], 2, []⟩, ⟨['A'], 1, []⟩, ⟨['c'], 2, []⟩, ⟨['d'], 2, []⟩,
    ⟨['B'], 1, []⟩]

theorem isOutline_navigation_menu : (∀ e ∈ menuSurvey.entries, e.level = 1 ∨ e.level = 2) ∧
    IsOutline menuSurvey.entries menuSurvey.navigation :=
  ⟨by decide, isOutline_navigation menuSurvey (by decide)⟩

end Questionnaire.Survey
