import Mathlib.Data.List.Chain
import Mathlib.Data.List.Nodup
import Mathlib.Data.List.TakeWhile
import Questionnaire.Proofs.Computation.Permutation
import Questionnaire.Report

/-!
# Circles of computations

The search for a circle goes from name to name along one path at a time. What it
finds is a circle (`isCircle_of_visit`). Where it finds none, the names that it
has left form a schedule: a name is left once all that its computation mentions
has been left (`Searched`). So a circle is found exactly where the computations
of a scope cannot be put in order (`isSome_circle?_iff`).
-/

namespace Questionnaire

open Text Formula Questionnaire.Computation

namespace Report

variable {declared : List Computation}

/-! ## Circles -/

/-- The expression of a computation called `n` has the name `m` in it. -/
def DependsOn (declared : List Computation) (n m : Text) : Prop :=
  ∃ c ∈ declared, c.name = n ∧ m ∈ dependencies c.expression

/-- **A circle of a scope**: at least one step from a name back to itself, each name
depending on the next. -/
structure IsCircle (declared : List Computation) (circle : List Text) : Prop where
  /-- There is a step. -/
  length : 2 ≤ circle.length
  /-- The first name and the last are the same. -/
  ends : circle.head? = circle.getLast?
  /-- The names are declared in the scope. -/
  subset : circle ⊆ scopeNames declared
  /-- Each name depends on the next one. -/
  depends : circle.IsChain (DependsOn declared)

theorem mem_neighbours (hnames : (declared.map Computation.name).Nodup) {n m : Text} :
    m ∈ neighbours declared n ↔ DependsOn declared n m ∧ m ∈ scopeNames declared := by
  rw [neighbours]
  cases hlast : last? declared n with
  | none =>
      refine ⟨fun h => absurd h List.not_mem_nil, ?_⟩
      rintro ⟨⟨c, hc, hname, -⟩, -⟩
      rw [(last?_eq_some_iff hnames).mpr ⟨hc, hname⟩] at hlast
      cases hlast
  | some c =>
      have hc := (last?_eq_some_iff hnames).mp hlast
      rw [List.mem_filter, List.contains_iff_mem]
      refine and_congr_left fun _ => ⟨fun h => ⟨c, hc.1, hc.2, h⟩, ?_⟩
      rintro ⟨d, hd, hname, hmem⟩
      rwa [eq_of_name_eq hnames hc.1 hd (hc.2.trans hname.symm)]

/-! ## A circle has no order -/

/-- What a name of a schedule depends on was carried out before it. -/
theorem mem_of_dependsOn {n x m : Text} {done : List Text} (h : Schedule declared (n :: done))
    (hx : x ∈ n :: done) (hdepends : DependsOn declared x m) (hm : m ∈ scopeNames declared) :
    m ∈ done := by
  cases h with
  | cons hschedule _ _ hfree =>
      obtain ⟨c, hc, hname, hmem⟩ := hdepends
      have hmentions : mentions c m = true := List.contains_iff_mem.mpr hmem
      rcases List.mem_cons.mp hx with rfl | hx
      · exact (hfree c hc hname m hm hmentions).2
      · exact (hschedule.isFree hx c hc hname m hm hmentions).2

/-- **No circle is ever carried out**, by induction on the schedule: the last name
carried out cannot be in it. -/
theorem not_isCircle_of_schedule {done circle : List Text} (h : Schedule declared done)
    (hcircle : IsCircle declared circle) : ¬ circle ⊆ done := by
  intro hsub
  obtain ⟨n, m, rest, rfl⟩ : ∃ n m rest, circle = n :: m :: rest := by
    match circle, hcircle.length with
    | n :: m :: rest, _ => exact ⟨n, m, rest, rfl⟩
  induction h with
  | nil => exact absurd (hsub List.mem_cons_self) List.not_mem_nil
  | @cons last done hschedule hmem hnew hfree ih =>
      -- Every name behind the first follows one that was carried out, so it came earlier.
      have htail : ∀ (names : List Text) (first : Text), (first :: names).IsChain (DependsOn declared) →
          first ∈ last :: done → names ⊆ scopeNames declared → names ⊆ done := by
        intro names
        induction names with
        | nil => exact fun _ _ _ _ => List.nil_subset _
        | cons next names ihnames =>
            intro first hchain hfirst hdeclared
            rw [List.isChain_cons_cons] at hchain
            obtain ⟨hnext, hdeclared⟩ := List.cons_subset.mp hdeclared
            have hdone : next ∈ done :=
              mem_of_dependsOn (.cons hschedule hmem hnew hfree) hfirst hchain.1 hnext
            exact List.cons_subset.mpr
              ⟨hdone, ihnames next hchain.2 (List.mem_cons_of_mem _ hdone) hdeclared⟩
      have hrest := htail (m :: rest) n hcircle.depends (hsub List.mem_cons_self)
        (List.cons_subset.mp hcircle.subset).2
      -- The first name is the last one too.
      have hends := hcircle.ends
      rw [List.head?_cons, List.getLast?_cons_cons] at hends
      have hfirst : n ∈ done := hrest (List.mem_of_getLast? hends.symm)
      exact ih (List.cons_subset.mpr ⟨hfirst, hrest⟩)

/-! ## The search -/

/-- The search with one more name behind a path. -/
def tryNext (declared : List Computation) (fuel : Nat) (path : List Text)
    (found : List Text × Option (List Text)) (m : Text) : List Text × Option (List Text) :=
  match found with
  | (entered, some circle) => (entered, some circle)
  | (entered, none) =>
    if !entered.contains m then visit declared fuel entered path m
    else if path.contains m then (entered, some (path.dropWhile (· ≠ m) ++ [m]))
    else (entered, none)

theorem visit_succ (fuel : Nat) (entered path : List Text) (n : Text) :
    visit declared (fuel + 1) entered path n
      = (neighbours declared n).foldl (tryNext declared fuel (path ++ [n]))
          (entered ++ [n], none) := rfl

/-- At the start the path is empty. -/
theorem circle?_eq (declared : List Computation) : circle? declared
    = ((scopeNames declared).foldl (tryNext declared (declared.length + 1) []) ([], none)).2 := by
  have hsame : tryNext declared (declared.length + 1) [] = fun found n =>
      match found with
      | (entered, some circle) => (entered, some circle)
      | (entered, none) =>
        if entered.contains n then (entered, none)
        else visit declared (declared.length + 1) entered [] n := by
    funext found n
    obtain ⟨entered, _ | circle⟩ := found
    · by_cases h : n ∈ entered <;> simp [tryNext, h]
    · rfl
  rw [hsame]
  rfl

/-- A search that has found a circle keeps it. -/
theorem foldl_tryNext_some (fuel : Nat) (path names entered circle : List Text) :
    names.foldl (tryNext declared fuel path) (entered, some circle) = (entered, some circle) := by
  induction names with
  | nil => rfl
  | cons m names ih => exact ih

/-! ### What is found -/

/-- A name met again on the path closes a circle. -/
theorem isCircle_of_mem_path {path : List Text} {m : Text}
    (hchain : (path ++ [m]).IsChain (DependsOn declared))
    (hsub : path ++ [m] ⊆ scopeNames declared) (hm : m ∈ path) :
    IsCircle declared (path.dropWhile (· ≠ m) ++ [m]) := by
  have hne : path.dropWhile (· ≠ m) ≠ [] := by
    intro hnil
    have := List.dropWhile_eq_nil_iff.mp hnil m hm
    simp at this
  have hsuffix : path.dropWhile (· ≠ m) ++ [m] <:+ path ++ [m] := by
    obtain ⟨front, hfront⟩ := List.dropWhile_suffix (l := path) (fun n => decide (n ≠ m))
    exact ⟨front, by rw [← List.append_assoc, hfront]⟩
  have hhead : (path.dropWhile (· ≠ m)).head? = some m := by
    have hstop := List.head_dropWhile_not (fun n => decide (n ≠ m)) hne
    rw [List.head?_eq_some_head hne]
    simpa using hstop
  refine ⟨?_, ?_, fun n hn => hsub (hsuffix.subset hn), hchain.suffix hsuffix⟩
  · have := List.length_pos_iff.mpr hne
    rw [List.length_append, List.length_singleton]
    omega
  · rw [List.getLast?_concat, List.head?_append, hhead]
    rfl

/-- What the names that are tried behind a path come to, given what one visit does. -/
theorem isCircle_of_foldl {fuel : Nat} {path names entered circle : List Text}
    (hpath : ∀ m ∈ names, (path ++ [m]).IsChain (DependsOn declared) ∧
      path ++ [m] ⊆ scopeNames declared)
    (hvisit : ∀ {entered m circle}, m ∈ names →
      (visit declared fuel entered path m).2 = some circle → IsCircle declared circle)
    (h : (names.foldl (tryNext declared fuel path) (entered, none)).2 = some circle) :
    IsCircle declared circle := by
  induction names generalizing entered with
  | nil => cases h
  | cons m names ih =>
      have hrest : ∀ {entered}, (names.foldl (tryNext declared fuel path) (entered, none)).2
          = some circle → IsCircle declared circle :=
        ih (fun k hk => hpath k (List.mem_cons_of_mem _ hk))
          fun hk => hvisit (List.mem_cons_of_mem _ hk)
      rw [List.foldl_cons, tryNext] at h
      split at h
      · have hfound : ∀ {circle}, (visit declared fuel entered path m).2 = some circle →
            IsCircle declared circle := hvisit List.mem_cons_self
        revert h hfound
        generalize visit declared fuel entered path m = found
        obtain ⟨entered', _ | other⟩ := found
        · exact fun h _ => hrest h
        · intro h hfound
          rw [foldl_tryNext_some] at h
          exact hfound h
      · split at h
        · rename_i hmem
          rw [foldl_tryNext_some] at h
          cases h
          obtain ⟨hchain, hsub⟩ := hpath m List.mem_cons_self
          exact isCircle_of_mem_path hchain hsub (List.contains_iff_mem.mp hmem)
        · exact hrest h

/-- **What the search finds is a circle**, by induction on the fuel; the path is a
chain that leads to the name. -/
theorem isCircle_of_visit (hnames : (declared.map Computation.name).Nodup) {fuel : Nat}
    {entered path circle : List Text} {n : Text}
    (hchain : (path ++ [n]).IsChain (DependsOn declared))
    (hsub : path ++ [n] ⊆ scopeNames declared)
    (h : (visit declared fuel entered path n).2 = some circle) : IsCircle declared circle := by
  induction fuel generalizing entered path n circle with
  | zero => cases h
  | succ fuel ih =>
      have hpath : ∀ m ∈ neighbours declared n,
          ((path ++ [n]) ++ [m]).IsChain (DependsOn declared) ∧
            (path ++ [n]) ++ [m] ⊆ scopeNames declared := by
        intro m hm
        obtain ⟨hdepends, hmem⟩ := (mem_neighbours hnames).mp hm
        refine ⟨List.isChain_append.mpr ⟨hchain, List.isChain_singleton m, ?_⟩,
          List.append_subset.mpr ⟨hsub, List.cons_subset.mpr ⟨hmem, List.nil_subset _⟩⟩⟩
        intro x hx y hy
        rw [List.getLast?_concat, Option.mem_some] at hx
        rw [List.head?_cons, Option.mem_some] at hy
        exact hx ▸ hy ▸ hdepends
      rw [visit_succ] at h
      exact isCircle_of_foldl hpath (fun hm hfound => ih (hpath _ hm).1 (hpath _ hm).2 hfound) h

/-! ### What is left behind -/

/-- **Names that have been searched**: those that were left are carried out in a
schedule, and the others are on the path. -/
structure Searched (declared : List Computation) (path entered : List Text) : Prop where
  /-- The path has names of the scope. -/
  subset : path ⊆ scopeNames declared
  /-- No name is twice on the path. -/
  nodup : path.Nodup
  /-- What is not on the path has been left. -/
  left : ∃ done, Schedule declared done ∧ (∀ m ∈ path, m ∉ done) ∧
    ∀ m, m ∈ entered ↔ m ∈ done ∨ m ∈ path

namespace Searched

variable {path entered : List Text}

theorem enter (h : Searched declared path entered) {n : Text} (hn : n ∉ entered)
    (hmem : n ∈ scopeNames declared) : Searched declared (path ++ [n]) (entered ++ [n]) := by
  obtain ⟨done, hschedule, hpath, hentered⟩ := h.left
  have hnew : n ∉ done ∧ n ∉ path := not_or.mp fun hor => hn ((hentered n).mpr hor)
  refine ⟨List.append_subset.mpr ⟨h.subset, by simpa using hmem⟩, ?_, done, hschedule, ?_, ?_⟩
  · exact List.nodup_append.mpr ⟨h.nodup, List.nodup_singleton n, fun a ha b hb hab =>
      hnew.2 (List.mem_singleton.mp hb ▸ hab ▸ ha)⟩
  · intro m hm
    rcases List.mem_append.mp hm with hm | hm
    · exact hpath m hm
    · exact List.mem_singleton.mp hm ▸ hnew.1
  · intro m
    rw [List.mem_append, List.mem_append, hentered, or_assoc]

/-- A name is left when all that it depends on has been left. -/
theorem leave {n : Text} (h : Searched declared (path ++ [n]) entered)
    (hall : ∀ m ∈ scopeNames declared, DependsOn declared n m → m ∈ entered ∧ m ∉ path ++ [n]) :
    Searched declared path entered := by
  obtain ⟨done, hschedule, hpath, hentered⟩ := h.left
  obtain ⟨hsub, hn⟩ := List.append_subset.mp h.subset
  have hlast : n ∈ path ++ [n] := List.mem_append_right _ List.mem_cons_self
  have hnodup := List.nodup_append.mp h.nodup
  have hfree : IsFree declared done n := by
    intro c hc hname m hm hmentions
    obtain ⟨hmem, hnot⟩ := hall m hm ⟨c, hc, hname, List.contains_iff_mem.mp hmentions⟩
    exact ⟨fun hmn => hnot (hmn ▸ hlast), ((hentered m).mp hmem).resolve_right hnot⟩
  refine ⟨hsub, hnodup.1, n :: done,
    .cons hschedule (hn List.mem_cons_self) (hpath n hlast) hfree, ?_, ?_⟩
  · intro m hm hdone
    rcases List.mem_cons.mp hdone with rfl | hdone
    · exact hnodup.2.2 m hm m List.mem_cons_self rfl
    · exact hpath m (List.mem_append_left _ hm) hdone
  · intro m
    rw [hentered, List.mem_append, List.mem_singleton, List.mem_cons]
    tauto

/-- The names that are tried one after the other behind a path, given what one visit
does. -/
theorem foldl {fuel : Nat} {names : List Text} (h : Searched declared path entered)
    (hnames : names ⊆ scopeNames declared)
    (hvisit : ∀ {entered m}, Searched declared path entered → m ∉ entered →
      m ∈ scopeNames declared → (visit declared fuel entered path m).2 = none →
      Searched declared path (visit declared fuel entered path m).1 ∧
        entered ++ [m] ⊆ (visit declared fuel entered path m).1)
    (hnone : (names.foldl (tryNext declared fuel path) (entered, none)).2 = none) :
    Searched declared path (names.foldl (tryNext declared fuel path) (entered, none)).1 ∧
      entered ⊆ (names.foldl (tryNext declared fuel path) (entered, none)).1 ∧
      ∀ m ∈ names, m ∈ (names.foldl (tryNext declared fuel path) (entered, none)).1 ∧
        m ∉ path := by
  induction names generalizing entered with
  | nil => exact ⟨h, List.Subset.refl _, fun _ hm => absurd hm List.not_mem_nil⟩
  | cons m names ih =>
      obtain ⟨hm, hnames⟩ := List.cons_subset.mp hnames
      rw [List.foldl_cons] at hnone ⊢
      -- Whatever comes of the name, it has been entered and is not on the path.
      obtain ⟨entered', hstep, hsearched, hgrows, hentered, hpath⟩ : ∃ entered',
          tryNext declared fuel path (entered, none) m = (entered', none) ∧
          Searched declared path entered' ∧ entered ⊆ entered' ∧ m ∈ entered' ∧ m ∉ path := by
        by_cases hmem : m ∈ entered
        · by_cases hpath : m ∈ path
          · simp [tryNext, hmem, hpath, foldl_tryNext_some] at hnone
          · exact ⟨entered, by simp [tryNext, hmem, hpath], h, List.Subset.refl _, hmem, hpath⟩
        · have hpath : m ∉ path := by
            obtain ⟨done, -, -, hentered⟩ := h.left
            exact fun hpath => hmem ((hentered m).mpr (.inr hpath))
          have hstep : tryNext declared fuel path (entered, none) m
              = visit declared fuel entered path m := by simp [tryNext, hmem]
          rw [hstep] at hnone ⊢
          cases hresult : visit declared fuel entered path m with
          | mk entered' found =>
              cases found with
              | some circle =>
                  rw [hresult, foldl_tryNext_some] at hnone
                  cases hnone
              | none =>
                  have hvisited := hvisit h hmem hm (by rw [hresult])
                  rw [hresult] at hvisited
                  obtain ⟨hsub, hlast⟩ := List.append_subset.mp hvisited.2
                  exact ⟨entered', rfl, hvisited.1, hsub, hlast List.mem_cons_self, hpath⟩
      rw [hstep] at hnone ⊢
      obtain ⟨hdone, hsub, hall⟩ := ih hsearched hnames hnone
      refine ⟨hdone, List.Subset.trans hgrows hsub, fun k hk => ?_⟩
      rcases List.mem_cons.mp hk with rfl | hk
      · exact ⟨hsub hentered, hpath⟩
      · exact hall k hk

/-- **A visit that finds no circle leaves the name**, by induction on the fuel, of
which there is enough for a path through the whole scope. -/
theorem visit (hnames : (declared.map Computation.name).Nodup) {fuel : Nat} {n : Text}
    (h : Searched declared path entered) (hn : n ∉ entered) (hmem : n ∈ scopeNames declared)
    (hfuel : (scopeNames declared).length < fuel + path.length)
    (hnone : (Report.visit declared fuel entered path n).2 = none) :
    Searched declared path (Report.visit declared fuel entered path n).1 ∧
      entered ++ [n] ⊆ (Report.visit declared fuel entered path n).1 := by
  induction fuel generalizing entered path n with
  | zero =>
      have := h.nodup.length_le_of_subset h.subset
      omega
  | succ fuel ih =>
      rw [visit_succ] at hnone ⊢
      have hneighbours : neighbours declared n ⊆ scopeNames declared := fun m hm =>
        ((mem_neighbours hnames).mp hm).2
      obtain ⟨hsearched, hsub, hall⟩ := (h.enter hn hmem).foldl hneighbours
        (fun hsearched hm hmem' hnone' => ih hsearched hm hmem'
          (by rw [List.length_append, List.length_singleton]; omega) hnone') hnone
      refine ⟨hsearched.leave fun m hm hdepends => ?_, hsub⟩
      exact hall m ((mem_neighbours hnames).mpr ⟨hdepends, hm⟩)

end Searched

/-! ## Whole scopes -/

theorem isCircle_of_circle? (hnames : (declared.map Computation.name).Nodup)
    {circle : List Text} (h : circle? declared = some circle) : IsCircle declared circle := by
  have hpath : ∀ n ∈ scopeNames declared, ([] ++ [n]).IsChain (DependsOn declared) ∧
      [] ++ [n] ⊆ scopeNames declared := fun n hn =>
    ⟨List.isChain_singleton n, List.cons_subset.mpr ⟨hn, List.nil_subset _⟩⟩
  rw [circle?_eq] at h
  exact isCircle_of_foldl hpath
    (fun hm hfound => isCircle_of_visit hnames (hpath _ hm).1 (hpath _ hm).2 hfound) h

theorem isOrderable_of_circle? (hnames : (declared.map Computation.name).Nodup)
    (h : circle? declared = none) : isOrderable declared = true := by
  have hlength : (scopeNames declared).length ≤ declared.length := by
    have hsub : scopeNames declared ⊆ declared.map Computation.name := by
      intro n hn
      rwa [scopeNames, mem_distinct] at hn
    have hle := (nodup_scopeNames declared).length_le_of_subset hsub
    rwa [List.length_map] at hle
  have hstart : Searched declared [] [] :=
    ⟨List.nil_subset _, List.nodup_nil, [], .nil, by simp, by simp⟩
  rw [circle?_eq] at h
  obtain ⟨hsearched, -, hall⟩ := hstart.foldl (fun _ hn => hn)
    (fun hsearched hm hmem hnone => hsearched.visit hnames hm hmem
      (by rw [List.length_nil]; omega) hnone) h
  -- Nothing is on the path any more, so all names have been left.
  obtain ⟨done, hschedule, -, hentered⟩ := hsearched.left
  refine (isOrderable_iff hnames).mpr ⟨done, hschedule, fun n hn => ?_⟩
  exact ((hentered n).mp (hall n hn).1).resolve_right List.not_mem_nil

/-- **A circle is found exactly where a scope has no order.** -/
theorem isSome_circle?_iff (hnames : (declared.map Computation.name).Nodup) :
    (circle? declared).isSome = true ↔ isOrderable declared = false := by
  constructor
  · intro h
    obtain ⟨circle, hcircle⟩ := Option.isSome_iff_exists.mp h
    have hreal := isCircle_of_circle? hnames hcircle
    rw [← Bool.not_eq_true]
    intro horder
    obtain ⟨done, hschedule, hall⟩ := (isOrderable_iff hnames).mp horder
    exact not_isCircle_of_schedule hschedule hreal (List.Subset.trans hreal.subset hall)
  · intro h
    cases hcircle : circle? declared with
    | some circle => rfl
    | none =>
        rw [isOrderable_of_circle? hnames hcircle] at h
        cases h

/-- **A report names a circle exactly where some scope has no order**, and what it
names is a circle of one scope. -/
theorem circle_ofSurvey (survey : Survey)
    (hnames : ∀ declared ∈ survey.scopes, (declared.map Computation.name).Nodup) :
    ((ofSurvey survey).circle.isSome = true ↔
        ∃ declared ∈ survey.scopes, isOrderable declared = false) ∧
      ∀ circle, (ofSurvey survey).circle = some circle →
        ∃ declared ∈ survey.scopes, IsCircle declared circle := by
  have hcircle : (ofSurvey survey).circle = survey.scopes.findSome? circle? := rfl
  rw [hcircle]
  refine ⟨?_, fun circle h => ?_⟩
  · rw [List.findSome?_isSome_iff]
    exact exists_congr fun declared => and_congr_right fun hmem =>
      isSome_circle?_iff (hnames declared hmem)
  · obtain ⟨declared, hmem, hfound⟩ := List.exists_of_findSome?_eq_some h
    exact ⟨declared, hmem, isCircle_of_circle? (hnames declared hmem) hfound⟩

/-- A page whose computations go round behind a block whose computations do not. -/
def ringSurvey : Survey where
  name := []
  blocks := [{
    computations := [⟨"base".toList, "rent + 1".toList⟩]
    pages := [{
      computations := [⟨"x".toList, "base + a".toList⟩, ⟨"a".toList, "b * 2".toList⟩,
        ⟨"b".toList, "c - base".toList⟩, ⟨"c".toList, "a + 1".toList⟩] }] }]

theorem circle_ringSurvey :
    (∀ declared ∈ ringSurvey.scopes, (declared.map Computation.name).Nodup) ∧
      (∃ declared ∈ ringSurvey.scopes, isOrderable declared = false) ∧
      ∃ declared ∈ ringSurvey.scopes,
        IsCircle declared ["a".toList, "b".toList, "c".toList, "a".toList] :=
  have hnames : ∀ declared ∈ ringSurvey.scopes, (declared.map Computation.name).Nodup := by
    decide
  have hcircle : (ofSurvey ringSurvey).circle
      = some ["a".toList, "b".toList, "c".toList, "a".toList] := by decide +kernel
  ⟨hnames, (circle_ofSurvey ringSurvey hnames).1.mp (by rw [hcircle]; rfl),
    (circle_ofSurvey ringSurvey hnames).2 _ hcircle⟩

end Report
end Questionnaire
