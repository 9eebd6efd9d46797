import Questionnaire.Proofs.Computation.Shown
import Questionnaire.Proofs.Report.Circle

/-!
# Computations in topological order

The computations of a scope with distinct names are put in an order in which each
stands behind those that its expression uses, unless some of them go round in a
circle (`sorted_or_circular`). The order is that of the schedule which `carryOut`
keeps: the names before one are what was done when it was carried out.
-/

namespace Questionnaire.Computation

open Text Formula Report

variable {declared : List Computation}

/-- The expression of the computation has the name of the other one in it. -/
def Uses (c d : Computation) : Prop := d.name ∈ dependencies c.expression

instance (c d : Computation) : Decidable (c.Uses d) :=
  inferInstanceAs (Decidable (d.name ∈ dependencies c.expression))

/-- **A topological order of a scope**: all of its computations, each behind those
that it uses. -/
structure IsTopological (declared sorted : List Computation) : Prop where
  /-- No computation is lost, and none comes twice. -/
  perm : sorted.Perm declared
  /-- What a computation uses stands before it. -/
  before : ∀ front c back, sorted = front ++ c :: back → ∀ d ∈ declared, c.Uses d → d ∈ front

theorem mentions_iff_uses {c d : Computation} : mentions c d.name = true ↔ c.Uses d :=
  List.contains_iff_mem

/-! ## The order of an orderable scope -/

/-- What was done at some time had been carried out in a schedule. -/
theorem Schedule.of_append {later done : List Text} (h : Schedule declared (later ++ done)) :
    Schedule declared done := by
  induction later with
  | nil => exact h
  | cons n later ih =>
      cases h with
      | cons h _ _ _ => exact ih h

/-- Every name of the order belongs to the computation in its place. -/
theorem map_name_ordered (hnames : (declared.map Computation.name).Nodup)
    (h : isOrderable declared = true) : (ordered declared).map Computation.name = order declared := by
  have hgen : ∀ names : List Text, names ⊆ scopeNames declared →
      (names.filterMap (last? declared)).map Computation.name = names := by
    intro names
    induction names with
    | nil => exact fun _ => rfl
    | cons n names ih =>
        intro hsub
        obtain ⟨hn, hsub⟩ := List.cons_subset.mp hsub
        obtain ⟨c, hc, hname⟩ := mem_scopeNames.mp hn
        rw [List.filterMap_cons, (last?_eq_some_iff hnames).mpr ⟨hc, hname⟩, List.map_cons, hname,
          ih hsub]
  rw [ordered, if_pos h]
  exact hgen _ fun n hn => (schedule_order hnames h).1.subset (List.mem_reverse.mpr hn)

theorem perm_ordered (hnames : (declared.map Computation.name).Nodup)
    (h : isOrderable declared = true) : (ordered declared).Perm declared := by
  have hnodup : ((ordered declared).map Computation.name).Nodup := by
    rw [map_name_ordered hnames h]
    exact List.nodup_reverse.mp (schedule_order hnames h).1.nodup
  rw [List.perm_ext_iff_of_nodup hnodup.of_map hnames.of_map]
  exact fun c => ⟨mem_of_mem_ordered, mem_ordered_of_mem hnames⟩

/-- **The order of an orderable scope is topological**: a computation was free when
it was carried out, so all that it uses had been done. -/
theorem isTopological_ordered (hnames : (declared.map Computation.name).Nodup)
    (h : isOrderable declared = true) : IsTopological declared (ordered declared) := by
  refine ⟨perm_ordered hnames h, fun front c back hsplit d hd huses => ?_⟩
  have hmem : ∀ e ∈ front ++ c :: back, e ∈ declared := fun e he =>
    mem_of_mem_ordered (hsplit ▸ he)
  have hc : c ∈ declared := hmem c (by simp)
  have hschedule := (schedule_order hnames h).1
  rw [← map_name_ordered hnames h, hsplit, List.map_append, List.map_cons,
    List.reverse_append, List.reverse_cons, List.append_assoc] at hschedule
  cases hschedule.of_append with
  | cons _ _ _ hfree =>
      have hdone := (hfree c hc rfl d.name (name_mem_scopeNames hd) (mentions_iff_uses.mpr huses)).2
      obtain ⟨e, he, hname⟩ := List.mem_map.mp (List.mem_reverse.mp hdone)
      have he' : e ∈ declared := hmem e (List.mem_append_left _ he)
      rwa [← eq_of_name_eq hnames he' hd hname]

/-! ## Circles -/

/-- **A scope is orderable unless its computations go round in a circle.** -/
theorem isOrderable_iff_no_circle (hnames : (declared.map Computation.name).Nodup) :
    isOrderable declared = true ↔ ¬ ∃ circle, IsCircle declared circle := by
  constructor
  · rintro h ⟨circle, hcircle⟩
    obtain ⟨hschedule, hall⟩ := schedule_order hnames h
    exact not_isCircle_of_schedule hschedule hcircle fun n hn =>
      List.mem_reverse.mpr (hall (hcircle.subset hn))
  · intro hnone
    cases hfound : circle? declared with
    | none => exact isOrderable_of_circle? hnames hfound
    | some circle => exact absurd ⟨circle, isCircle_of_circle? hnames hfound⟩ hnone

/-! ## Scopes without dependencies -/

/-- Names for which nothing waits are carried out as they come. -/
theorem carryOut_of_no_waiting {ready : List Text} (hready : ∀ n ∈ ready, waiting declared n = [])
    {fuel : Nat} (hfuel : ready.length ≤ fuel) (done : List Text) :
    carryOut declared fuel ready done = done.reverse ++ ready := by
  induction fuel generalizing ready done with
  | zero =>
      obtain rfl := List.length_eq_zero_iff.mp (Nat.le_zero.mp hfuel)
      simp [carryOut]
  | succ fuel ih =>
      cases ready with
      | nil => simp [carryOut]
      | cons n ready =>
          rw [List.forall_mem_cons] at hready
          have hfreed : freed declared n done = [] := by rw [freed, hready.1, List.filter_nil]
          rw [List.length_cons, Nat.add_le_add_iff_right] at hfuel
          rw [carryOut, hfreed, List.append_nil, ih hready.2 hfuel, List.reverse_cons,
            List.append_assoc, List.singleton_append]

/-- **Where no computation uses another one**, the order is that of declaration. -/
theorem ordered_of_independent (hnames : (declared.map Computation.name).Nodup)
    (hindependent : ∀ c ∈ declared, ∀ d ∈ declared, c.Uses d → c = d) :
    ordered declared = declared := by
  by_cases h : isOrderable declared = true
  · have hwaiting : ∀ n ∈ declared.map Computation.name, waiting declared n = [] := by
      intro n hn
      obtain ⟨d, hd, rfl⟩ := List.mem_map.mp hn
      refine List.eq_nil_iff_forall_not_mem.mpr fun m hm => ?_
      obtain ⟨c, hc, rfl, hne, hmentions⟩ := mem_waiting.mp hm
      exact hne (congrArg Computation.name (hindependent c hc d hd (mentions_iff_uses.mp hmentions)))
    -- Nothing uses itself either, since that would be a circle.
    have hready : (declared.map Computation.name).filter (fun n => burden declared n = 0)
        = declared.map Computation.name := by
      refine List.filter_eq_self.mpr fun n hn => decide_eq_true ?_
      refine ((relief_eq_burden_iff List.nodup_nil (List.nil_subset _)).mpr ?_).symm
      intro c hc hname m hm hmentions
      obtain ⟨d, hd, rfl⟩ := mem_scopeNames.mp hm
      obtain rfl := hindependent c hc d hd (mentions_iff_uses.mp hmentions)
      obtain ⟨hschedule, hall⟩ := schedule_order hnames h
      have hfree := hschedule.isFree (List.mem_reverse.mpr (hall hm))
      exact absurd rfl (hfree c hc rfl c.name hm hmentions).1
    have horder : order declared = declared.map Computation.name := by
      rw [order, hready, carryOut_of_no_waiting hwaiting (by rw [List.length_map]; omega)]
      rfl
    rw [ordered, if_pos h, horder, List.filterMap_map]
    refine (List.filterMap_congr fun c hc => ?_).trans (List.filterMap_some)
    exact (last?_eq_some_iff hnames).mpr ⟨hc, rfl⟩
  · rw [ordered, if_neg h]

/-! ## All scopes -/

/-- **The order of a scope**: it is complete if and only if there is no circle, and then
it is topological and the order of declaration where nothing uses anything else;
otherwise it is the order of declaration. -/
theorem sorted_or_circular (hnames : (declared.map Computation.name).Nodup) :
    (isOrderable declared = true ↔ ¬ ∃ circle, IsCircle declared circle) ∧
      (isOrderable declared = true → IsTopological declared (ordered declared) ∧
        ((∀ c ∈ declared, ∀ d ∈ declared, c.Uses d → c = d) → ordered declared = declared)) ∧
      (isOrderable declared = false → ordered declared = declared) := by
  refine ⟨isOrderable_iff_no_circle hnames, fun h => ⟨isTopological_ordered hnames h,
    ordered_of_independent hnames⟩, fun h => ?_⟩
  rw [ordered, if_neg (by simp [h])]

/-- A total before the sums that it is made of. -/
def taxScope : List Computation :=
  [⟨"total".toList, "subtotal + tax".toList⟩, ⟨"tax".toList, "subtotal * 0.2".toList⟩,
    ⟨"flag".toList, "rent > 100".toList⟩, ⟨"subtotal".toList, "rent + food".toList⟩]

/-- The same with a subtotal that comes from the total. -/
def circularScope : List Computation :=
  [⟨"total".toList, "subtotal + tax".toList⟩, ⟨"tax".toList, "subtotal * 0.2".toList⟩,
    ⟨"subtotal".toList, "total - tax".toList⟩]

theorem sorted_taxScope : (taxScope.map Computation.name).Nodup ∧
    (circularScope.map Computation.name).Nodup ∧
    IsTopological taxScope [⟨"flag".toList, "rent > 100".toList⟩,
      ⟨"subtotal".toList, "rent + food".toList⟩, ⟨"tax".toList, "subtotal * 0.2".toList⟩,
      ⟨"total".toList, "subtotal + tax".toList⟩] ∧
    (∃ circle, IsCircle circularScope circle) ∧ ordered circularScope = circularScope := by
  have hnames : (taxScope.map Computation.name).Nodup := by decide
  have hnames' : (circularScope.map Computation.name).Nodup := by decide
  have hordered : ordered taxScope = [⟨"flag".toList, "rent > 100".toList⟩,
      ⟨"subtotal".toList, "rent + food".toList⟩, ⟨"tax".toList, "subtotal * 0.2".toList⟩,
      ⟨"total".toList, "subtotal + tax".toList⟩] := by decide +kernel
  have hcomplete : isOrderable taxScope = true := by decide +kernel
  have hcircular : isOrderable circularScope = false := by decide +kernel
  refine ⟨hnames, hnames', hordered ▸ ((sorted_or_circular hnames).2.1 hcomplete).1, ?_,
    (sorted_or_circular hnames').2.2 hcircular⟩
  by_contra hnone
  have hsorted := (sorted_or_circular hnames').1.mpr hnone
  rw [hcircular] at hsorted
  cases hsorted

end Questionnaire.Computation
