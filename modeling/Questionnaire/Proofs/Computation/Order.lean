import Questionnaire.Computation.Order
import Questionnaire.Proofs.Text.Words

/-!
# Orders of computations

A *schedule* carries out computations one by one, each when everything that its
expression mentions is done. `carryOut` keeps a schedule and a queue of the names
that are free (`Carried`); it ends with every name that can be reached. So the
computations of a scope with distinct names are orderable if and only if some
schedule carries out all of them (`isOrderable_iff`), whatever the order of
declaration.
-/

namespace Questionnaire.Computation

open Text Formula

variable {declared : List Computation}

/-! ## Names -/

theorem mem_scopeNames {n : Text} :
    n ∈ scopeNames declared ↔ ∃ c ∈ declared, c.name = n := by
  rw [scopeNames, mem_distinct, List.mem_map]

theorem name_mem_scopeNames {c : Computation} (h : c ∈ declared) : c.name ∈ scopeNames declared :=
  mem_scopeNames.mpr ⟨c, h, rfl⟩

theorem nodup_scopeNames (declared : List Computation) : (scopeNames declared).Nodup :=
  nodup_distinct _

theorem length_scopeNames_le (declared : List Computation) :
    (scopeNames declared).length ≤ declared.length := by
  have hsub : scopeNames declared ⊆ declared.map Computation.name := by
    intro n hn
    rwa [scopeNames, mem_distinct] at hn
  have hlength := (nodup_scopeNames declared).length_le_of_subset hsub
  rwa [List.length_map] at hlength

theorem mem_waiting {n m : Text} :
    n ∈ waiting declared m ↔ ∃ c ∈ declared, c.name = n ∧ n ≠ m ∧ mentions c m = true := by
  rw [waiting, mem_distinct, List.mem_map]
  constructor
  · rintro ⟨c, hc, rfl⟩
    obtain ⟨hmem, hwaits⟩ := List.mem_filter.mp hc
    simp only [Bool.and_eq_true, decide_eq_true_eq] at hwaits
    exact ⟨c, hmem, rfl, hwaits⟩
  · rintro ⟨c, hmem, rfl, hne, hmentions⟩
    exact ⟨c, List.mem_filter.mpr ⟨hmem, by simp [hne, hmentions]⟩, rfl⟩

/-! ## Counting what is done -/

/-- A list without repeats inside another one counts no more. -/
private theorem countP_le_of_subset {done names : List Text} (p : Text → Bool)
    (hdone : done.Nodup) (hsub : done ⊆ names) : done.countP p ≤ names.countP p := by
  rw [List.countP_eq_length_filter, List.countP_eq_length_filter]
  refine (hdone.sublist List.filter_sublist).length_le_of_subset fun m hm => ?_
  obtain ⟨hmem, hp⟩ := List.mem_filter.mp hm
  exact List.mem_filter.mpr ⟨hsub hmem, hp⟩

/-- It counts as much if and only if it has all that counts. -/
private theorem countP_eq_iff {done names : List Text} (p : Text → Bool) (hdone : done.Nodup)
    (hnames : names.Nodup) (hsub : done ⊆ names) :
    done.countP p = names.countP p ↔ ∀ m ∈ names, p m = true → m ∈ done := by
  constructor
  · intro h m hm hp
    by_cases hmem : m ∈ done
    · exact hmem
    · have hmore := countP_le_of_subset p (List.nodup_cons.mpr ⟨hmem, hdone⟩)
        (List.cons_subset.mpr ⟨hm, hsub⟩)
      rw [List.countP_cons_of_pos hp] at hmore
      omega
  · intro h
    refine Nat.le_antisymm (countP_le_of_subset p hdone hsub) ?_
    rw [List.countP_eq_length_filter, List.countP_eq_length_filter]
    refine (hnames.sublist List.filter_sublist).length_le_of_subset fun m hm => ?_
    obtain ⟨hmem, hp⟩ := List.mem_filter.mp hm
    exact List.mem_filter.mpr ⟨h m hmem hp, hp⟩

/-- Everything that the computation of a name mentions is done, and it does not
mention itself. -/
def IsFree (declared : List Computation) (done : List Text) (n : Text) : Prop :=
  ∀ c ∈ declared, c.name = n → ∀ m ∈ scopeNames declared, mentions c m = true →
    m ≠ n ∧ m ∈ done

theorem IsFree.mono {done done' : List Text} {n : Text} (h : IsFree declared done n)
    (hsub : done ⊆ done') : IsFree declared done' n :=
  fun c hc hname m hm hmentions =>
    ⟨(h c hc hname m hm hmentions).1, hsub (h c hc hname m hm hmentions).2⟩

/-- **The counts tell which names are free.** -/
theorem relief_eq_burden_iff {done : List Text} {n : Text} (hdone : done.Nodup)
    (hsub : done ⊆ scopeNames declared) :
    relief declared done n = burden declared n ↔ IsFree declared done n := by
  have hle := countP_le_of_subset (fun m => (waiting declared m).contains n) hdone hsub
  have hiff := countP_eq_iff (fun m => (waiting declared m).contains n) hdone
    (nodup_scopeNames declared) hsub
  have hself : (declared.countP fun c => c.name = n && mentions c n) = 0 ↔
      ∀ c ∈ declared, c.name = n → mentions c n = false := by
    simp [List.countP_eq_zero]
  -- A computation that mentions itself is a burden that nothing relieves.
  rw [relief, burden]
  constructor
  · intro h c hc hname m hm hmentions
    have hzero := hself.mp (by omega)
    have hne : m ≠ n := by
      rintro rfl
      rw [hzero c hc hname] at hmentions
      cases hmentions
    refine ⟨hne, hiff.mp (by omega) m hm ?_⟩
    simpa using mem_waiting.mpr ⟨c, hc, hname, Ne.symm hne, hmentions⟩
  · intro h
    have hzero := hself.mpr fun c hc hname => by
      by_cases hmentions : mentions c n = true
      · exact absurd rfl (h c hc hname n (hname ▸ name_mem_scopeNames hc) hmentions).1
      · exact Bool.eq_false_iff.mpr hmentions
    have hall := hiff.mpr fun m hm hwaits => by
      obtain ⟨c, hc, hname, _, hmentions⟩ := mem_waiting.mp (show n ∈ waiting declared m by
        simpa using hwaits)
      exact (h c hc hname m hm hmentions).2
    omega

/-! ## Schedules -/

/-- **Names carried out one by one**, the last one first, each when everything
that its computation mentions was done. -/
inductive Schedule (declared : List Computation) : List Text → Prop where
  | nil : Schedule declared []
  | cons {n : Text} {done : List Text} (h : Schedule declared done)
      (hmem : n ∈ scopeNames declared) (hnew : n ∉ done) (hfree : IsFree declared done n) :
      Schedule declared (n :: done)

namespace Schedule

variable {done : List Text}

theorem nodup (h : Schedule declared done) : done.Nodup := by
  induction h with
  | nil => exact List.nodup_nil
  | cons _ _ hnew _ ih => exact List.nodup_cons.mpr ⟨hnew, ih⟩

theorem subset (h : Schedule declared done) : done ⊆ scopeNames declared := by
  induction h with
  | nil => exact List.nil_subset _
  | cons _ hmem _ _ ih => exact List.cons_subset.mpr ⟨hmem, ih⟩

/-- What is done was free. -/
theorem isFree (h : Schedule declared done) {n : Text} (hn : n ∈ done) :
    IsFree declared done n := by
  induction h with
  | nil => cases hn
  | cons _ _ _ hfree ih =>
      rcases List.mem_cons.mp hn with rfl | hn
      · exact hfree.mono (List.subset_cons_self _ _)
      · exact (ih hn).mono (List.subset_cons_self _ _)

/-- A name is free when the names that were done before it in some schedule are. -/
theorem subset_of_closed (h : Schedule declared done) {final : List Text}
    (hclosed : ∀ n ∈ scopeNames declared, IsFree declared final n → n ∈ final) :
    done ⊆ final := by
  induction h with
  | nil => exact List.nil_subset _
  | cons _ hmem _ hfree ih =>
      exact List.cons_subset.mpr ⟨hclosed _ hmem (hfree.mono ih), ih⟩

/-- Schedules do not depend on the order of declaration. -/
theorem of_perm {declared' : List Computation} (hperm : declared.Perm declared')
    (h : Schedule declared done) : Schedule declared' done := by
  have hnames : ∀ n, n ∈ scopeNames declared ↔ n ∈ scopeNames declared' := by
    intro n
    rw [mem_scopeNames, mem_scopeNames]
    exact ⟨fun ⟨c, hc, hn⟩ => ⟨c, hperm.mem_iff.mp hc, hn⟩,
      fun ⟨c, hc, hn⟩ => ⟨c, hperm.mem_iff.mpr hc, hn⟩⟩
  induction h with
  | nil => exact .nil
  | cons _ hmem hnew hfree ih =>
      refine .cons ih ((hnames _).mp hmem) hnew fun c hc hname m hm hmentions => ?_
      exact hfree c (hperm.mem_iff.mpr hc) hname m ((hnames m).mpr hm) hmentions

end Schedule

/-! ## The queue -/

/-- **What carrying out keeps**: the names done form a schedule, and the queue has
the free names that are not done, each once. -/
structure Carried (declared : List Computation) (ready done : List Text) : Prop where
  /-- What is done has been carried out in order. -/
  schedule : Schedule declared done
  /-- No name is twice in the queue, or in it and done. -/
  nodup : (ready ++ done).Nodup
  /-- The queue has names of the scope. -/
  subset : ready ⊆ scopeNames declared
  /-- What is in the queue is free. -/
  free : ∀ n ∈ ready, IsFree declared done n
  /-- What is free is done or in the queue. -/
  closed : ∀ n ∈ scopeNames declared, IsFree declared done n → n ∈ done ∨ n ∈ ready

namespace Carried

variable {ready done : List Text} {n : Text}

/-- What a name frees is what waited for it and is free behind it. -/
private theorem mem_freed (hschedule : Schedule declared (n :: done)) {m : Text} :
    m ∈ freed declared n done ↔
      m ∈ scopeNames declared ∧ IsFree declared (n :: done) m ∧ ¬ IsFree declared done m := by
  rw [freed, List.mem_filter, decide_eq_true_eq,
    relief_eq_burden_iff hschedule.nodup hschedule.subset, mem_waiting]
  have hnew := (List.nodup_cons.mp hschedule.nodup).1
  constructor
  · rintro ⟨⟨c, hc, hname, hne, hmentions⟩, hfree⟩
    refine ⟨mem_scopeNames.mpr ⟨c, hc, hname⟩, hfree, fun hearlier => ?_⟩
    exact hnew (hearlier c hc hname n (hschedule.subset List.mem_cons_self) hmentions).2
  · rintro ⟨hmem, hfree, hearlier⟩
    refine ⟨?_, hfree⟩
    -- Had no computation of `m` mentioned `n`, it would have been free before.
    by_cases hwaits : ∃ c ∈ declared, c.name = m ∧ mentions c n = true
    · obtain ⟨c, hc, hname, hmentions⟩ := hwaits
      have hne := (hfree c hc hname n (hschedule.subset List.mem_cons_self) hmentions).1
      exact ⟨c, hc, hname, Ne.symm hne, hmentions⟩
    · refine absurd (fun c hc hname k hk hmentions => ?_) hearlier
      obtain ⟨hne, hdone⟩ := hfree c hc hname k hk hmentions
      rcases List.mem_cons.mp hdone with rfl | hdone
      · exact absurd ⟨c, hc, hname, hmentions⟩ hwaits
      · exact ⟨hne, hdone⟩

/-- **One name is carried out.** -/
theorem step (h : Carried declared (n :: ready) done) :
    Carried declared (ready ++ freed declared n done) (n :: done) := by
  have hnodup : n ∉ ready ++ done ∧ (ready ++ done).Nodup := List.nodup_cons.mp h.nodup
  have hnew : n ∉ done := fun hn => hnodup.1 (List.mem_append_right _ hn)
  have hschedule : Schedule declared (n :: done) :=
    .cons h.schedule (h.subset List.mem_cons_self) hnew (h.free n List.mem_cons_self)
  have hfreed : ∀ m ∈ freed declared n done, m ∉ ready ∧ m ∉ n :: done := by
    intro m hm
    obtain ⟨_, _, hearlier⟩ := (mem_freed hschedule).mp hm
    refine ⟨fun hready => hearlier (h.free m (List.mem_cons_of_mem _ hready)), fun hdone => ?_⟩
    rcases List.mem_cons.mp hdone with rfl | hdone
    · exact hearlier (h.free m List.mem_cons_self)
    · exact hearlier (h.schedule.isFree hdone)
  -- No repeats, names of the scope, all free, and nothing free is left out.
  refine ⟨hschedule, ?_, ?_, ?_, ?_⟩
  · have hparts := List.nodup_append.mp hnodup.2
    have hdistinct : (freed declared n done).Nodup :=
      (nodup_distinct _).sublist List.filter_sublist
    refine List.nodup_append.mpr ⟨List.nodup_append.mpr ⟨hparts.1, hdistinct, ?_⟩,
      hschedule.nodup, ?_⟩
    · rintro m hready _ hm rfl
      exact (hfreed m hm).1 hready
    · rintro m hm _ hdone rfl
      rcases List.mem_append.mp hm with hready | hm
      · rcases List.mem_cons.mp hdone with rfl | hdone
        · exact hnodup.1 (List.mem_append_left _ hready)
        · exact hparts.2.2 m hready m hdone rfl
      · exact (hfreed m hm).2 hdone
  · refine List.append_subset.mpr ⟨fun m hm => h.subset (List.mem_cons_of_mem _ hm), ?_⟩
    exact fun m hm => ((mem_freed hschedule).mp hm).1
  · intro m hm
    rcases List.mem_append.mp hm with hready | hm
    · exact (h.free m (List.mem_cons_of_mem _ hready)).mono (List.subset_cons_self _ _)
    · exact ((mem_freed hschedule).mp hm).2.1
  · intro m hmem hfree
    by_cases hearlier : IsFree declared done m
    · rcases h.closed m hmem hearlier with hdone | hready
      · exact .inl (List.mem_cons_of_mem _ hdone)
      · rcases List.mem_cons.mp hready with rfl | hready
        · exact .inl List.mem_cons_self
        · exact .inr (List.mem_append_left _ hready)
    · exact .inr (List.mem_append_right _ ((mem_freed hschedule).mpr ⟨hmem, hfree, hearlier⟩))

/-- The queue is empty when all names are done. -/
theorem length_le (h : Carried declared ready done) :
    ready.length + done.length ≤ (scopeNames declared).length := by
  have := h.nodup.length_le_of_subset
    (List.append_subset.mpr ⟨h.subset, h.schedule.subset⟩)
  rwa [List.length_append] at this

/-- **Carrying out ends with an empty queue**, by induction on the fuel, which
counts the names that are not done. -/
theorem run {fuel : Nat} (h : Carried declared ready done)
    (hfuel : (scopeNames declared).length ≤ fuel + done.length) :
    ∃ final, carryOut declared fuel ready done = final.reverse ∧ Carried declared [] final := by
  induction fuel generalizing ready done with
  | zero =>
      -- With no fuel all names are done, so none is in the queue.
      have hlength := h.length_le
      have hempty : ready = [] := List.length_eq_zero_iff.mp (by omega)
      subst hempty
      exact ⟨done, rfl, h⟩
  | succ fuel ih =>
      cases ready with
      | nil => exact ⟨done, rfl, h⟩
      | cons n ready =>
          rw [carryOut]
          exact ih h.step (by rw [List.length_cons]; omega)

end Carried

/-! ## The order of a scope -/

/-- The names in the queue at the start are those that wait for nothing. -/
theorem carried_ready (hnames : (declared.map Computation.name).Nodup) :
    Carried declared ((declared.map Computation.name).filter fun n => burden declared n = 0)
      [] := by
  have hfree : ∀ n, burden declared n = 0 ↔ IsFree declared [] n := by
    intro n
    rw [← relief_eq_burden_iff List.nodup_nil (List.nil_subset _)]
    exact eq_comm
  have hready : ∀ n,
      n ∈ ((declared.map Computation.name).filter fun n => burden declared n = 0) ↔
        n ∈ scopeNames declared ∧ IsFree declared [] n := by
    intro n
    rw [List.mem_filter, decide_eq_true_eq, hfree, scopeNames, mem_distinct]
  refine ⟨.nil, ?_, fun n hn => ((hready n).mp hn).1, fun n hn => ((hready n).mp hn).2,
    fun n hmem hn => .inr ((hready n).mpr ⟨hmem, hn⟩)⟩
  rw [List.append_nil]
  exact hnames.sublist List.filter_sublist

private theorem exists_carried (hnames : (declared.map Computation.name).Nodup) :
    ∃ final, order declared = final.reverse ∧ Carried declared [] final := by
  refine (carried_ready hnames).run ?_
  have hlength := length_scopeNames_le declared
  omega

/-- **An orderable scope is carried out in a schedule** of all its names. -/
theorem schedule_order (hnames : (declared.map Computation.name).Nodup)
    (h : isOrderable declared = true) :
    Schedule declared (order declared).reverse ∧ scopeNames declared ⊆ order declared := by
  obtain ⟨final, horder, hcarried⟩ := exists_carried hnames
  rw [isOrderable, decide_eq_true_eq, horder, List.length_reverse] at h
  rw [horder, List.reverse_reverse]
  refine ⟨hcarried.schedule, fun n hn => List.mem_reverse.mpr ?_⟩
  by_cases hdone : n ∈ final
  · exact hdone
  · -- One more name would not fit in the scope.
    have hmore := (List.nodup_cons.mpr ⟨hdone, hcarried.schedule.nodup⟩).length_le_of_subset
      (List.cons_subset.mpr ⟨hn, hcarried.schedule.subset⟩)
    rw [List.length_cons] at hmore
    omega

/-- **A scope is orderable if some schedule carries out all of it.** -/
theorem isOrderable_iff (hnames : (declared.map Computation.name).Nodup) :
    isOrderable declared = true ↔ ∃ done, Schedule declared done ∧ scopeNames declared ⊆ done := by
  constructor
  · intro h
    obtain ⟨hschedule, hall⟩ := schedule_order hnames h
    exact ⟨_, hschedule, fun n hn => List.mem_reverse.mpr (hall hn)⟩
  · rintro ⟨done, hschedule, hall⟩
    obtain ⟨final, horder, hcarried⟩ := exists_carried hnames
    have hfinal : done ⊆ final := hschedule.subset_of_closed fun n hmem hfree =>
      (hcarried.closed n hmem hfree).resolve_right List.not_mem_nil
    have hle := hcarried.schedule.nodup.length_le_of_subset hcarried.schedule.subset
    have hge := (nodup_scopeNames declared).length_le_of_subset (List.Subset.trans hall hfinal)
    rw [isOrderable, decide_eq_true_eq, horder, List.length_reverse]
    omega

/-- **Whether a scope is orderable does not depend on the order of declaration.** -/
theorem isOrderable_of_perm {declared' : List Computation} (hperm : declared.Perm declared')
    (hnames : (declared.map Computation.name).Nodup) (h : isOrderable declared = true) :
    isOrderable declared' = true := by
  obtain ⟨done, hschedule, hall⟩ := (isOrderable_iff hnames).mp h
  refine (isOrderable_iff ((hperm.map _).nodup hnames)).mpr ⟨done, hschedule.of_perm hperm, ?_⟩
  intro n hn
  obtain ⟨c, hc, hname⟩ := mem_scopeNames.mp hn
  exact hall (mem_scopeNames.mpr ⟨c, hperm.mem_iff.mpr hc, hname⟩)

end Questionnaire.Computation
