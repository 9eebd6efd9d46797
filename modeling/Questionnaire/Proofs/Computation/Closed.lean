import Questionnaire.Proofs.Computation.Sorting

/-!
# Closed parts of a scope

A part of a scope is closed if its computations look at no others of the scope
(`IsClosed`). What is not in the part then frees nothing in it, so the part is carried
out in the same order within the scope as alone: the queue of the part is that of the
scope without the names that are not in it (`filter_carryOut`, by the steps of the
scope). So it has the same values as alone (`get?_resolve_part`), and as in any part of
the scope around it (`get?_resolve_without`).
-/

namespace Questionnaire.Computation

open Text Formula

variable {declared : List Computation} {p : Text → Bool} {known prior : Scope}

/-- The computations of a scope with the names that are chosen. -/
def part (p : Text → Bool) (declared : List Computation) : List Computation :=
  declared.filter fun c => p c.name

/-- The part of the scope looks at nothing that the rest of the scope declares. Names that the
scope does not declare may be chosen or not. -/
structure IsClosed (p : Text → Bool) (declared : List Computation) : Prop where
  /-- It waits for nothing outside. -/
  uses : ∀ c ∈ declared, p c.name = true → ∀ d ∈ declared, c.Uses d → p d.name = true
  /-- It reads chosen names only. -/
  reads : ∀ c ∈ declared, p c.name = true → ∀ n ∈ reads c.expression, p n = true
  /-- It quantifies over nothing. -/
  starts : ∀ c ∈ declared, p c.name = true → (Condition.ofText c.expression).starts = []

theorem mem_part {c : Computation} : c ∈ part p declared ↔ c ∈ declared ∧ p c.name = true :=
  List.mem_filter

theorem part_cons (p : Text → Bool) (c : Computation) (rest : List Computation) :
    part p (c :: rest) = if p c.name = true then c :: part p rest else part p rest :=
  List.filter_cons

/-- A part of a part is one of the scope. -/
theorem part_part {q : Text → Bool} (hle : ∀ c ∈ declared, p c.name = true → q c.name = true) :
    part p (part q declared) = part p declared := by
  refine List.filter_filter.trans (List.filter_congr fun c hc => ?_)
  cases hp : p c.name with
  | false => rfl
  | true => rw [hle c hc hp, Bool.and_self]

theorem IsClosed.of_subset {others : List Computation} (hclosed : IsClosed p declared)
    (hsub : others ⊆ declared) : IsClosed p others where
  uses c hc hp d hd := hclosed.uses c (hsub hc) hp d (hsub hd)
  reads c hc := hclosed.reads c (hsub hc)
  starts c hc := hclosed.starts c (hsub hc)

/-! ## Names -/

theorem map_name_part (p : Text → Bool) (declared : List Computation) :
    (part p declared).map Computation.name = (declared.map Computation.name).filter p :=
  (List.filter_map).symm

theorem scopeNames_part (p : Text → Bool) (declared : List Computation) :
    scopeNames (part p declared) = (scopeNames declared).filter p := by
  rw [scopeNames, map_name_part, distinct_filter, scopeNames]

theorem nodup_part (hnames : (declared.map Computation.name).Nodup) (p : Text → Bool) :
    ((part p declared).map Computation.name).Nodup := by
  rw [map_name_part]
  exact hnames.sublist List.filter_sublist

/-! ## What waits -/

theorem waiting_part (p : Text → Bool) (declared : List Computation) (n : Text) :
    waiting (part p declared) n = (waiting declared n).filter p := by
  rw [waiting, waiting, ← distinct_filter, List.filter_map, part, List.filter_filter,
    List.filter_filter]
  simp only [Function.comp_apply, Bool.and_comm]

/-- Nothing in a closed part waits for a name from outside. -/
theorem IsClosed.not_waiting (hclosed : IsClosed p declared) {n m : Text}
    (hn : n ∈ scopeNames declared) (hnot : ¬ p n = true) (hm : m ∈ waiting declared n) :
    ¬ p m = true := by
  intro hp
  obtain ⟨c, hc, rfl, -, hmentions⟩ := mem_waiting.mp hm
  obtain ⟨d, hd, rfl⟩ := mem_scopeNames.mp hn
  exact hnot (hclosed.uses c hc hp d hd (mentions_iff_uses.mp hmentions))

/-- What a name of a closed part waits for is counted in the part as in the scope. -/
theorem IsClosed.countP_waiting (hclosed : IsClosed p declared) {names : List Text}
    (hnames : names ⊆ scopeNames declared) {n : Text} (hn : p n = true) :
    ((names.filter p).countP fun m => (waiting (part p declared) m).contains n)
      = names.countP fun m => (waiting declared m).contains n := by
  rw [List.countP_filter]
  refine List.countP_congr fun m hm => ?_
  simp only [waiting_part, Bool.and_eq_true, List.contains_iff_mem, List.mem_filter, hn, and_true]
  refine ⟨And.left, fun hwaits => ⟨hwaits, ?_⟩⟩
  by_contra hnot
  exact hclosed.not_waiting (hnames hm) hnot hwaits hn

theorem IsClosed.burden_part (hclosed : IsClosed p declared) {n : Text} (hn : p n = true) :
    burden (part p declared) n = burden declared n := by
  rw [burden, burden, scopeNames_part, hclosed.countP_waiting (List.Subset.refl _) hn, part,
    List.countP_filter]
  congr 1
  refine List.countP_congr fun c _ => ?_
  simp only [Bool.and_eq_true, decide_eq_true_eq]
  exact ⟨And.left, fun h => ⟨h, h.1 ▸ hn⟩⟩

/-- **A name of a closed part** frees in the part what it frees of it in the scope. -/
theorem IsClosed.freed_part (hclosed : IsClosed p declared) {n : Text} {done : List Text}
    (hdone : n :: done ⊆ scopeNames declared) (hn : p n = true) :
    freed (part p declared) n (done.filter p) = (freed declared n done).filter p := by
  rw [freed, freed, waiting_part, List.filter_filter, List.filter_filter]
  refine List.filter_congr fun m _ => ?_
  cases hm : p m with
  | false => simp
  | true =>
      have hrelief := hclosed.countP_waiting hdone hm
      rw [List.filter_cons_of_pos hn] at hrelief
      rw [relief, relief, hrelief, hclosed.burden_part hm, Bool.and_comm]

/-- **A name from outside** frees nothing of it. -/
theorem IsClosed.filter_freed (hclosed : IsClosed p declared) {n : Text} {done : List Text}
    (hmem : n ∈ scopeNames declared) (hn : ¬ p n = true) :
    (freed declared n done).filter p = [] :=
  List.filter_eq_nil_iff.mpr fun _ hm =>
    hclosed.not_waiting hmem hn (List.mem_filter.mp hm).1

/-! ## The order of a closed part -/

theorem carryOut_nil (declared : List Computation) (fuel : Nat) (done : List Text) :
    carryOut declared fuel [] done = done.reverse := by
  cases fuel <;> rfl

/-- **A closed part is carried out as if it stood alone**: by induction on the fuel of the scope,
along its queue. A name of the part is a step of both, any other one a step of the scope only. -/
theorem IsClosed.filter_carryOut (hclosed : IsClosed p declared) {fuel fuel' : Nat}
    {ready done : List Text} (h : Carried declared ready done)
    (hfuel : (scopeNames declared).length ≤ fuel + done.length)
    (hfuel' : (scopeNames (part p declared)).length ≤ fuel' + (done.filter p).length) :
    (carryOut declared fuel ready done).filter p
      = carryOut (part p declared) fuel' (ready.filter p) (done.filter p) := by
  induction fuel generalizing fuel' ready done with
  | zero =>
      have hlength := h.length_le
      obtain rfl : ready = [] := List.length_eq_zero_iff.mp (by omega)
      rw [carryOut_nil, List.filter_nil, carryOut_nil, List.filter_reverse]
  | succ fuel ih =>
      cases ready with
      | nil => rw [carryOut_nil, List.filter_nil, carryOut_nil, List.filter_reverse]
      | cons n ready =>
          have hdone := h.step.schedule.subset
          have hfuel : (scopeNames declared).length ≤ fuel + (n :: done).length := by
            rw [List.length_cons]
            omega
          rw [carryOut]
          by_cases hn : p n = true
          · -- The name is not done, so there is fuel left for it in the part too.
            have hmore := (h.step.schedule.nodup.sublist List.filter_sublist).length_le_of_subset
              (List.filter_subset p hdone)
            rw [← scopeNames_part, List.filter_cons_of_pos hn, List.length_cons] at hmore
            obtain ⟨left, rfl⟩ : ∃ left, fuel' = left + 1 := ⟨fuel' - 1, by omega⟩
            rw [List.filter_cons_of_pos hn, carryOut, hclosed.freed_part hdone hn,
              ← List.filter_append, ← List.filter_cons_of_pos hn]
            refine ih h.step hfuel ?_
            rw [List.filter_cons_of_pos hn, List.length_cons]
            omega
          · have hskip : ∀ names : List Text, (n :: names).filter p = names.filter p :=
              fun _ => List.filter_cons_of_neg hn
            have hstep := ih h.step hfuel (by rwa [hskip])
            rwa [List.filter_append, hclosed.filter_freed (hdone List.mem_cons_self) hn,
              List.append_nil, hskip done, ← hskip ready] at hstep

theorem IsClosed.filter_order (hclosed : IsClosed p declared)
    (hnames : (declared.map Computation.name).Nodup) :
    (order declared).filter p = order (part p declared) := by
  have hfuel : ∀ declared : List Computation,
      (scopeNames declared).length ≤ 2 * declared.length + ([] : List Text).length := by
    intro declared
    have hlength := length_scopeNames_le declared
    rw [List.length_nil]
    omega
  rw [order, order, hclosed.filter_carryOut (carried_ready hnames) (hfuel declared)
    (hfuel (part p declared)), map_name_part, List.filter_filter, List.filter_filter]
  congr 1
  refine List.filter_congr fun n _ => ?_
  cases hn : p n with
  | false => simp
  | true => rw [hclosed.burden_part hn, Bool.and_comm]

/-- What is left of a schedule is a schedule of what is left of the scope. -/
theorem Schedule.filter {done : List Text} (h : Schedule declared done) (p : Text → Bool) :
    Schedule (part p declared) (done.filter p) := by
  induction h with
  | nil => exact .nil
  | @cons n done _ hmem hnew hfree ih =>
      by_cases hn : p n = true
      · rw [List.filter_cons_of_pos hn]
        refine ih.cons ?_ (fun hdone => hnew (List.mem_filter.mp hdone).1) ?_
        · rw [scopeNames_part]
          exact List.mem_filter.mpr ⟨hmem, hn⟩
        · intro c hc hname m hm hmentions
          rw [scopeNames_part] at hm
          obtain ⟨hm, hp⟩ := List.mem_filter.mp hm
          obtain ⟨hne, hdone⟩ := hfree c (mem_part.mp hc).1 hname m hm hmentions
          exact ⟨hne, List.mem_filter.mpr ⟨hdone, hp⟩⟩
      · rwa [List.filter_cons_of_neg hn]

/-- **Every part of an orderable scope** is orderable. -/
theorem isOrderable_part (hnames : (declared.map Computation.name).Nodup)
    (h : isOrderable declared = true) (p : Text → Bool) : isOrderable (part p declared) = true := by
  obtain ⟨done, hschedule, hall⟩ := (isOrderable_iff hnames).mp h
  refine (isOrderable_iff (nodup_part hnames p)).mpr ⟨done.filter p, hschedule.filter p, ?_⟩
  rw [scopeNames_part]
  exact List.filter_subset p hall

/-- **The order of a closed part** is that of the scope, without the rest. -/
theorem IsClosed.ordered_part (hclosed : IsClosed p declared)
    (hnames : (declared.map Computation.name).Nodup) (h : isOrderable declared = true) :
    ordered (part p declared) = part p (ordered declared) := by
  have hlast : ∀ n c, p n = true →
      (last? (part p declared) n = some c ↔ last? declared n = some c) := by
    intro n c hn
    rw [last?_eq_some_iff (nodup_part hnames p), last?_eq_some_iff hnames, mem_part]
    exact ⟨fun h => ⟨h.1.1, h.2⟩, fun h => ⟨⟨h.1, h.2 ▸ hn⟩, h.2⟩⟩
  rw [ordered, ordered, if_pos (isOrderable_part hnames h p), if_pos h,
    ← hclosed.filter_order hnames, List.filterMap_filter]
  refine (List.filterMap_congr fun n _ => Option.ext fun c => ?_).trans List.filter_filterMap.symm
  rw [Option.filter_eq_some_iff]
  split
  · rename_i hn
    rw [hlast n c hn]
    refine ⟨fun h => ⟨h, ?_⟩, And.left⟩
    rwa [((last?_eq_some_iff hnames).mp h).2]
  · rename_i hn
    refine iff_of_false (by simp) ?_
    rintro ⟨h, hc⟩
    rw [((last?_eq_some_iff hnames).mp h).2] at hc
    exact hn hc

/-! ## The values of a closed part -/

/-- **Closed computations** compute the same values among others as alone, by induction on the
computations: the values with the chosen names stay the same. -/
theorem IsClosed.get?_foldl_carry {computations : List Computation}
    (hclosed : IsClosed p computations) {values others : Scope}
    (hvalues : (values.map Prod.fst).Nodup) (hothers : (others.map Prod.fst).Nodup)
    (hsame : ∀ n, p n = true → values.get? n = others.get? n) {n : Text} (hn : p n = true) :
    (computations.foldl (carry known) values).get? n
      = ((part p computations).foldl (carry known) others).get? n := by
  induction computations generalizing values others with
  | nil => exact hsame n hn
  | cons c rest ih =>
      have hrest := hclosed.of_subset (List.subset_cons_self c rest)
      have hkeys := Scope.nodup_keys_set hvalues c.name
        (compute c.expression (values.onto known))
      rw [List.foldl_cons]
      by_cases hc : p c.name = true
      · rw [part_cons, if_pos hc, List.foldl_cons]
        refine ih hrest hkeys (Scope.nodup_keys_set hothers _ _) fun m hm => ?_
        have hcompute : compute c.expression (values.onto known)
            = compute c.expression (others.onto known) := by
          have hreads := hclosed.reads c List.mem_cons_self hc
          refine compute_congr_reads (fun k hk => ?_) ?_
          · rw [Scope.get?_onto hvalues, Scope.get?_onto hothers, hsame k (hreads k hk)]
          · simp [hclosed.starts c List.mem_cons_self hc]
        rw [get?_carry, get?_carry, hcompute, hsame m hm]
      · rw [part_cons, if_neg hc]
        refine ih hrest hkeys hothers fun m hm => ?_
        have hname : m ≠ c.name := fun hname => hc (hname ▸ hm)
        rw [get?_carry, if_neg hname, hsame m hm]

/-- **A closed part of an orderable scope** has the same values as it has alone. -/
theorem IsClosed.get?_resolve_part (hclosed : IsClosed p declared)
    (hnames : (declared.map Computation.name).Nodup) (horderable : isOrderable declared = true)
    (hprior : (prior.map Prod.fst).Nodup) {n : Text} (hn : p n = true) :
    (resolve declared known prior).get? n = (resolve (part p declared) known prior).get? n := by
  have hordered : IsClosed p (ordered declared) :=
    hclosed.of_subset fun _ => mem_of_mem_ordered
  rw [resolve, resolve, hclosed.ordered_part hnames horderable]
  exact hordered.get?_foldl_carry hprior hprior (fun _ _ => rfl) hn

/-- **What is outside of a closed part may be left out**, all of it or not. -/
theorem IsClosed.get?_resolve_without (hclosed : IsClosed p declared)
    (hnames : (declared.map Computation.name).Nodup) (horderable : isOrderable declared = true)
    (hprior : (prior.map Prod.fst).Nodup) {q : Text → Bool}
    (hle : ∀ c ∈ declared, p c.name = true → q c.name = true) {n : Text} (hn : p n = true) :
    (resolve declared known prior).get? n = (resolve (part q declared) known prior).get? n := by
  have hpart : IsClosed p (part q declared) := hclosed.of_subset fun _ hc => (mem_part.mp hc).1
  rw [hclosed.get?_resolve_part hnames horderable hprior hn, hpart.get?_resolve_part
    (nodup_part hnames q) (isOrderable_part hnames horderable q) hprior hn, part_part hle]

end Questionnaire.Computation
