import Questionnaire.Proofs.Computation.Order
import Questionnaire.Proofs.Condition.Reads

/-!
# Computed values and the order of declaration

Any two schedules of a scope compute the same value for every name that both have
carried out (`get?_valuesAfter_eq`): a computation reads nothing but what it
mentions, which is done in both, and what neither has computed. That holds where
the dependencies of the computations cover what their expressions may read
(`IsCovered`); so the values of an orderable scope do not depend on the order of
declaration (`resolve_of_perm`).
-/

namespace Questionnaire.Computation

open Text Condition

variable {declared : List Computation} {known prior : Scope}

/-- **What the dependencies of computations have to cover**: expressions may read
other computations only through words that count as dependencies. -/
structure IsCovered (declared : List Computation) (known prior : Scope) : Prop where
  /-- Computations have names of the form that dependencies are found by. -/
  names : ∀ c ∈ declared, isName c.name = true
  /-- No name is a word that never counts as a dependency. -/
  unreserved : ∀ c ∈ declared, c.name ∉ reserved
  /-- A computation depends on what its quantifiers go over, itself apart: on the
  names with the beginning, and on the names in those. -/
  quantified : ∀ c ∈ declared, ∀ start ∈ (ofText c.expression).starts, ∀ n,
    n ∈ scopeNames declared ∨ known.has n = true ∨ prior.has n = true → hasStart start n = true →
      ∀ m ∈ sideReads n, m ∈ scopeNames declared → mentions c m = true ∨ m = c.name

/-! ## Computations by name -/

theorem eq_of_name_eq (hnames : (declared.map Computation.name).Nodup) {c d : Computation}
    (hc : c ∈ declared) (hd : d ∈ declared) (h : c.name = d.name) : c = d := by
  induction declared with
  | nil => cases hc
  | cons e declared ih =>
      rw [List.map_cons, List.nodup_cons] at hnames
      have hmem : ∀ {d : Computation}, d ∈ declared → d.name ≠ e.name :=
        fun hd hname => hnames.1 (hname ▸ List.mem_map_of_mem hd)
      rcases List.mem_cons.mp hc with hce | hc
      · rcases List.mem_cons.mp hd with hde | hd
        · exact hce.trans hde.symm
        · exact absurd (h.symm.trans (congrArg Computation.name hce)) (hmem hd)
      · rcases List.mem_cons.mp hd with hde | hd
        · exact absurd (h.trans (congrArg Computation.name hde)) (hmem hc)
        · exact ih hnames.2 hc hd

private theorem of_last? {n : Text} {c : Computation} (h : last? declared n = some c) :
    c ∈ declared ∧ c.name = n := by
  rw [last?] at h
  have hname := List.find?_some h
  exact ⟨List.mem_reverse.mp (List.mem_of_find?_eq_some h), by simpa using hname⟩

theorem last?_eq_some_iff (hnames : (declared.map Computation.name).Nodup) {n : Text}
    {c : Computation} : last? declared n = some c ↔ c ∈ declared ∧ c.name = n := by
  constructor
  · exact of_last?
  · rintro ⟨hc, rfl⟩
    cases hlast : last? declared c.name with
    | none =>
        have := List.find?_eq_none.mp hlast c (List.mem_reverse.mpr hc)
        simp at this
    | some d => rw [eq_of_name_eq hnames (of_last? hlast).1 hc (of_last? hlast).2]

/-! ## Values after a schedule -/

/-- The values when the names of `done`, the last one first, have been carried out. -/
def valuesAfter (declared : List Computation) (known prior : Scope) : List Text → Scope
  | [] => prior
  | n :: done =>
    match last? declared n with
    | none => valuesAfter declared known prior done
    | some c => carry known (valuesAfter declared known prior done) c

theorem resolve_eq_valuesAfter (h : isOrderable declared = true) :
    resolve declared known prior
      = valuesAfter declared known prior (order declared).reverse := by
  have hgen : ∀ done : List Text,
      (done.reverse.filterMap (last? declared)).foldl (carry known) prior
        = valuesAfter declared known prior done := by
    intro done
    induction done with
    | nil => rfl
    | cons n done ih =>
        rw [List.reverse_cons, List.filterMap_append, List.foldl_append, ih, valuesAfter]
        cases hlast : last? declared n with
        | none => simp [hlast]
        | some c => simp [hlast]
  rw [resolve, ordered, if_pos h, ← hgen, List.reverse_reverse]

/-- The values after a schedule do not depend on the order of declaration. -/
theorem valuesAfter_of_perm {declared' : List Computation} (hperm : declared.Perm declared')
    (hnames : (declared.map Computation.name).Nodup) (done : List Text) :
    valuesAfter declared known prior done = valuesAfter declared' known prior done := by
  have hlast : ∀ n, last? declared n = last? declared' n := by
    intro n
    refine Option.ext fun c => ?_
    rw [last?_eq_some_iff hnames, last?_eq_some_iff ((hperm.map _).nodup hnames),
      hperm.mem_iff]
  induction done with
  | nil => rfl
  | cons n done ih => rw [valuesAfter, valuesAfter, hlast, ih]

theorem nodup_valuesAfter (hprior : (prior.map Prod.fst).Nodup) (done : List Text) :
    ((valuesAfter declared known prior done).map Prod.fst).Nodup := by
  induction done with
  | nil => exact hprior
  | cons n done ih =>
      rw [valuesAfter]
      split
      · exact ih
      · exact Scope.nodup_keys_set ih _ _

/-- A value is computed once, over what was done before, and stays. -/
theorem get?_valuesAfter_cons {n m : Text} {done : List Text} {c : Computation}
    (hlast : last? declared m = some c) (hname : c.name = m) :
    (valuesAfter declared known prior (m :: done)).get? n = if n = m
      then some (compute c.expression ((valuesAfter declared known prior done).onto known))
      else (valuesAfter declared known prior done).get? n := by
  rw [valuesAfter, hlast]
  exact hname ▸ Scope.get?_set _ _ _ _

theorem get?_valuesAfter_of_not_mem (hnames : (declared.map Computation.name).Nodup)
    {done : List Text} (h : Schedule declared done) {n : Text} (hn : n ∉ done) :
    (valuesAfter declared known prior done).get? n = prior.get? n := by
  induction h with
  | nil => rfl
  | cons _ hmem _ _ ih =>
      obtain ⟨c, hc, hname⟩ := mem_scopeNames.mp hmem
      rw [get?_valuesAfter_cons ((last?_eq_some_iff hnames).mpr ⟨hc, hname⟩) hname,
        if_neg (List.ne_of_not_mem_cons hn)]
      exact ih (List.not_mem_of_not_mem_cons hn)

/-- What a schedule has computed was computed over an earlier schedule, which made
its name free. -/
theorem get?_valuesAfter_of_mem (hnames : (declared.map Computation.name).Nodup)
    {done : List Text} (h : Schedule declared done) {c : Computation} (hc : c ∈ declared)
    (hn : c.name ∈ done) :
    ∃ earlier, Schedule declared earlier ∧ c.name ∉ earlier ∧
      IsFree declared earlier c.name ∧
      (valuesAfter declared known prior done).get? c.name
        = some (compute c.expression
            ((valuesAfter declared known prior earlier).onto known)) := by
  induction h with
  | nil => cases hn
  | @cons m done h hmem hnew hfree ih =>
      obtain ⟨d, hd, hname⟩ := mem_scopeNames.mp hmem
      rw [get?_valuesAfter_cons ((last?_eq_some_iff hnames).mpr ⟨hd, hname⟩) hname]
      by_cases hlater : c.name = m
      · obtain rfl : d = c := eq_of_name_eq hnames hd hc (hname.trans hlater.symm)
        rw [if_pos hlater]
        exact ⟨done, h, hlater ▸ hnew, hlater ▸ hfree, rfl⟩
      · rw [if_neg hlater]
        exact ih ((List.mem_cons.mp hn).resolve_left hlater)

/-! ## Two schedules of one scope -/

/-- A computation depends on every other one whose name is a word of it. -/
private theorem mentions_of_mem_openWords (hcovered : IsCovered declared known prior)
    {c : Computation} {n : Text} (hn : n ∈ scopeNames declared)
    (hword : n ∈ openWords c.expression) : mentions c n = true := by
  obtain ⟨d, hd, rfl⟩ := mem_scopeNames.mp hn
  have hname := hcovered.names d hd
  rw [isName, Bool.and_eq_true] at hname
  have hdependency : d.name ∈ dependencies c.expression := by
    rw [dependencies, List.mem_filter]
    exact ⟨Formula.mem_identifiers.mpr ⟨hword, hname.2⟩, by simpa using hcovered.unreserved d hd⟩
  simpa [mentions] using hdependency

/-- A name that a schedule sees is one of the scope, or was known before. -/
private theorem of_has_onto (hnames : (declared.map Computation.name).Nodup)
    (hprior : (prior.map Prod.fst).Nodup) {done : List Text} (h : Schedule declared done) {n : Text}
    (hn : ((valuesAfter declared known prior done).onto known).has n = true) :
    n ∈ scopeNames declared ∨ known.has n = true ∨ prior.has n = true := by
  by_cases hdone : n ∈ done
  · exact .inl (h.subset hdone)
  · rw [Scope.has, Scope.get?_onto (nodup_valuesAfter hprior done),
      get?_valuesAfter_of_not_mem hnames h hdone, Option.isSome_or, Bool.or_eq_true] at hn
    exact .inr hn.symm

/-- **A computation has one value over two schedules** that do not have it yet,
made it free, and agree on what both have. -/
private theorem compute_eq (hnames : (declared.map Computation.name).Nodup)
    (hprior : (prior.map Prod.fst).Nodup) (hcovered : IsCovered declared known prior)
    {c : Computation} (hc : c ∈ declared) {done done' : List Text} (h : Schedule declared done)
    (h' : Schedule declared done') (hnew : c.name ∉ done) (hnew' : c.name ∉ done')
    (hfree : IsFree declared done c.name) (hfree' : IsFree declared done' c.name)
    (hsame : ∀ n, n ∈ done → n ∈ done' → (valuesAfter declared known prior done).get? n
      = (valuesAfter declared known prior done').get? n) :
    compute c.expression ((valuesAfter declared known prior done).onto known)
      = compute c.expression ((valuesAfter declared known prior done').onto known) := by
  have hagree : ∀ n, (n ∈ scopeNames declared → mentions c n = true ∨ n = c.name) →
      ((valuesAfter declared known prior done).onto known).get? n
        = ((valuesAfter declared known prior done').onto known).get? n := by
    intro n hn
    -- A dependency is done in both schedules, the name itself in neither, and a name
    -- from outside the scope is never done.
    have hvalue : (valuesAfter declared known prior done).get? n
        = (valuesAfter declared known prior done').get? n := by
      by_cases hmem : n ∈ scopeNames declared
      · rcases hn hmem with hmentions | rfl
        · exact hsame n (hfree c hc rfl n hmem hmentions).2 (hfree' c hc rfl n hmem hmentions).2
        · rw [get?_valuesAfter_of_not_mem hnames h hnew,
            get?_valuesAfter_of_not_mem hnames h' hnew']
      · rw [get?_valuesAfter_of_not_mem hnames h fun hdone => hmem (h.subset hdone),
          get?_valuesAfter_of_not_mem hnames h' fun hdone => hmem (h'.subset hdone)]
    rw [Scope.get?_onto (nodup_valuesAfter hprior done),
      Scope.get?_onto (nodup_valuesAfter hprior done'), hvalue]
  -- What the expression reads: its words, names of other shapes, and quantified names.
  refine compute_congr ?_ ?_ ?_
  · exact fun n hn => hagree n fun hmem => .inl (mentions_of_mem_openWords hcovered hmem hn)
  · intro n hword
    refine hagree n fun hmem => ?_
    obtain ⟨d, hd, rfl⟩ := mem_scopeNames.mp hmem
    have hname := hcovered.names d hd
    rw [isName, hword] at hname
    cases hname
  · intro start hstart n hhas hbegins m hm
    refine hagree m fun hmem => hcovered.quantified c hc start hstart n ?_ hbegins m hm hmem
    exact hhas.elim (of_has_onto hnames hprior h) (of_has_onto hnames hprior h')

/-- **Two schedules compute the same values** at the names that both have carried
out, by induction on the first one: a computation sees the same values in both. -/
theorem get?_valuesAfter_eq (hnames : (declared.map Computation.name).Nodup)
    (hprior : (prior.map Prod.fst).Nodup) (hcovered : IsCovered declared known prior)
    {done done' : List Text} (h : Schedule declared done) (h' : Schedule declared done') {n : Text}
    (hn : n ∈ done) (hn' : n ∈ done') :
    (valuesAfter declared known prior done).get? n
      = (valuesAfter declared known prior done').get? n := by
  induction h generalizing done' n with
  | nil => cases hn
  | @cons m done h hmem hnew hfree ih =>
      obtain ⟨c, hc, rfl⟩ := mem_scopeNames.mp hmem
      rw [get?_valuesAfter_cons ((last?_eq_some_iff hnames).mpr ⟨hc, rfl⟩) rfl]
      by_cases hlast : n = c.name
      · subst hlast
        -- The second schedule may have come to `c` at any time; there it saw what is seen here.
        obtain ⟨earlier, hearlier, hnew', hfree', hvalue⟩ :=
          get?_valuesAfter_of_mem hnames h' hc hn'
        rw [if_pos rfl, hvalue, compute_eq hnames hprior hcovered hc h hearlier hnew hnew' hfree
          hfree' fun k hk hk' => ih hearlier hk hk']
      · rw [if_neg hlast]
        exact ih h' ((List.mem_cons.mp hn).resolve_left hlast) hn'

/-- **The values of a scope do not depend on the order of declaration**, where the
dependencies cover what the computations read. -/
theorem resolve_of_perm (declared' : List Computation) (known : Scope)
    (hnames : (declared.map Computation.name).Nodup) (horderable : isOrderable declared = true)
    (hperm : declared.Perm declared') (hprior : (prior.map Prod.fst).Nodup)
    (hcovered : IsCovered declared known prior) (n : Text) :
    (resolve declared known prior).get? n = (resolve declared' known prior).get? n := by
  have hnames' := (hperm.map Computation.name).nodup hnames
  have horderable' := isOrderable_of_perm hperm hnames horderable
  obtain ⟨hschedule, hall⟩ := schedule_order hnames horderable
  obtain ⟨hschedule', hall'⟩ := schedule_order hnames' horderable'
  have hback := hschedule'.of_perm hperm.symm
  rw [resolve_eq_valuesAfter horderable, resolve_eq_valuesAfter horderable',
    ← valuesAfter_of_perm hperm hnames]
  by_cases hn : n ∈ scopeNames declared
  · obtain ⟨c, hc, hname⟩ := mem_scopeNames.mp hn
    have hn' : n ∈ scopeNames declared' := mem_scopeNames.mpr ⟨c, hperm.mem_iff.mp hc, hname⟩
    exact get?_valuesAfter_eq hnames hprior hcovered hschedule hback
      (List.mem_reverse.mpr (hall hn)) (List.mem_reverse.mpr (hall' hn'))
  · rw [get?_valuesAfter_of_not_mem hnames hschedule fun hdone => hn (hschedule.subset hdone),
      get?_valuesAfter_of_not_mem hnames hback fun hdone => hn (hback.subset hdone)]

/-- A quantifier over computed values, and one of those. -/
def petScope : List Computation :=
  [⟨"any_pet".toList, "STARTS_WITH pet_ IS true OR pet_dog".toList⟩,
   ⟨"pet_dog".toList, "dogs > 0".toList⟩]

/-- The answers that they are computed from. -/
def petAnswers : Scope := [("dogs".toList, .text "2".toList), ("pet_cat".toList, .bool false)]

theorem isCovered_petScope : IsCovered petScope petAnswers [] := by
  refine ⟨by decide +kernel, by decide +kernel, ?_⟩
  have hcover : ∀ c ∈ petScope, (ofText c.expression).starts = [] ∨
      ∀ m ∈ scopeNames petScope, mentions c m = true ∨ m = c.name := by decide +kernel
  intro c hc start hstart n _ _ m _ hm
  rcases hcover c hc with hnone | hall
  · rw [hnone] at hstart
    cases hstart
  · exact hall m hm

theorem resolve_of_perm_pets :
    isOrderable petScope = true ∧ IsCovered petScope petAnswers [] ∧
      (resolve petScope petAnswers []).get? "any_pet".toList
        = (resolve petScope.reverse petAnswers []).get? "any_pet".toList :=
  ⟨by decide +kernel, isCovered_petScope,
    resolve_of_perm petScope.reverse petAnswers (by decide +kernel) (by decide +kernel)
      petScope.reverse_perm.symm (show (([] : Scope).map Prod.fst).Nodup from List.nodup_nil)
      isCovered_petScope _⟩

/-! ## What the dependencies do not cover -/

/-- An orderable scope gives `n` another value when it is declared in another
order, over the same known values. -/
def DependsOnOrder (declared declared' : List Computation) (known : Scope) (n : Text) : Prop :=
  (declared.map Computation.name).Nodup ∧ isOrderable declared = true ∧
    declared.Perm declared' ∧
      (resolve declared known []).get? n ≠ (resolve declared' known []).get? n

/-- A quantifier over a name that its computation does not mention. -/
def quantifyingScope : List Computation :=
  [⟨"a".toList, "STARTS_WITH x IS true".toList⟩, ⟨"x1".toList, "true".toList⟩]

/-- A quantifier over nothing that is computed. -/
def summingScope : List Computation :=
  [⟨"a".toList, "STARTS_WITH x > 0".toList⟩, ⟨"b".toList, "0 + 1".toList⟩]

/-- An answer that it goes over, with a name that is read as a formula. -/
def summingAnswers : Scope := [("x + b".toList, .text "0".toList)]

/-- A name that never counts as a dependency. -/
def keywordScope : List Computation :=
  [⟨"a".toList, "IF IS true".toList⟩, ⟨"IF".toList, "true".toList⟩]

/-- A name of two words. -/
def spacedScope : List Computation :=
  [⟨"a".toList, "x y IS true".toList⟩, ⟨"x y".toList, "true".toList⟩]

/-- A name that starts with a digit. -/
def numberedScope : List Computation :=
  [⟨"a".toList, "1x IS true".toList⟩, ⟨"1x".toList, "true".toList⟩]

private theorem dependsOnOrder {declared : List Computation} {n : Text}
    (hnames : (declared.map Computation.name).Nodup) (horderable : isOrderable declared = true)
    (hvalue : ((resolve declared known []).get? n).elim false isTruthy = false)
    (hvalue' : ((resolve declared.reverse known []).get? n).elim false isTruthy = true) :
    DependsOnOrder declared declared.reverse known n := by
  refine ⟨hnames, horderable, declared.reverse_perm.symm, fun h => ?_⟩
  rw [h, hvalue'] at hvalue
  cases hvalue

/-- **Coverage cannot be left out**: a computation comes first or last as declared
when it is read by a quantifier, by itself or in the name of an answer, or when its
name is a reserved word, two words or a word that starts with a digit. -/
theorem dependsOnOrder_uncovered :
    DependsOnOrder quantifyingScope quantifyingScope.reverse [] "a".toList ∧
      DependsOnOrder summingScope summingScope.reverse summingAnswers "a".toList ∧
      DependsOnOrder keywordScope keywordScope.reverse [] "a".toList ∧
      DependsOnOrder spacedScope spacedScope.reverse [] "a".toList ∧
      DependsOnOrder numberedScope numberedScope.reverse [] "a".toList := by
  refine ⟨dependsOnOrder ?_ ?_ ?_ ?_, dependsOnOrder ?_ ?_ ?_ ?_, dependsOnOrder ?_ ?_ ?_ ?_,
    dependsOnOrder ?_ ?_ ?_ ?_, dependsOnOrder ?_ ?_ ?_ ?_⟩
  all_goals decide +kernel

end Questionnaire.Computation
