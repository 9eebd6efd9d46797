import Questionnaire.Value

/-!
# Scopes as maps

`Scope.get?` is the view of a scope: `set` changes it at one name, and `onto`
puts one scope over another. A name that has a value is a key of the list. Two
scopes that differ at one name only go on doing so when values are set in both
(`SameBut`).
-/

namespace Questionnaire.Scope

theorem get?_cons (key : Text) (value : Value) (scope : Scope) (n : Text) :
    get? ((key, value) :: scope) n = if n = key then some value else scope.get? n := by
  by_cases h : n = key
  · subst h
    simp [get?]
  · have hb : (n == key) = false := by simpa using h
    simp only [get?, List.lookup_cons, hb, h, if_false]

/-- **A value is set at one name.** -/
theorem get?_set (scope : Scope) (key : Text) (value : Value) (n : Text) :
    (scope.set key value).get? n = if n = key then some value else scope.get? n := by
  induction scope with
  | nil => exact get?_cons key value [] n
  | cons entry rest ih =>
      obtain ⟨other, old⟩ := entry
      simp only [set]
      by_cases h : other = key
      · subst h
        by_cases hn : n = other <;> simp [get?_cons, hn]
      · simp only [h, if_false, get?_cons, ih]
        by_cases hn : n = other
        · subst hn
          simp [h]
        · simp [hn]

theorem mem_keys_iff {scope : Scope} {n : Text} :
    n ∈ scope.map Prod.fst ↔ (scope.get? n).isSome = true := by
  induction scope with
  | nil => simp [get?]
  | cons entry rest ih =>
      obtain ⟨key, value⟩ := entry
      rw [get?_cons]
      by_cases h : n = key <;> simp [h, ← ih]

/-- The order of its entries does not count where a name stands at most once. -/
theorem get?_perm {scope other : Scope} (h : scope.Perm other)
    (hkeys : (scope.map Prod.fst).Nodup) (n : Text) : scope.get? n = other.get? n := by
  induction h with
  | nil => rfl
  | cons entry _ ih =>
      rw [get?_cons, get?_cons, ih (List.nodup_cons.mp hkeys).2]
  | swap first second rest =>
      have hne : second.1 ≠ first.1 := by
        intro heq
        simp [heq] at hkeys
      rw [get?_cons, get?_cons, get?_cons, get?_cons]
      by_cases hn : n = second.1
      · rw [if_pos hn, if_neg (hn ▸ hne), if_pos hn]
      · rw [if_neg hn, if_neg hn]
  | trans hfirst _ ihfirst ihsecond =>
      rw [ihfirst hkeys, ihsecond ((hfirst.map Prod.fst).nodup_iff.mp hkeys)]

theorem keys_set_of_mem {scope : Scope} {key : Text} {value : Value}
    (h : key ∈ scope.map Prod.fst) :
    (scope.set key value).map Prod.fst = scope.map Prod.fst := by
  induction scope with
  | nil => simp at h
  | cons entry rest ih =>
      obtain ⟨other, old⟩ := entry
      simp only [set]
      by_cases ho : other = key
      · simp [ho]
      · simp only [ho, if_false, List.map_cons, List.cons.injEq, true_and]
        exact ih (by simpa [Ne.symm ho] using h)

theorem keys_set_of_not_mem {scope : Scope} {key : Text} {value : Value}
    (h : key ∉ scope.map Prod.fst) :
    (scope.set key value).map Prod.fst = scope.map Prod.fst ++ [key] := by
  induction scope with
  | nil => simp [set]
  | cons entry rest ih =>
      obtain ⟨other, old⟩ := entry
      simp only [List.map_cons, List.mem_cons, not_or] at h
      simp [set, Ne.symm h.1, ih h.2]

/-- A name stands at most once in a scope that values are set in. -/
theorem nodup_keys_set {scope : Scope} (h : (scope.map Prod.fst).Nodup) (key : Text)
    (value : Value) : ((scope.set key value).map Prod.fst).Nodup := by
  by_cases hmem : key ∈ scope.map Prod.fst
  · rwa [keys_set_of_mem hmem]
  · rw [keys_set_of_not_mem hmem]
    exact List.nodup_append.mpr ⟨h, by simp, by simpa using fun a b hab hka => hmem (by
      simpa using ⟨b, hka ▸ hab⟩)⟩

/-- **The upper scope hides the lower one**, if no name stands twice in it. -/
theorem get?_onto {upper : Scope} (h : (upper.map Prod.fst).Nodup) (scope : Scope) (n : Text) :
    (upper.onto scope).get? n = (upper.get? n).or (scope.get? n) := by
  induction upper generalizing scope with
  | nil => simp [onto, get?]
  | cons entry rest ih =>
      obtain ⟨key, value⟩ := entry
      simp only [List.map_cons, List.nodup_cons] at h
      have hrest := ih h.2 (scope.set key value)
      simp only [onto, List.foldl_cons] at hrest ⊢
      rw [hrest, get?_set, get?_cons]
      by_cases hn : n = key
      · subst hn
        have : get? rest n = none := by
          rw [← Option.not_isSome_iff_eq_none, ← mem_keys_iff]
          exact h.1
        simp [this]
      · simp [hn]

/-- The entry at the end is put on last. -/
theorem onto_concat (upper : Scope) (entry : Text × Value) (scope : Scope) :
    Scope.onto (upper ++ [entry]) scope = (upper.onto scope).set entry.1 entry.2 := by
  simp [onto]

/-- Bindings that all give the same value give it to every name that they
bind. -/
theorem get?_foldl_set {bindings : List (Text × Value)} (value : Value)
    (h : ∀ b ∈ bindings, b.2 = value) (scope : Scope) (n : Text) :
    get? (bindings.foldl (fun scope b => scope.set b.1 b.2) scope) n
      = if n ∈ bindings.map Prod.fst then some value else scope.get? n := by
  induction bindings generalizing scope with
  | nil => simp
  | cons b rest ih =>
      rw [List.foldl_cons, ih (fun b hb => h b (List.mem_cons_of_mem _ hb)), get?_set,
        h b List.mem_cons_self]
      by_cases hn : n = b.1
      · simp [hn]
      · by_cases hr : n ∈ rest.map Prod.fst <;> simp_all

/-! ## Scopes that differ at one name -/

/-- The scopes have the same values, but for one name. -/
def SameBut (x : Text) (scope other : Scope) : Prop := ∀ n, n ≠ x → scope.get? n = other.get? n

namespace SameBut

variable {x : Text} {scope other : Scope}

theorem has_eq (h : SameBut x scope other) {n : Text} (hn : n ≠ x) :
    scope.has n = other.has n := by
  rw [has, has, h n hn]

theorem set (h : SameBut x scope other) (key : Text) (value : Value) :
    SameBut x (scope.set key value) (other.set key value) := by
  intro n hn
  rw [get?_set, get?_set, h n hn]

/-- Setting the same values keeps the difference to the one name. -/
theorem foldl_set (h : SameBut x scope other) (bindings : List (Text × Value)) :
    SameBut x (bindings.foldl (fun scope b => scope.set b.1 b.2) scope)
      (bindings.foldl (fun scope b => scope.set b.1 b.2) other) := by
  induction bindings generalizing scope other with
  | nil => exact h
  | cons b rest ih => exact ih (h.set b.1 b.2)

theorem onto (h : SameBut x scope other) (upper : Scope) :
    SameBut x (upper.onto scope) (upper.onto other) :=
  h.foldl_set upper

end SameBut
end Questionnaire.Scope
