import Mathlib.Data.List.Induction
import Mathlib.Data.List.Nodup
import Questionnaire.Formula.Name

/-!
# Lists without repeats

`distinct` goes along a list and takes a name unless it has it (`distinct_concat`).
What is left has the same names, each of them once and at its first place: it is
what `List.eraseDups` leaves (`distinct_eq_eraseDups`).
-/

namespace Questionnaire.Formula

theorem distinct_concat (names : List Text) (n : Text) : distinct (names ++ [n])
    = if n ∈ distinct names then distinct names else distinct names ++ [n] := by
  simp [distinct, List.foldl_append]

theorem mem_distinct {names : List Text} {n : Text} : n ∈ distinct names ↔ n ∈ names := by
  induction names using List.reverseRecOn with
  | nil => rfl
  | append_singleton names m ih =>
      rw [distinct_concat, List.mem_append, List.mem_singleton, ← ih]
      split
      · rename_i hm
        exact ⟨.inl, fun hn => hn.elim id fun hn => hn ▸ hm⟩
      · rw [List.mem_append, List.mem_singleton]

theorem distinct_concat_of_mem {names : List Text} {n : Text} (h : n ∈ names) :
    distinct (names ++ [n]) = distinct names := by
  rw [distinct_concat, if_pos (mem_distinct.mpr h)]

theorem distinct_concat_of_not_mem {names : List Text} {n : Text} (h : n ∉ names) :
    distinct (names ++ [n]) = distinct names ++ [n] := by
  rw [distinct_concat, if_neg (mt mem_distinct.mp h)]

theorem nodup_distinct (names : List Text) : (distinct names).Nodup := by
  induction names using List.reverseRecOn with
  | nil => exact List.nodup_nil
  | append_singleton names n ih =>
      by_cases hn : n ∈ names
      · rwa [distinct_concat_of_mem hn]
      · rw [distinct_concat_of_not_mem hn, ← List.concat_eq_append]
        exact ih.concat (mt mem_distinct.mp hn)

theorem distinct_filter (p : Text → Bool) (names : List Text) :
    distinct (names.filter p) = (distinct names).filter p := by
  induction names using List.reverseRecOn with
  | nil => rfl
  | append_singleton names n ih =>
      rw [List.filter_append]
      by_cases hp : p n = true
      · rw [List.filter_cons_of_pos hp, List.filter_nil]
        by_cases hn : n ∈ names
        · rw [distinct_concat_of_mem hn, distinct_concat_of_mem (List.mem_filter.mpr ⟨hn, hp⟩), ih]
        · rw [distinct_concat_of_not_mem hn, List.filter_append,
            distinct_concat_of_not_mem fun hmem => hn (List.mem_filter.mp hmem).1, ih,
            List.filter_cons_of_pos hp, List.filter_nil]
      · rw [List.filter_cons_of_neg hp, List.filter_nil, List.append_nil, ih, distinct_concat]
        split <;> simp [hp]

/-- **The first of equals stays.** -/
theorem distinct_eq_eraseDups (names : List Text) : distinct names = names.eraseDups := by
  induction names using List.reverseRecOn with
  | nil => rfl
  | append_singleton names n ih =>
      rw [List.eraseDups_append, ← ih]
      by_cases hn : n ∈ names
      · simp [distinct_concat_of_mem hn, List.removeAll, hn]
      · simp [distinct_concat_of_not_mem hn, List.removeAll, hn, List.eraseDups_cons]

end Questionnaire.Formula
