import Questionnaire.Source.State

/-!
# The last element of a list changed

Modifiers change the last row of a question, and a page that is closed changes
the last navigation entry. Nothing else of the list is touched. What stands behind
the last mark of a list goes on until the next one (`behindLast_concat`).
-/

namespace Questionnaire.Source

variable {α β : Type}

@[simp] theorem changeLast_nil (change : α → α) : changeLast change [] = [] := rfl

@[simp] theorem changeLast_concat (change : α → α) (front : List α) (last : α) :
    changeLast change (front ++ [last]) = front ++ [change last] := by
  simp [changeLast]

@[simp] theorem changeLast_singleton (change : α → α) (item : α) :
    changeLast change [item] = [change item] := rfl

theorem changeLast_cons_cons (change : α → α) (x y : α) (rest : List α) :
    changeLast change (x :: y :: rest) = x :: changeLast change (y :: rest) := by
  simp only [changeLast, List.getLast?_cons_cons]
  cases List.getLast? (y :: rest) <;> rfl

theorem changeLast_append (change : α → α) (front : List α) {rest : List α} (h : rest ≠ []) :
    changeLast change (front ++ rest) = front ++ changeLast change rest := by
  rw [← List.dropLast_concat_getLast h, ← List.append_assoc, changeLast_concat, changeLast_concat,
    List.append_assoc]

@[simp] theorem length_changeLast (change : α → α) (items : List α) :
    (changeLast change items).length = items.length := by
  rcases List.eq_nil_or_concat items with rfl | ⟨front, last, rfl⟩
  · rfl
  · simp

theorem head?_changeLast (change : α → α) (items : List α) :
    (changeLast change items).head? =
      if items.length = 1 then items.head?.map change else items.head? := by
  rcases items with - | ⟨x, - | ⟨y, rest⟩⟩
  · rfl
  · rfl
  · rw [changeLast_cons_cons]
    simp

theorem getLast?_changeLast (change : α → α) (items : List α) :
    (changeLast change items).getLast? = items.getLast?.map change := by
  rcases List.eq_nil_or_concat items with rfl | ⟨front, last, rfl⟩
  · rfl
  · simp

theorem changeLast_eq_set {items : List α} {last : α} (change : α → α)
    (h : items.getLast? = some last) :
    changeLast change items = items.set (items.length - 1) (change last) := by
  obtain ⟨front, rfl⟩ := List.getLast?_eq_some_iff.mp h
  simp

theorem mem_changeLast {change : α → α} {items : List α} {item : α}
    (h : item ∈ changeLast change items) :
    item ∈ items ∨ ∃ last ∈ items, item = change last := by
  rcases List.eq_nil_or_concat items with rfl | ⟨front, last, rfl⟩
  · exact .inl h
  · rw [List.concat_eq_append] at h ⊢
    rw [changeLast_concat] at h
    rcases List.mem_append.mp h with h | h
    · exact .inl (List.mem_append_left _ h)
    · exact .inr ⟨last, List.mem_append_right _ List.mem_cons_self, List.mem_singleton.mp h⟩

/-- What a change does not touch stays the same. -/
theorem map_changeLast {f : α → β} {change : α → α} (h : ∀ item, f (change item) = f item)
    (items : List α) : (changeLast change items).map f = items.map f := by
  rcases List.eq_nil_or_concat items with rfl | ⟨front, last, rfl⟩
  · rfl
  · simp [h]

/-- A map commutes with a change that it carries over. -/
theorem changeLast_map {f : α → β} {change : α → α} {change' : β → β}
    (h : ∀ item, f (change item) = change' (f item)) (items : List α) :
    changeLast change' (items.map f) = (changeLast change items).map f := by
  rcases List.eq_nil_or_concat items with rfl | ⟨front, last, rfl⟩
  · rfl
  · simp [h]

/-! ## Behind the last mark -/

/-- The elements behind the last one that is marked, or all where none is. -/
def behindLast (marks : α → Bool) (items : List α) : List α :=
  (items.reverse.takeWhile fun item => !marks item).reverse

@[simp] theorem behindLast_nil (marks : α → Bool) : behindLast marks [] = [] := rfl

theorem behindLast_concat (marks : α → Bool) (items : List α) (item : α) :
    behindLast marks (items ++ [item])
      = if marks item then [] else behindLast marks items ++ [item] := by
  cases hmark : marks item <;> simp [behindLast, hmark]

/-- What is found behind the last mark once there is one more element. -/
theorem any_behindLast_concat (marks found : α → Bool) (items : List α) (item : α) :
    (behindLast marks (items ++ [item])).any found
      = (!marks item && ((behindLast marks items).any found || found item)) := by
  rw [behindLast_concat]
  cases marks item <;> simp

end Questionnaire.Source
