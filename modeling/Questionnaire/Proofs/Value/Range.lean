import Questionnaire.Rendering

/-!
# Values in range

A value is in range if no whole number in it, at any depth, is beyond the
floating-point range (`IsInRange`); then it can be shown in every style. A whole
number out of range can only come from an answer: variables take their values
from answers and from the cells of answers, and what is computed is a truth value
or a floating-point number.
-/

namespace Questionnaire

open Text

namespace Value

mutual
/-- No whole number in the value is out of range. -/
def IsInRange : Value → Prop
  | int n => (Decimal.ofInt? n).isSome = true
  | list items => ItemsInRange items
  | map entries => CellsInRange entries
  | _ => True
/-- No whole number in the items is out of range. -/
def ItemsInRange : List Value → Prop
  | [] => True
  | item :: rest => IsInRange item ∧ ItemsInRange rest
/-- No whole number in the cells is out of range. -/
def CellsInRange : List (Text × Value) → Prop
  | [] => True
  | (_, cell) :: rest => IsInRange cell ∧ CellsInRange rest
end

/-- The cells of an answer in range are in range. -/
theorem IsInRange.cell? {value cell : Value} {key : Text} (h : value.IsInRange)
    (hcell : value.cell? key = some cell) : cell.IsInRange := by
  cases value with
  | map entries =>
      rw [IsInRange] at h
      rw [Value.cell?] at hcell
      induction entries with
      | nil => cases hcell
      | cons entry rest ih =>
          obtain ⟨other, first⟩ := entry
          rw [CellsInRange] at h
          rw [List.lookup_cons] at hcell
          split at hcell
          · cases hcell
            exact h.1
          · exact ih h.2 hcell
  | _ => cases hcell

/-! ## What can be shown -/

/-- A value in range can be displayed. -/
theorem IsInRange.isSome_display? {value : Value} (h : value.IsInRange) :
    value.display?.isSome = true := by
  cases value with
  | int n =>
      rw [IsInRange] at h
      rw [display?, Option.isSome_map]
      exact h
  | _ => rfl

theorem isSome_displayItems? {items : List Value} (h : ItemsInRange items) :
    (displayItems? items).isSome = true := by
  induction items with
  | nil => rfl
  | cons item rest ih =>
      rw [ItemsInRange] at h
      obtain ⟨first, hfirst⟩ := Option.isSome_iff_exists.mp h.1.isSome_display?
      obtain ⟨others, hothers⟩ := Option.isSome_iff_exists.mp (ih h.2)
      simp [displayItems?, hfirst, hothers]

/-- The entries of a map in range have texts to be shown, which are in range themselves. -/
theorem exists_labelEntries? {entries : List (Text × Value)} (h : CellsInRange entries) :
    ∃ labels, labelEntries? entries = some labels ∧ ItemsInRange labels := by
  induction entries with
  | nil => exact ⟨[], rfl, trivial⟩
  | cons entry rest ih =>
      obtain ⟨key, cell⟩ := entry
      rw [CellsInRange] at h
      obtain ⟨first, hfirst⟩ := Option.isSome_iff_exists.mp h.1.isSome_display?
      obtain ⟨labels, hlabels, hrange⟩ := ih h.2
      refine ⟨.text (key ++ [':', ' '] ++ first) :: labels, ?_, ?_⟩
      · simp [labelEntries?, hfirst, hlabels]
      · rw [ItemsInRange]
        exact ⟨trivial, hrange⟩

/-- **A value in range can be shown in every style.** -/
theorem IsInRange.isSome_show? {value : Value} (h : value.IsInRange) (style : Template.Style) :
    (Template.show? style value).isSome = true := by
  have hbullets : ∀ {items : List Value}, ItemsInRange items →
      (bulletList? items).isSome = true := fun hitems => by
    rw [bulletList?, Option.isSome_map]
    exact isSome_displayItems? hitems
  have hphrase : ∀ {items : List Value}, ItemsInRange items →
      (phraseList? items).isSome = true := fun hitems => by
    rw [phraseList?, Option.isSome_map]
    exact isSome_displayItems? hitems
  cases value with
  | list items =>
      cases style with
      | bullets => exact hbullets h
      | phrase => exact hphrase h
  | map entries =>
      obtain ⟨labels, hlabels, hrange⟩ := exists_labelEntries? h
      cases style with
      | bullets => simpa [Template.show?, hlabels] using hbullets hrange
      | phrase => simpa [Template.show?, hlabels] using hphrase hrange
  | null => exact h.isSome_display?
  | bool b => exact h.isSome_display?
  | int n => exact h.isSome_display?
  | float x => exact h.isSome_display?
  | text t => exact h.isSome_display?

end Value

/-! ## Scopes in range -/

namespace Scope

/-- All values of the scope are in range. -/
def IsInRange (scope : Scope) : Prop := ∀ entry ∈ scope, entry.2.IsInRange

variable {scope upper : Scope}

theorem IsInRange.get? (h : scope.IsInRange) {name : Text} {value : Value}
    (hvalue : scope.get? name = some value) : value.IsInRange := by
  induction scope with
  | nil => cases hvalue
  | cons entry rest ih =>
      obtain ⟨key, first⟩ := entry
      rw [Scope.get?, List.lookup_cons] at hvalue
      split at hvalue
      · cases hvalue
        exact h _ List.mem_cons_self
      · exact ih (fun e he => h e (List.mem_cons_of_mem _ he)) hvalue

theorem IsInRange.set (h : scope.IsInRange) {value : Value} (hvalue : value.IsInRange)
    (name : Text) : (scope.set name value).IsInRange := by
  induction scope with
  | nil => simpa [Scope.set, IsInRange] using hvalue
  | cons entry rest ih =>
      obtain ⟨key, first⟩ := entry
      have hrest : Scope.IsInRange rest := fun e he => h e (List.mem_cons_of_mem _ he)
      have hfirst := h (key, first) List.mem_cons_self
      rw [Scope.set]
      split
      · intro e he
        rcases List.mem_cons.mp he with rfl | he
        · exact hvalue
        · exact hrest e he
      · intro e he
        rcases List.mem_cons.mp he with rfl | he
        · exact hfirst
        · exact ih hrest e he

/-- Setting values in range keeps a scope in range. -/
theorem IsInRange.foldl_set {bindings : List (Text × Value)} (h : scope.IsInRange)
    (hbindings : ∀ b ∈ bindings, b.2.IsInRange) :
    (bindings.foldl (fun scope b => scope.set b.1 b.2) scope).IsInRange := by
  induction bindings generalizing scope with
  | nil => exact h
  | cons b rest ih =>
      exact ih (h.set (hbindings b List.mem_cons_self) b.1)
        fun e he => hbindings e (List.mem_cons_of_mem _ he)

theorem IsInRange.onto (hupper : upper.IsInRange) (h : scope.IsInRange) :
    (upper.onto scope).IsInRange :=
  h.foldl_set hupper

end Scope

/-! ## Where values come from -/

/-- Variables have the values of answers and of the cells of answers. -/
theorem Answers.isInRange_scope (survey : Survey) {answers : Scope} (h : answers.IsInRange) :
    (Answers.scope survey answers).IsInRange := by
  have hbindings : ∀ (question : Question) {answer : Value}, answer.IsInRange →
      ∀ b ∈ bindings question answer, b.2.IsInRange := by
    intro question answer hanswer b hb
    rw [bindings, List.mem_append, List.mem_append] at hb
    rcases hb with (hb | hb) | hb
    · obtain ⟨n, _, rfl⟩ := List.mem_map.mp hb
      exact hanswer
    · obtain ⟨row, _, hrow⟩ := List.mem_filterMap.mp hb
      obtain ⟨n, _, hbound⟩ := Option.bind_eq_some_iff.mp hrow
      obtain ⟨cell, hcell, rfl⟩ := Option.map_eq_some_iff.mp hbound
      exact hanswer.cell? hcell
    · obtain ⟨choice, _, hchoice⟩ := List.mem_filterMap.mp hb
      obtain ⟨n, _, hbound⟩ := Option.bind_eq_some_iff.mp hchoice
      obtain ⟨cell, hcell, rfl⟩ := Option.map_eq_some_iff.mp hbound
      exact hanswer.cell? hcell
  refine Scope.IsInRange.foldl_set (fun _ hnil => absurd hnil List.not_mem_nil) fun b hb => ?_
  obtain ⟨question, _, hb⟩ := List.mem_flatMap.mp hb
  cases hanswer : answers.get? question.id with
  | none => simp [hanswer] at hb
  | some answer => exact hbindings question (h.get? hanswer) b (by simpa [hanswer] using hb)

namespace Computation

/-- What is computed is a truth value or a floating-point number. -/
theorem isInRange_compute (expression : Text) (scope : Scope) :
    (compute expression scope).IsInRange := by
  rw [compute]
  split <;> trivial

theorem isInRange_resolve (declared : List Computation) (known : Scope) {prior : Scope}
    (h : prior.IsInRange) : (resolve declared known prior).IsInRange := by
  rw [resolve]
  generalize ordered declared = order
  induction order generalizing prior with
  | nil => exact h
  | cons first rest ih => exact ih (h.set (isInRange_compute _ _) _)

/-- The computed values of a survey are in range, whatever the answers. -/
theorem isInRange_resolveSurvey (survey : Survey) (known : Scope) :
    (resolveSurvey survey known).IsInRange := by
  have hscopes : ∀ (scopes : List (List Computation)) {prior : Scope}, prior.IsInRange →
      (resolveScopes scopes known prior).IsInRange := by
    intro scopes
    induction scopes with
    | nil => exact fun h => h
    | cons declared rest ih => exact fun h => ih (isInRange_resolve declared known h)
  exact hscopes survey.scopes fun _ hnil => absurd hnil List.not_mem_nil

end Computation

/-- **A whole number out of range can only come from an answer.** -/
theorem Rendering.isInRange_valuesFor (survey : Survey) {answers : Scope}
    (h : answers.IsInRange) : (valuesFor survey answers).IsInRange :=
  (Computation.isInRange_resolveSurvey survey _).onto (Answers.isInRange_scope survey h)

end Questionnaire
