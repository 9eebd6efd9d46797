import Questionnaire.Breakdown
import Questionnaire.Proofs.Decimal.Places
import Questionnaire.Proofs.Value.Scope

/-!
# Amounts that are filled in

A text that is filled in for a row at first may come back as the answer of that row.
Then the total counts the number that the text writes, but not where the number was
faint: its text has an exponent, and the row counts as zero (`comesBack_of_prefills`).
-/

namespace Questionnaire.Breakdown

open Text Decimal

variable {options : List Choice} {cells other : Scope} {name : Text} {v x : Float}

/-- The total looks at nothing but the amounts in the cells. -/
theorem addRows?_congr (h : ∀ n, amount? (cells.get? n) = amount? (other.get? n))
    (running : Float) : addRows? cells running options = addRows? other running options := by
  induction options generalizing running with
  | nil => rfl
  | cons choice rest ih =>
      have hsigned : signed? cells choice = signed? other choice := by
        rw [signed?, signed?, h]
      simp only [addRows?, hsigned, ih]

/-- A cell may be replaced by the number that it counts as. -/
theorem total?_set (h : amount? (cells.get? name) = some v) :
    total? options (cells.set name (.float v)) = total? options cells := by
  refine addRows?_congr (fun n => ?_) 0
  rw [Scope.get?_set]
  split
  · rename_i hn
    rw [hn, h]
    rfl
  · rfl

/-- How a number that was displayed under a name enters the total with these cells. -/
structure ComesBack (x : Float) (cells : Scope) (name : Text) : Prop where
  /-- It counts as the number that its text writes, unless it is faint. -/
  counted : ¬IsFaint x → ∃ v, readFloat? (trim (displayFloat x)) = some v ∧
    ∀ options, total? options cells = total? options (cells.set name (.float v))
  /-- A faint number counts as zero. -/
  lost : IsFaint x → ∀ options, total? options cells = total? options (cells.set name (.float 0))

theorem comesBack (h : cells.get? name = some (.text (displayFloat x))) :
    ComesBack x cells name := by
  constructor
  · intro hfaint
    have hplain := (isPlainNumber_displayFloat x).mpr hfaint
    obtain ⟨v, hv⟩ := Option.isSome_iff_exists.mp (isSome_readFloat?_trim hplain)
    refine ⟨v, hv, fun options => (total?_set ?_).symm⟩
    rw [h, amount?, if_pos hplain, hv, Option.getD_some]
  · intro hfaint options
    have hplain : ¬isPlainNumber (displayFloat x) = true := fun hplain =>
      (isPlainNumber_displayFloat x).mp hplain hfaint
    refine (total?_set ?_).symm
    rw [h, amount?, if_neg hplain]

/-- **What is filled in comes back as a number, unless it was faint.** The text of a number is a
plain number exactly if the number is not faint. Each text that is filled in is that of the number
its formula has; given back as the cell of the row, it counts in every total as the number that it
writes, but as zero if the number was faint. -/
theorem comesBack_of_prefills (x : Float) (options : List Choice) (scope : Scope) :
    (isPlainNumber (displayFloat x) = true ↔ ¬IsFaint x) ∧
      ∀ entry ∈ prefills options scope, ∃ choice ∈ options, ∃ formula,
        given? choice.prefill = some formula ∧
          entry = (choice.value, displayFloat (Formula.evaluate formula scope)) ∧
          ∀ cells : Scope, cells.get? entry.1 = some (.text entry.2) →
            ComesBack (Formula.evaluate formula scope) cells entry.1 := by
  refine ⟨isPlainNumber_displayFloat x, fun entry hentry => ?_⟩
  obtain ⟨choice, hchoice, hmap⟩ := List.mem_filterMap.mp hentry
  obtain ⟨formula, hformula, rfl⟩ := Option.map_eq_some_iff.mp hmap
  exact ⟨choice, hchoice, formula, hformula, rfl, fun cells hcell => comesBack hcell⟩

/-- A deposit of an eighth that is filled in. -/
def depositChoice : Choice :=
  { value := "Deposit".toList, label := "Deposit".toList, prefill := some "1 / 8".toList }

/-- The cells with the text of the deposit given back. -/
def depositCells : Scope := [("Deposit".toList, .text "0.125".toList)]

theorem comesBack_of_prefills_deposit :
    ¬IsFaint (Formula.evaluate "1 / 8".toList []) ∧
      ComesBack (Formula.evaluate "1 / 8".toList []) depositCells "Deposit".toList := by
  obtain ⟨hplain, hback⟩ := comesBack_of_prefills (Formula.evaluate "1 / 8".toList [])
    [depositChoice] []
  refine ⟨hplain.mp (by decide +kernel), ?_⟩
  obtain ⟨choice, hchoice, formula, hformula, hentry, hcells⟩ :=
    hback ("Deposit".toList, "0.125".toList) (by decide +kernel)
  obtain rfl := List.mem_singleton.mp hchoice
  obtain rfl : "1 / 8".toList = formula := Option.some.inj hformula
  exact hcells depositCells rfl

end Questionnaire.Breakdown
