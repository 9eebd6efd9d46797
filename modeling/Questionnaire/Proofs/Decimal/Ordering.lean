import Questionnaire.Condition.Comparison

/-!
# How numbers compare

Two floating-point numbers stand in one of four ways to each other (`order`): the
first is below the second, equal to it or above it, or one of them is not a number
and nothing can be said. All six relations of conditions are read off from that
(`Relation.holds_eq`), so what holds between them is settled by four cases.
-/

namespace Questionnaire.Decimal

open Float.Model

/-- How a number stands to another one; what is not a number stands in no way to
anything. -/
def order (x y : Float) : Option Ordering := x.toModel.unpack.compare y.toModel.unpack

/-! ## Seen from the other side -/

private theorem compare_swap (a b : UnpackedFloat) :
    b.compare a = (a.compare b).map Ordering.swap := by
  have hfinite : ∀ (e f : Int) (m n : Nat),
      (compare f e).then (compare n m) = ((compare e f).then (compare m n)).swap := by
    intro e f m n
    rw [Ordering.swap_then, Int.compare_swap, Nat.compare_swap]
  -- Only two infinities and two finite numbers of one sign are compared further.
  rcases a with (_ | _) | _ | (_ | _) | ⟨_ | _, m, e, hm⟩ <;>
    rcases b with (_ | _) | _ | (_ | _) | ⟨_ | _, n, f, hn⟩ <;>
    try rfl
  · exact congrArg (fun found => some found.swap) (hfinite e f m n)
  · exact congrArg some (hfinite e f m n)

theorem order_swap (x y : Float) : order y x = (order x y).map Ordering.swap :=
  compare_swap _ _

/-! ## The relations of numbers -/

theorem beq_eq_order (x y : Float) : (x == y) = (order x y == some .eq) := rfl

theorem lt_eq_order (x y : Float) : decide (x < y) = (order x y == some .lt) := by
  show decide (decide ((order x y == some .lt) = true) = true) = _
  rw [Bool.decide_eq_true, Bool.decide_eq_true]

theorem le_eq_order (x y : Float) : decide (x ≤ y) = (order x y).any Ordering.isLE := by
  show decide (decide ((order x y).any Ordering.isLE = true) = true) = _
  rw [Bool.decide_eq_true, Bool.decide_eq_true]

end Questionnaire.Decimal

namespace Questionnaire.Condition

open Decimal

/-- Whether the relation holds between numbers that stand in this way to each other. -/
def Relation.admits (relation : Relation) (found : Option Ordering) : Bool :=
  match relation with
  | .equal => found == some .eq
  | .different => found != some .eq
  | .atLeast => found.any Ordering.isGE
  | .atMost => found.any Ordering.isLE
  | .above => found == some .gt
  | .below => found == some .lt

/-- **A relation looks at nothing but how the numbers stand to each other.** -/
theorem Relation.holds_eq (relation : Relation) (x y : Float) :
    relation.holds x y = relation.admits (order x y) := by
  have hswap : ∀ found : Option Ordering,
      (found.map Ordering.swap).any Ordering.isLE = found.any Ordering.isGE ∧
        (found.map Ordering.swap == some .lt) = (found == some .gt) := by
    intro found
    cases found with
    | none => exact ⟨rfl, rfl⟩
    | some o => cases o <;> exact ⟨rfl, rfl⟩
  cases relation with
  | equal => exact beq_eq_order x y
  | different => exact congrArg (!·) (beq_eq_order x y)
  | atLeast =>
      refine (le_eq_order y x).trans ?_
      rw [order_swap]
      exact (hswap _).1
  | atMost => exact le_eq_order x y
  | above =>
      refine (lt_eq_order y x).trans ?_
      rw [order_swap]
      exact (hswap _).2
  | below => exact lt_eq_order x y

end Questionnaire.Condition
