/-!
Membership in a table of closed ranges. Character classes beyond ASCII are given as ascending
ranges of code points, so that a look-up may stop at the first range that lies above the
character.
-/
namespace Questionnaire.Text

/-- Whether `n` lies in one of the closed ranges, which ascend. -/
def inRanges : List (Nat × Nat) → Nat → Bool
  | [], _ => false
  | (low, high) :: rest, n =>
    if n < low then false else if n ≤ high then true else inRanges rest n

end Questionnaire.Text
