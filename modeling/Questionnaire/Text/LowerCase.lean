import Questionnaire.Text.Blank
import Questionnaire.Text.CaseTable
/-!
Lower case of a whole text. Two rules need more than a table from character to character: a
capital I with a dot above becomes two characters, and a capital sigma at the end of a word takes
its final form.
-/
namespace Questionnaire.Text

/-- The lower-case partner of a single character beyond ASCII. -/
def lowerRun (n : Nat) : List (Nat × Nat × Nat × Int) → Nat
  | [] => n
  | (low, high, apart, shift) :: rest =>
    if n < low then n
    else if n ≤ high then if (n - low) % apart = 0 then (n + shift).toNat else n
    else lowerRun n rest

/-- The lower case of one character away from its neighbours. -/
def lowerChar (c : Char) : Text :=
  if c.toNat < 128 then [c.toLower]
  else if c = 'İ' then ['i', '\u0307']
  else [Char.ofNat (lowerRun c.toNat lowerRuns)]

/-- Whether a character is passed over when the neighbours of a sigma are looked at. -/
def isCaseIgnorable (c : Char) : Bool := inRanges ignorableRanges c.toNat

/-- Whether the first character that is not passed over has a case. -/
def meetsCased : Text → Bool
  | [] => false
  | c :: rest => if isCaseIgnorable c then meetsCased rest else inRanges casedRanges c.toNat

/-- Lower case of what follows `before`, which is held in reverse. -/
def lowerFrom (before : Text) : Text → Text
  | [] => []
  | c :: rest =>
    (if c = 'Σ' then if meetsCased before && !meetsCased rest then ['ς'] else ['σ']
      else lowerChar c) ++ lowerFrom (c :: before) rest

/-- The text in lower case. -/
def lower (t : Text) : Text := lowerFrom [] t

end Questionnaire.Text
