import Questionnaire.Text.Cut
/-!
Blocks in double braces. A block is closed by the first closing pair that matches its opening
pair; inside it, blocks and single braces are passed over. The inside of a block is a conditional
if it has the words IF and THEN, each standing alone and outside inner blocks, with a condition
between them; a word ELSE of the same kind begins the other branch.
-/
namespace Questionnaire.Template

open Text

/-- Whether the character is no brace. -/
def isInside (c : Char) : Bool := c ≠ '\x7b' && c ≠ '\x7d'

/-- The distance to the closing pair of the block that is open, from a place with `depth` open
pairs and `single` open single braces, `passed` characters on. -/
def closingFrom (depth : Int) (single passed : Nat) : Text → Option Nat
  | [] => none
  | c :: rest =>
    match c, rest with
    | '\x7b', '\x7b' :: more => closingFrom (depth + 1) single (passed + 2) more
    | '\x7b', more => closingFrom depth (single + 1) (passed + 1) more
    | '\x7d', '\x7d' :: more =>
      -- Two closing braces are a pair only where no single brace is open; otherwise the first of
      -- them closes the single one and the second is looked at again.
      if single = 0 then
        if depth = 1 then some passed else closingFrom (depth - 1) single (passed + 2) more
      else closingFrom depth (single - 1) (passed + 1) ('\x7d' :: more)
    | '\x7d', more => closingFrom depth (single - 1) (passed + 1) more
    | _, more => closingFrom depth single (passed + 1) more

/-- The place of the closing pair for the opening pair that begins at `start`. -/
def closing? (t : Text) (start : Nat) : Option Nat := closingFrom 0 0 start (t.drop start)

/-- The text cut at the first opening pair of braces; the accumulator holds what stands before
it, reversed. -/
def cutOpening? (before : Text) : Text → Option (Text × Text)
  | [] => none
  | c :: rest =>
    match c, rest with
    | '\x7b', '\x7b' :: more => some (before.reverse, more)
    | _, more => cutOpening? (c :: before) more

/-- What follows `word`, if the text begins with it and it stands alone: at an end of the text or
next to a blank on either side. The text before it is held in reverse. -/
def wordAlone? (word before t : Text) : Option Text :=
  if (before.head?.map isBlank).getD true then
    (after? word t).filter fun tail => (tail.head?.map isBlank).getD true
  else none

/-- The text cut at the first `word` that stands alone outside inner blocks; the accumulator
holds what stands before it, reversed. -/
def cutWordFrom (word : Text) (depth : Int) (before : Text) : Text → Option (Text × Text)
  | [] => none
  | c :: rest =>
    match c, rest with
    | '\x7b', '\x7b' :: more => cutWordFrom word (depth + 1) ('\x7b' :: '\x7b' :: before) more
    | '\x7d', '\x7d' :: more => cutWordFrom word (depth - 1) ('\x7d' :: '\x7d' :: before) more
    | c, more =>
      match if depth = 0 then wordAlone? word before (c :: more) else none with
      | some tail => some (before.reverse, tail)
      | none => cutWordFrom word depth (c :: before) more

/-- The text cut at the first `word` that stands alone outside inner blocks. -/
def cutWord? (word t : Text) : Option (Text × Text) := cutWordFrom word 0 [] t

/-- The parts of a conditional. -/
structure Branches where
  /-- What decides. -/
  condition : Text
  /-- The text if the condition holds. -/
  yes : Text
  /-- The text if it does not. -/
  no : Text
deriving DecidableEq, Repr

/-- The conditional that the inside of a block writes. -/
def Branches.ofText? (content : Text) : Option Branches :=
  (after? "IF".toList (trimLeft content)).bind fun rest =>
    if blanks rest = 0 then none
    else
      (cutWord? "THEN".toList (trimLeft rest)).bind fun found =>
        if isBlankText found.1 then none
        else
          match cutWord? "ELSE".toList found.2 with
          | none => some ⟨trim found.1, trim found.2, []⟩
          | some both => some ⟨trim found.1, trim both.1, trim both.2⟩

end Questionnaire.Template
