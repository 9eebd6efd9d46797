import Questionnaire.Formula
/-!
What a text says about formulas without being read as one: the names in it, and whether it is a
computation rather than a name or a label.
-/
namespace Questionnaire.Formula

open Text

/-- The list without repeats; the first of equals stays. -/
def distinct (names : List Text) : List Text :=
  names.foldl (fun seen n => if seen.contains n then seen else seen ++ [n]) []

/-- The distinct names in a text: its words that do not start with a decimal digit and do not
follow a point. -/
def identifiers (t : Text) : List Text :=
  distinct ((words t).filterMap fun word =>
    if word.1 = some '.' || !(word.2.head?.map startsName).getD false then none
    else some word.2)

/-- What stands before the next character, blanks apart. -/
inductive Neighbour where
  | nothing
  | word
  | operation
deriving DecidableEq, Repr

/-- Whether the character writes one of the four operations. -/
def isOperationSign (c : Char) : Bool := c = '+' || c = '-' || c = '*' || c = '/'

/-- Whether an operation between two words follows. -/
def joinsWordsFrom : Neighbour → Text → Bool
  | _, [] => false
  | before, c :: rest =>
    if isWord c then before = .operation || joinsWordsFrom .word rest
    -- Blanks may stand around the operation and count nowhere.
    else if isBlank c then joinsWordsFrom before rest
    else if isOperationSign c && before = .word then joinsWordsFrom .operation rest
    else joinsWordsFrom .nothing rest

/-- Whether an operation stands between two words somewhere in the text. -/
def joinsWords (t : Text) : Bool := joinsWordsFrom .nothing t

/-- Whether the text is enclosed in parentheses, not necessarily a matching pair. -/
def isEnclosed (t : Text) : Bool := t.head? = some '(' && t.getLast? = some ')'

/-- Whether the text is a computation: it joins two words by an operation or is enclosed in
parentheses, and it can be read as a formula. -/
def isComputation (t : Text) : Bool :=
  !isBareWord (trim t) && (joinsWords (trim t) || isEnclosed (trim t)) &&
    (ofText (trim t)).toBool

end Questionnaire.Formula
