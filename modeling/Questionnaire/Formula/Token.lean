import Questionnaire.Text.Word
/-!
Tokens of an arithmetic formula: numerals, names, and single characters. Blanks separate tokens
and are dropped; nothing else is lost. A numeral takes as many digits as it can with at most one
point among them, a name as many word characters as it can.
-/
namespace Questionnaire.Formula

open Text

/-- One token of a formula. -/
inductive Token where
  | number (numeral : Text)
  | name (n : Text)
  | symbol (c : Char)
deriving DecidableEq, Repr

/-- The characters of a token. -/
def Token.spelling : Token → Text
  | .number numeral => numeral
  | .name n => n
  | .symbol c => [c]

/-- What has been read of the token under way; characters are held in reverse. -/
inductive Pending where
  | nothing
  | name (reversed : Text)
  | whole (reversed : Text)
  | fraction (reversed : Text)
  | point
deriving DecidableEq, Repr

/-- The token that ends here. -/
def Pending.close : Pending → List Token
  | .nothing => []
  | .name reversed => [.name reversed.reverse]
  | .whole reversed => [.number reversed.reverse]
  | .fraction reversed => [.number reversed.reverse]
  | .point => [.symbol '.']

/-- A character that begins a token: the token if it is complete, and what is under way. -/
def Pending.start (c : Char) : List Token × Pending :=
  if isBlank c then ([], .nothing)
  else if isDecimal c then ([], .whole [c])
  else if isWord c then ([], .name [c])
  else if c = '.' then ([], .point)
  else ([.symbol c], .nothing)

/-- The token under way with one more character, if it goes on with it. -/
def Pending.extend? (c : Char) : Pending → Option Pending
  | .nothing => none
  | .name reversed => if isWord c then some (.name (c :: reversed)) else none
  | .whole reversed =>
    if isDecimal c then some (.whole (c :: reversed))
    else if c = '.' then some (.fraction (c :: reversed)) else none
  | .fraction reversed => if isDecimal c then some (.fraction (c :: reversed)) else none
  | .point => if isDecimal c then some (.fraction [c, '.']) else none

/-- The tokens of a text with a token under way before it. -/
def scan (pending : Pending) : Text → List Token
  | [] => pending.close
  | c :: rest =>
    match pending.extend? c with
    | some longer => scan longer rest
    | none => pending.close ++ (Pending.start c).1 ++ scan (Pending.start c).2 rest

/-- The tokens of a text. -/
def tokens (t : Text) : List Token := scan .nothing t

end Questionnaire.Formula
