import Questionnaire.Text.Digit
import Questionnaire.Text.WordTable
/-!
Words. A word character is a letter or number of any script, or the low line. A word starts a
name unless its first character is a decimal digit; plain identifiers are the ASCII names.
-/
namespace Questionnaire.Text

/-- A letter or number of any script, or the low line. -/
def isWord (c : Char) : Bool :=
  if c.toNat < 128 then
    (48 ≤ c.toNat && c.toNat ≤ 57) || (65 ≤ c.toNat && c.toNat ≤ 90) || c.toNat == 95 ||
      (97 ≤ c.toNat && c.toNat ≤ 122)
  else inRanges wordRanges c.toNat

/-- A word character that may start a name. -/
def startsName (c : Char) : Bool := isWord c && !isDecimal c

/-- Whether the whole text is one word. -/
def isBareWord (t : Text) : Bool := !t.isEmpty && t.all isWord

/-- An ASCII letter or the low line. -/
def isIdentifierStart (c : Char) : Bool := c.isAlpha || c == '_'

/-- Whether the text is an ASCII identifier. -/
def isIdentifier : Text → Bool
  | [] => false
  | c :: rest => isIdentifierStart c && rest.all fun d => d.isAlphanum || d == '_'

/-- The longest words of the text in order, each with the character that stands before it.
The accumulators hold the word under way, reversed, and what stood before it. -/
def wordsFrom (before : Option Char) (word : Text) (last : Option Char) :
    Text → List (Option Char × Text)
  | [] => if word.isEmpty then [] else [(before, word.reverse)]
  | c :: rest =>
    if isWord c then
      if word.isEmpty then wordsFrom last [c] (some c) rest
      else wordsFrom before (c :: word) (some c) rest
    else if word.isEmpty then wordsFrom none [] (some c) rest
    else (before, word.reverse) :: wordsFrom none [] (some c) rest

/-- The longest words of the text in order, each with the character that stands before it. -/
def words (t : Text) : List (Option Char × Text) := wordsFrom none [] none t

end Questionnaire.Text
