import Questionnaire.Validation.Reference
import Questionnaire.Template.Block
/-!
The names that a text uses. The condition of every conditional block counts as a condition does,
and of every placeholder its name or the names in its formula. A placeholder with a second brace
next to one of its own counts for none.
-/
namespace Questionnaire.Report

open Text Formula Template

/-- The text cut behind the first THEN that has a blank on either side and something before it;
the accumulator holds what stands before it, reversed. -/
def cutThen? (before : Text) : Text → Option (Text × Text)
  | [] => none
  | c :: rest =>
    match if before.isEmpty then none else after? "THEN".toList ((c :: rest).drop (blanks (c :: rest))) with
    | some (d :: tail) =>
      if isBlank c && isBlank d then some (before.reverse, tail) else cutThen? (c :: before) rest
    | _ => cutThen? (c :: before) rest

/-- The condition of the conditional block that the text begins with, and the number of
characters up to its first branch. -/
def conditionAt? (t : Text) : Option (Text × Nat) :=
  (after? ['\x7b', '\x7b'] t).bind fun rest =>
    (after? "IF".toList (trimLeft rest)).bind fun rest =>
      if blanks rest = 0 then none
      else (cutThen? [] (trimLeft rest)).map fun cut => (cut.1, t.length - cut.2.length)

/-- The conditions of the conditional blocks of a text; `skip` characters belong to one that has
been read. -/
def conditionsFrom : Nat → Text → List Text
  | _, [] => []
  | skip + 1, _ :: rest => conditionsFrom skip rest
  | 0, c :: rest =>
    match conditionAt? (c :: rest) with
    | some (condition, width) => condition :: conditionsFrom (width - 1) rest
    | none => conditionsFrom 0 rest

/-- The inside of the placeholder whose opening brace has just been read. -/
def placeholderAt? (t : Text) : Option Text :=
  let content := t.takeWhile isInside
  match t.dropWhile isInside with
  | '\x7d' :: rest =>
    if content.isEmpty || rest.head? = some '\x7d' then none else some content
  | _ => none

/-- The insides of the placeholders of a text behind the character `previous`; `skip` characters
belong to one that has been read. -/
def placeholdersFrom (previous : Option Char) : Nat → Text → List Text
  | _, [] => []
  | skip + 1, c :: rest => placeholdersFrom (some c) skip rest
  | 0, c :: rest =>
    match if c = '\x7b' && previous ≠ some '\x7b' then placeholderAt? rest else none with
    | some content => content :: placeholdersFrom (some c) (content.length + 1) rest
    | none => placeholdersFrom (some c) 0 rest

/-- The text before blanks, the word AS, blanks and `word` at its end. -/
def beforeStyle? (word content : Text) : Option Text :=
  (after? word.reverse content.reverse).bind fun rest =>
    if blanks rest = 0 then none
    else
      (after? ['S', 'A'] (trimLeft rest)).bind fun rest =>
        if blanks rest = 0 then none else some (trimLeft rest).reverse

/-- A placeholder without the style of a list. -/
def withoutStyle (content : Text) : Text :=
  ((beforeStyle? "INLINE_LIST".toList content).or (beforeStyle? "LIST".toList content)).getD content

/-- Whether the text is a name that starts with an ASCII letter or the low line. -/
def isName : Text → Bool
  | [] => false
  | c :: rest => isIdentifierStart c && rest.all isWord

/-- The names in a placeholder. -/
def placeholderNames (inside : Text) : List Text :=
  let content := withoutStyle (trim inside)
  if hasStart "IF ".toList content then []
  else if isComputation content then identifiers content
  else if isName content then [content]
  else []

/-- The names that a text uses, repeats included. -/
def textReferences (t : Text) : List Text :=
  (conditionsFrom 0 t).flatMap Validation.references ++
    (placeholdersFrom none 0 t).flatMap placeholderNames

end Questionnaire.Report
