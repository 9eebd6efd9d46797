import Questionnaire.Text.Cut
/-!
Values of several lines. The lines between the quotes lose the indentation that all of them share,
and the line feeds at both ends; a condition written over several lines becomes one line.
-/
namespace Questionnaire.Source

open Text

/-- A space or a tab. -/
def isIndent (c : Char) : Bool := c = ' ' || c = '\t'

/-- What two texts begin with in common. -/
def commonStart : Text → Text → Text
  | a :: s, b :: t => if a = b then a :: commonStart s t else []
  | _, _ => []

/-- The indentation that all lines share, lines of spaces and tabs apart. -/
def sharedIndent (lines : List Text) : Text :=
  match (lines.filter fun line => !line.all isIndent).map (·.takeWhile isIndent) with
  | [] => []
  | first :: rest => rest.foldl commonStart first

/-- The lines without their shared indentation; a line of spaces and tabs becomes empty. -/
def dedent (lines : List Text) : List Text :=
  lines.map fun line =>
    if line.all isIndent then [] else (after? (sharedIndent lines) line).getD line

/-- The text without the line feeds at its two ends. -/
def trimLineFeeds (t : Text) : Text :=
  ((t.dropWhile (· = '\n')).reverse.dropWhile (· = '\n')).reverse

/-- The lines as one text. -/
def unfolded (lines : List Text) : Text :=
  trimRight (trimLineFeeds (join ['\n'] (dedent lines)))

/-- The lines as one line, with a space between them. -/
def folded (lines : List Text) : Text :=
  trimRight (join [' '] (((dedent lines).map trim).filter fun line => !line.isEmpty))

end Questionnaire.Source
