import Questionnaire.Text.Ranges
/-!
Text and its blanks. A text is a list of characters, so that every function on it is an ordinary
list recursion. A blank is a character of white space or one of the four information separators;
`trim` takes the blanks off both ends, and `isBlankText` says that nothing else is there.
-/
namespace Questionnaire

/-- Text as a list of characters. -/
abbrev Text := List Char

namespace Text

/-- Blanks beyond ASCII. -/
def blankRanges : List (Nat × Nat) :=
  [(0x85, 0x85), (0xA0, 0xA0), (0x1680, 0x1680), (0x2000, 0x200A), (0x2028, 0x2029),
   (0x202F, 0x202F), (0x205F, 0x205F), (0x3000, 0x3000)]

/-- White space, and the separators U+001C to U+001F. -/
def isBlank (c : Char) : Bool :=
  if c.toNat < 128 then
    (0x09 ≤ c.toNat && c.toNat ≤ 0x0D) || (0x1C ≤ c.toNat && c.toNat ≤ 0x20)
  else inRanges blankRanges c.toNat

/-- The text without its leading blanks. -/
def trimLeft (t : Text) : Text := t.dropWhile isBlank

/-- The text without its trailing blanks. -/
def trimRight (t : Text) : Text := (t.reverse.dropWhile isBlank).reverse

/-- The text without the blanks at its two ends. -/
def trim (t : Text) : Text := trimRight (trimLeft t)

/-- Whether the text holds nothing but blanks. -/
def isBlankText (t : Text) : Bool := t.all isBlank

theorem length_trimLeft_le (t : Text) : (trimLeft t).length ≤ t.length :=
  (List.dropWhile_sublist _).length_le

theorem length_trimRight_le (t : Text) : (trimRight t).length ≤ t.length := by
  simpa [trimRight] using (List.dropWhile_sublist (l := t.reverse) isBlank).length_le

theorem length_trim_le (t : Text) : (trim t).length ≤ t.length :=
  Nat.le_trans (length_trimRight_le _) (length_trimLeft_le _)

end Text
end Questionnaire
