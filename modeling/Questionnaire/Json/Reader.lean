import Questionnaire.Value
import Questionnaire.Text.Cut
/-!
Values from JSON text. The structure is read strictly: strings hold no control characters, and
nothing may stand behind the value. What a bare word means is left to the caller, so that the same
reader serves documents, where a word is a number or one of six constants, and files of answers,
where any other word is a text. Of several entries under one key the last counts.
-/
namespace Questionnaire.Json

open Text Decimal

/-- Blanks between tokens. -/
def isSpace (c : Char) : Bool := c = ' ' || c = '\t' || c = '\n' || c = '\r'

/-- A character of a bare word. -/
def isWordChar (c : Char) : Bool := c.isAlphanum || c = '+' || c = '-' || c = '.' || c = '_'

/-- The text without the spaces before it. -/
def skipSpace (t : Text) : Text := t.dropWhile isSpace

/-- The value of a hexadecimal digit. -/
def hexValue? (c : Char) : Option Nat :=
  if c.isDigit then some (c.toNat - 48)
  else if 'a' ≤ c && c ≤ 'f' then some (c.toNat - 87)
  else if 'A' ≤ c && c ≤ 'F' then some (c.toNat - 55)
  else none

/-- The value of four hexadecimal digits. -/
def unit? (a b c d : Char) : Option Nat := do
  let a ← hexValue? a
  let b ← hexValue? b
  let c ← hexValue? c
  let d ← hexValue? d
  pure (((a * 16 + b) * 16 + c) * 16 + d)

/-- The character that a letter behind a backslash stands for. -/
def unescape? : Char → Option Char
  | '"' => some '"'
  | '\\' => some '\\'
  | '/' => some '/'
  | 'b' => some '\u0008'
  | 'f' => some '\u000c'
  | 'n' => some '\n'
  | 'r' => some '\r'
  | 't' => some '\t'
  | _ => none

/-- Whether the unit is the first half of a pair. -/
def isHighUnit (n : Nat) : Bool := 0xD800 ≤ n && n < 0xDC00

/-- Whether the unit is the second half of a pair. -/
def isLowUnit (n : Nat) : Bool := 0xDC00 ≤ n && n < 0xE000

/-- The character of a single unit; half of a pair has none of its own. -/
def unitChar (n : Nat) : Char := if isHighUnit n || isLowUnit n then '\ufffd' else Char.ofNat n

/-- The rest of a string whose quotation mark has been read, and what follows it. -/
def readString (read : Text) : Text → Option (Text × Text)
  | [] => none
  | '"' :: rest => some (read.reverse, rest)
  | '\\' :: 'u' :: a :: b :: c :: d :: '\\' :: 'u' :: e :: f :: g :: h :: rest =>
    match unit? a b c d, unit? e f g h with
    | some high, some low =>
      -- Two halves of a pair are one character; anything else stands for itself.
      if isHighUnit high && isLowUnit low then
        readString
          (Char.ofNat (0x10000 + (high - 0xD800) * 0x400 + (low - 0xDC00)) :: read) rest
      else
        readString (unitChar high :: read) ('\\' :: 'u' :: e :: f :: g :: h :: rest)
    | _, _ => none
  | '\\' :: 'u' :: a :: b :: c :: d :: rest =>
    (unit? a b c d).bind fun n => readString (unitChar n :: read) rest
  | '\\' :: c :: rest => (unescape? c).bind fun c => readString (c :: read) rest
  | c :: rest => if c.toNat < 32 || c = '\\' then none else readString (c :: read) rest

mutual
/-- A value at the start of a text, and what follows it. -/
def readValue (word : Text → Option Value) : Nat → Text → Option (Value × Text)
  | 0, _ => none
  | fuel + 1, t =>
    match skipSpace t with
    | '"' :: rest => (readString [] rest).map fun found => (.text found.1, found.2)
    | '[' :: rest =>
      match skipSpace rest with
      | ']' :: rest => some (.list [], rest)
      | _ => readItems word fuel [] rest
    | '\x7b' :: rest =>
      match skipSpace rest with
      | '\x7d' :: rest => some (.map [], rest)
      | _ => readEntries word fuel [] rest
    | rest => (word (rest.takeWhile isWordChar)).map (·, rest.dropWhile isWordChar)
/-- The rest of a list whose items so far are given in reverse. -/
def readItems (word : Text → Option Value) :
    Nat → List Value → Text → Option (Value × Text)
  | 0, _, _ => none
  | fuel + 1, items, t =>
    match readValue word fuel t with
    | none => none
    | some (item, rest) =>
      match skipSpace rest with
      | ',' :: rest => readItems word fuel (item :: items) rest
      | ']' :: rest => some (.list (item :: items).reverse, rest)
      | _ => none
/-- The rest of a map whose entries so far are given. -/
def readEntries (word : Text → Option Value) : Nat → Scope → Text → Option (Value × Text)
  | 0, _, _ => none
  | fuel + 1, entries, t =>
    match skipSpace t with
    | '"' :: rest =>
      match readString [] rest with
      | none => none
      | some (key, rest) =>
        match skipSpace rest with
        | ':' :: rest =>
          match readValue word fuel rest with
          | none => none
          | some (item, rest) =>
            match skipSpace rest with
            | ',' :: rest => readEntries word fuel (entries.set key item) rest
            | '\x7d' :: rest => some (.map (entries.set key item), rest)
            | _ => none
        | _ => none
    | _ => none
end

/-- The value that a text writes. -/
def readWith? (word : Text → Option Value) (t : Text) : Option Value :=
  match readValue word (t.length + 1) t with
  | some (value, rest) => if (skipSpace rest).isEmpty then some value else none
  | none => none

/-- Digits of a whole part: a single zero, or no zero at the front. -/
def isWholePart (t : Text) : Bool :=
  t = ['0'] || (!t.isEmpty && t.head? ≠ some '0' && t.all Char.isDigit)

/-- The number that a word without a sign writes, and whether it is a whole one. -/
def magnitude? (t : Text) : Option (Sum Nat Float) :=
  let whole := t.takeWhile Char.isDigit
  let rest := t.dropWhile Char.isDigit
  let fraction :=
    match rest with
    | '.' :: digits => digits.takeWhile Char.isDigit
    | _ => []
  let exponent := if fraction.isEmpty then rest else rest.drop (fraction.length + 1)
  if !isWholePart whole then none
  else if rest.isEmpty then some (.inl (digitsValue whole))
  else if exponent.head? = some '.' then none
  else (readExponent? exponent).map fun e => .inr (numeral whole fraction e).toFloat

/-- The number that a word writes. -/
def number? (t : Text) : Option Value :=
  match t with
  | '-' :: rest =>
    (magnitude? rest).map fun
      | .inl n => .int (-(n : Int))
      | .inr x => .float (-x)
  | rest =>
    (magnitude? rest).map fun
      | .inl n => .int n
      | .inr x => .float x

/-- The three constants of both kinds of texts. -/
def constant? (t : Text) : Option Value :=
  if t = "null".toList then some .null
  else if t = "true".toList then some (.bool true)
  else if t = "false".toList then some (.bool false)
  else none

/-- The value of a bare word of a document. -/
def documentWord? (t : Text) : Option Value :=
  if t = "NaN".toList then some (.float notANumber)
  else if t = "Infinity".toList then some (.float infinity)
  else if t = "-Infinity".toList then some (.float (-infinity))
  else (constant? t).or (number? t)

/-- The value that a document writes. -/
def read? (t : Text) : Option Value := readWith? documentWord? t

/-- The value of a bare word in a file of answers: a number with an exponent needs a point too, and
what is no number is a text. -/
def answerWord? (t : Text) : Option Value :=
  if t.isEmpty then none
  else
    some <| (constant? t).getD <|
      match number? t with
      | some (.int n) => .int n
      | some (.float x) => if t.contains '.' then .float x else .text t
      | _ => .text t

/-- The value that a file of answers writes. -/
def readAnswers? (t : Text) : Option Value := readWith? answerWord? t

end Questionnaire.Json
