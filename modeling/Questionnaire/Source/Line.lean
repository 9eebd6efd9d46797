import Questionnaire.Source.Field
/-!
Lines of a source. What a line means depends on the place where it stands: a dash begins an
option inside a question and is plain text elsewhere, and a word such as `VARIABLE` modifies a row
only below one. `classify` tries the rules in a fixed order: page, block, section and question
markers, keywords, the words for kinds of input, dashes, and text for all the rest.
-/
namespace Questionnaire.Source

open Text

/-! ## Kinds of lines -/

/-- Where a line stands: outside a question, in one without a row yet, below an option, or below
a row of a matrix. -/
inductive Context where
  | content
  | question
  | option
  | row
deriving DecidableEq, Repr

/-- The words that fix the kind of a question. -/
inductive InputWord where
  | text
  | essay
  | number
  | checkbox
  | breakdown
deriving DecidableEq, Repr

/-- The spelling of an input word. -/
def InputWord.spelling : InputWord → Text
  | .text => "TEXT".toList
  | .essay => "ESSAY".toList
  | .number => "NUMBER".toList
  | .checkbox => "CHECKBOX".toList
  | .breakdown => "BREAKDOWN".toList

/-- The input word that a text is. -/
def InputWord.ofText? (t : Text) : Option InputWord :=
  [InputWord.text, .essay, .number, .checkbox, .breakdown].find? fun word => word.spelling = t

/-- What a line below a row changes of it. -/
inductive Modifier where
  | showIf
  | varName
  | subtract
  | value
  | column
  | exclude
  | unitBefore
  | unitAfter
  | custom
  | text
  | hint
  | tooltip
deriving DecidableEq, Repr

/-- The spelling of a modifier. -/
def Modifier.spelling : Modifier → Text
  | .showIf => "SHOW_IF".toList
  | .varName => "VARIABLE".toList
  | .subtract => "SUBTRACT".toList
  | .value => "VALUE".toList
  | .column => "COLUMN".toList
  | .exclude => "EXCLUDE".toList
  | .unitBefore => "PREFIX".toList
  | .unitAfter => "SUFFIX".toList
  | .custom => "CUSTOM".toList
  | .text => "TEXT".toList
  | .hint => "HINT".toList
  | .tooltip => "TOOLTIP".toList

/-- The modifier that a text is. -/
def Modifier.ofText? (t : Text) : Option Modifier :=
  [Modifier.showIf, .varName, .subtract, .value, .column, .exclude, .unitBefore, .unitAfter,
    .custom, .text, .hint, .tooltip].find? fun modifier => modifier.spelling = t

/-- Whether the modifier may stand without a value. -/
def Modifier.isFlag : Modifier → Bool
  | .subtract => true
  | .exclude => true
  | .text => true
  | _ => false

/-- What a line is, with what has been read from its value where that has a form of its own. -/
inductive LineKind where
  | blank
  | page
  | block
  | heading
  | question
  | navigation (keyword : Text) (level : Nat)
  | computation (computed : Text × Text)
  | showIf
  | tooltip
  | hint
  | varName
  | input (word : InputWord)
  | unitBefore
  | unitAfter
  | total
  | subtotal
  | range (first last : Int)
  | option
  | matrixRow
  | modifier (change : Modifier)
  | column (column : Nat)
  | rowHeader
  | rowSeparator
  | rowSubtotal
  | text
deriving DecidableEq, Repr

/-- The name of a kind of lines. -/
def LineKind.name : LineKind → Text
  | .blank => "blank".toList
  | .page => "page".toList
  | .block => "block".toList
  | .heading => "section".toList
  | .question => "question".toList
  | .navigation .. => "navigation".toList
  | .computation _ => "compute".toList
  | .showIf => "show_if".toList
  | .tooltip => "tooltip".toList
  | .hint => "hint".toList
  | .varName => "variable".toList
  | .input _ => "input_type".toList
  | .unitBefore => "prefix".toList
  | .unitAfter => "suffix".toList
  | .total => "total".toList
  | .subtotal => "subtotal".toList
  | .range .. => "range".toList
  | .option => "option".toList
  | .matrixRow => "matrix_row".toList
  | .modifier _ => "row_modifier".toList
  | .column _ => "row_modifier".toList
  | .rowHeader => "row_header".toList
  | .rowSeparator => "row_separator".toList
  | .rowSubtotal => "row_subtotal".toList
  | .text => "text".toList

/-- The keyword of a line whose kind has several. -/
def LineKind.keyword? : LineKind → Option Text
  | .navigation keyword _ => some keyword
  | .modifier change => some change.spelling
  | .column _ => some Modifier.column.spelling
  | _ => none

/-- A line with its meaning. -/
structure Line where
  /-- What the line is. -/
  kind : LineKind
  /-- Its value, label or text, without blanks around it. -/
  value : Text := []
deriving DecidableEq, Repr

/-! ## Markers and keywords -/

/-- The width of the blanks at the start of a line; a tab counts as two. -/
def indentation : Text → Nat
  | ' ' :: rest => indentation rest + 1
  | '\t' :: rest => indentation rest + 2
  | _ => 0

/-- Whether the text marks a page. -/
def isPageMarker (t : Text) : Bool := t = ['#'] || hasStart ['#', ' '] t

/-- Whether the text marks a section. -/
def isSectionMarker (t : Text) : Bool := t = ['#', '#'] || hasStart ['#', '#', ' '] t

/-- The rest of a line without blanks around it. Of line feeds it may hold one at its end. -/
def restOfLine? (t : Text) : Option Text :=
  let rest := trimLeft t
  let line := if rest.getLast? = some '\n' then rest.dropLast else rest
  if line.contains '\n' then none else some (trim line)

/-- The text of a question marker: a Q, a number that means nothing, and a colon. -/
def questionText? (t : Text) : Option Text :=
  match t with
  | 'Q' :: rest =>
    match rest.dropWhile isDecimal with
    | ':' :: rest => restOfLine? rest
    | _ => none
  | _ => none

/-- Whether the text marks a question. -/
def isQuestionMarker (t : Text) : Bool := (questionText? t).isSome

/-- A capital letter of ASCII or the low line. -/
def isKeywordChar (c : Char) : Bool := c.isUpper || c = '_'

/-- The keyword before a colon at the start of a text, and the value behind it. -/
def keyword? (t : Text) : Option (Text × Text) :=
  match t.dropWhile isKeywordChar with
  | ':' :: rest =>
    if (t.takeWhile isKeywordChar).isEmpty then none
    else (restOfLine? rest).map fun value => (t.takeWhile isKeywordChar, value)
  | _ => none

/-! ## The meaning of a line -/

/-- Whether a modifier has a row to modify in this place. -/
def Context.hasRow : Context → Bool
  | .option => true
  | .row => true
  | _ => false

/-- The modifier that a text behind a dash is, with its value. -/
def modifierLine? (t : Text) : Option (Modifier × Text) :=
  match (keyword? t).bind fun found => (Modifier.ofText? found.1).map (·, found.2) with
  | some found => some found
  | none => (Modifier.ofText? t).filter Modifier.isFlag |>.map (·, [])

/-- The meaning of the text behind a dash inside a question. -/
def classifyDash (context : Context) (t : Text) : Except Fault Line :=
  match questionText? t with
  | some text => .ok ⟨.matrixRow, text⟩
  | none =>
    if t = "SEPARATOR".toList then .ok ⟨.rowSeparator, []⟩
    else
      match (keyword? t).filter fun found => found.1 = "HEADER".toList with
      | some (_, value) => .ok ⟨.rowHeader, value⟩
      | none =>
        match (keyword? t).filter fun found => found.1 = "SUBTOTAL".toList with
        | some (_, value) => .ok ⟨.rowSubtotal, value⟩
        | none =>
          match if context.hasRow then modifierLine? t else none with
          | some (.column, value) => (columnOf value).map fun column => ⟨.column column, value⟩
          | some (modifier, value) => .ok ⟨.modifier modifier, value⟩
          | none => .ok ⟨.option, t⟩

/-- The kind of a keyword line that means something everywhere. -/
def classifyKeyword? (keyword value : Text) : Option (Except Fault Line) :=
  if keyword = "COMPUTE".toList then
    some ((computationOf value).map fun computed => ⟨.computation computed, value⟩)
  else if keyword = "NAVIGATION".toList || keyword = "LEVEL".toList then
    some ((levelOf keyword value).map fun level => ⟨.navigation keyword level, value⟩)
  else if keyword = "SHOW_IF".toList then some (.ok ⟨.showIf, value⟩)
  else if keyword = "TOOLTIP".toList then some (.ok ⟨.tooltip, value⟩)
  else none

/-- The kind of a keyword line that means something only inside a question. -/
def classifyQuestionKeyword? (keyword value : Text) : Option (Except Fault Line) :=
  if keyword = "VARIABLE".toList then some (.ok ⟨.varName, value⟩)
  else if keyword = "HINT".toList then some (.ok ⟨.hint, value⟩)
  else if keyword = "PREFIX".toList then some (.ok ⟨.unitBefore, value⟩)
  else if keyword = "SUFFIX".toList then some (.ok ⟨.unitAfter, value⟩)
  else if keyword = "TOTAL".toList then some (.ok ⟨.total, value⟩)
  else if keyword = "SUBTOTAL".toList then some (.ok ⟨.subtotal, value⟩)
  else if keyword = "RANGE".toList then
    some ((rangeOf value).map fun ends => ⟨.range ends.1 ends.2, value⟩)
  else none

/-- The meaning of a line that is no marker. -/
def classifyInside (context : Context) (t : Text) : Except Fault Line :=
  let isInside := context ≠ .content
  match (keyword? t).bind fun found =>
      (classifyKeyword? found.1 found.2).or
        (if isInside then classifyQuestionKeyword? found.1 found.2 else none) with
  | some line => line
  | none =>
    match if isInside then InputWord.ofText? t else none with
    | some word => .ok ⟨.input word, t⟩
    | none =>
      match if isInside then (after? ['-'] t).bind restOfLine? else none with
      | some content => classifyDash context content
      | none => .ok ⟨.text, t⟩

/-- The meaning of a line. -/
def classify (context : Context) (raw : Text) : Except Fault Line :=
  let t := trim raw
  if t.isEmpty then .ok ⟨.blank, []⟩
  else if isPageMarker t then .ok ⟨.page, trim (t.drop 1)⟩
  else
    match after? "BLOCK:".toList t with
    | some rest => .ok ⟨.block, trim rest⟩
    | none =>
      if isSectionMarker t then .ok ⟨.heading, trim (t.drop 2)⟩
      else
        match questionText? t with
        | some text => .ok ⟨.question, text⟩
        | none => classifyInside context t

end Questionnaire.Source
