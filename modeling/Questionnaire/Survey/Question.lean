import Questionnaire.Text.Blank
/-!
Questions. What a question asks for is its body: a choice among options, a text, a number, a
matrix of rows that share their options, or a breakdown of an amount into rows. Only the bodies
that can have options, rows or units carry them.
-/
namespace Questionnaire

/-- One option of a question. In a breakdown it is a row: an amount to be entered, or a heading, a
separator or a subtotal. Attributes that were not given are `none`. -/
structure Choice where
  /-- The stored answer. -/
  value : Text
  /-- The text that is shown. -/
  label : Text
  /-- The condition under which the option is shown. -/
  showIf : Option Text := none
  /-- Whether a text of one's own may be given instead. -/
  allowsOther : Option Bool := none
  /-- Whether the amount is subtracted from the total. -/
  subtract : Option Bool := none
  /-- Whether the amount is left out of the total. -/
  exclude : Option Bool := none
  /-- Whether the row is a heading. -/
  header : Option Bool := none
  /-- Whether the row is a separator. -/
  separator : Option Bool := none
  /-- The label of a subtotal row. -/
  subtotalLabel : Option Text := none
  /-- A formula in place of the sum of a subtotal row. -/
  custom : Option Text := none
  /-- The column of a row, from one on. -/
  column : Option Int := none
  /-- The unit before the amount. -/
  unitBefore : Option Text := none
  /-- The unit after the amount. -/
  unitAfter : Option Text := none
  /-- A formula for the amount that is filled in at first. -/
  prefill : Option Text := none
  /-- The variable that holds the amount. -/
  varName : Option Text := none
  /-- A hint. -/
  hint : Option Text := none
  /-- A tooltip. -/
  tooltip : Option Text := none
deriving DecidableEq, Repr, Inhabited

/-- A flag that was given and is set. -/
def isSet (flag : Option Bool) : Bool := flag = some true

/-- An attribute that was given and is not empty. -/
def given? (value : Option Text) : Option Text := value.filter fun t => !t.isEmpty

/-- Whether the row is a heading, a separator or a subtotal, and so never counted. -/
def Choice.isStructural (choice : Choice) : Bool :=
  isSet choice.header || isSet choice.separator || (given? choice.subtotalLabel).isSome

/-- One row of a matrix. -/
structure Row where
  /-- The identifier: that of the question, a low line, and the number of the row. -/
  id : Text
  /-- The text that is shown. -/
  text : Text
  /-- The variable that holds the answer. -/
  varName : Option Text := none
  /-- The condition under which the row is shown. -/
  showIf : Option Text := none
  /-- Whether the row counts with a minus. -/
  subtract : Option Bool := none
  /-- The value of the row. -/
  value : Option Text := none
  /-- The label of a subtotal after the row. -/
  subtotalLabel : Option Text := none
  /-- A hint. -/
  hint : Option Text := none
  /-- A tooltip. -/
  tooltip : Option Text := none
deriving DecidableEq, Repr, Inhabited

/-- The kinds of questions. -/
inductive QuestionKind where
  | multipleChoice
  | checkbox
  | text
  | essay
  | number
  | matrix
  | breakdown
deriving DecidableEq, Repr, Inhabited

/-- The name of a kind. -/
def QuestionKind.name : QuestionKind → Text
  | .multipleChoice => "multiple_choice".toList
  | .checkbox => "checkbox".toList
  | .text => "text".toList
  | .essay => "essay".toList
  | .number => "number".toList
  | .matrix => "matrix".toList
  | .breakdown => "breakdown".toList

/-- All kinds. -/
def QuestionKind.all : List QuestionKind :=
  [.multipleChoice, .checkbox, .text, .essay, .number, .matrix, .breakdown]

/-- The kind of a name. -/
def QuestionKind.ofName? (n : Text) : Option QuestionKind :=
  QuestionKind.all.find? fun kind => kind.name = n

/-- What a question asks for. -/
inductive Body where
  /-- One option, or any number of them. -/
  | choice (many : Bool) (options : List Choice)
  /-- A short text, or an essay. -/
  | text (long : Bool)
  /-- A number with optional units. -/
  | number (unitBefore unitAfter : Option Text)
  /-- A grid; the input is a choice of one option unless said otherwise. -/
  | matrix (rows : List Row) (options : List Choice) (input : Option Text)
  /-- Amounts with optional units that add up to a total. -/
  | breakdown (options : List Choice) (unitBefore unitAfter totalLabel : Option Text)
      (totalColumn : Option Int)
deriving DecidableEq, Repr, Inhabited

/-- The highest column of the options, if one has any. -/
def highestColumn (options : List Choice) : Option Int :=
  (options.filterMap fun choice => choice.column.filter (· ≠ 0)).max?

namespace Body

/-- A body of a kind with nothing in it. -/
def ofKind : QuestionKind → Body
  | .multipleChoice => .choice false []
  | .checkbox => .choice true []
  | .text => .text false
  | .essay => .text true
  | .number => .number none none
  | .matrix => .matrix [] [] none
  | .breakdown => .breakdown [] none none none none

/-- The kind of a body. -/
def kind : Body → QuestionKind
  | .choice many _ => if many then .checkbox else .multipleChoice
  | .text long => if long then .essay else .text
  | .number .. => .number
  | .matrix .. => .matrix
  | .breakdown .. => .breakdown

/-- The options, of which most bodies have none. -/
def options : Body → List Choice
  | .choice _ options => options
  | .matrix _ options _ => options
  | .breakdown options .. => options
  | _ => []

/-- The rows, which only a matrix has. -/
def rows : Body → List Row
  | .matrix rows .. => rows
  | _ => []

/-- Whether the body can have options. -/
def takesOptions : Body → Bool
  | .choice .. => true
  | .matrix .. => true
  | .breakdown .. => true
  | _ => false

/-- The body with its options changed. -/
def mapOptions (change : List Choice → List Choice) : Body → Body
  | .choice many options => .choice many (change options)
  | .matrix rows options input => .matrix rows (change options) input
  | .breakdown options before after label column =>
    .breakdown (change options) before after label column
  | other => other

/-- The body with its rows changed. -/
def mapRows (change : List Row → List Row) : Body → Body
  | .matrix rows options input => .matrix (change rows) options input
  | other => other

/-- The body as it is once nothing is added to it: a breakdown knows the highest column of its rows,
if one has any. -/
def settled : Body → Body
  | .breakdown options before after label _ =>
    .breakdown options before after label (highestColumn options)
  | other => other

end Body

/-- A question. -/
structure Question where
  /-- The identifier, a letter and the number of the question. -/
  id : Text
  /-- The text that is shown. -/
  text : Text
  /-- The variable that holds the answer. -/
  varName : Option Text := none
  /-- The condition under which the question is shown. -/
  showIf : Option Text := none
  /-- A hint. -/
  hint : Option Text := none
  /-- A tooltip. -/
  tooltip : Option Text := none
  /-- What is asked for. -/
  body : Body
deriving DecidableEq, Repr, Inhabited

namespace Question

/-- The kind of the question. -/
def kind (question : Question) : QuestionKind := question.body.kind

/-- The options of the question. -/
def options (question : Question) : List Choice := question.body.options

/-- The rows of the question. -/
def rows (question : Question) : List Row := question.body.rows

/-- Whether the question is a breakdown. -/
def isBreakdown (question : Question) : Bool := question.kind = .breakdown

end Question
end Questionnaire
