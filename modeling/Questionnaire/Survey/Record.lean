import Questionnaire.Survey
import Questionnaire.Value
/-!
A survey as a record: a value made of maps, lists, texts, numbers and truth values that can be
stored and read back. Every part of the survey is a map with a fixed order of keys, in which
attributes that were not given are left out. Navigation entries refer to pages by position.
-/
namespace Questionnaire

namespace Record

/-- A map without the entries that have no value. -/
def present (entries : List (String × Option Value)) : Value :=
  .map (entries.filterMap fun entry => entry.2.map (entry.1.toList, ·))

/-- An attribute that may be missing. -/
def written (t : Option Text) : Option Value := t.map .text

/-- A flag that may be missing. -/
def flag (b : Option Bool) : Option Value := b.map .bool

/-- A list of parts. -/
def parts {α : Type} (record : α → Value) (items : List α) : Option Value :=
  some (.list (items.map record))

end Record

open Record

/-- The record of an option. -/
def Choice.toRecord (choice : Choice) : Value :=
  present [
    ("value", some (.text choice.value)),
    ("label", some (.text choice.label)),
    ("show_if", written choice.showIf),
    ("allows_other_text", flag choice.allowsOther),
    ("subtract", flag choice.subtract),
    ("exclude", flag choice.exclude),
    ("header", flag choice.header),
    ("separator", flag choice.separator),
    ("subtotal_label", written choice.subtotalLabel),
    ("custom", written choice.custom),
    ("column", choice.column.map .int),
    ("prefix", written choice.unitBefore),
    ("suffix", written choice.unitAfter),
    ("prefill_value", written choice.prefill),
    ("variable", written choice.varName),
    ("hint", written choice.hint),
    ("tooltip", written choice.tooltip)]

/-- The record of a row. -/
def Row.toRecord (row : Row) : Value :=
  present [
    ("id", some (.text row.id)),
    ("text", some (.text row.text)),
    ("variable", written row.varName),
    ("show_if", written row.showIf),
    ("subtract", flag row.subtract),
    ("value", written row.value),
    ("subtotal_label", written row.subtotalLabel),
    ("hint", written row.hint),
    ("tooltip", written row.tooltip)]

/-- The entries of a body. -/
def Body.recordEntries : Body → List (String × Option Value)
  | .choice _ options => [("options", parts Choice.toRecord options)]
  | .text _ => []
  | .number before after => [("prefix", written before), ("suffix", written after)]
  | .matrix rows options input =>
    [("input_type", written input), ("options", parts Choice.toRecord options),
      ("subquestions", parts Row.toRecord rows)]
  | .breakdown options before after label column =>
    [("prefix", written before), ("suffix", written after), ("total_label", written label),
      ("total_column", column.map .int), ("options", parts Choice.toRecord options)]

/-- The record of a question. -/
def Question.toRecord (question : Question) : Value :=
  present ([
    ("kind", some (.text "question".toList)),
    ("id", some (.text question.id)),
    ("type", some (.text question.kind.name)),
    ("text", some (.text question.text)),
    ("variable", written question.varName),
    ("show_if", written question.showIf),
    ("hint", written question.hint),
    ("tooltip", written question.tooltip)] ++ question.body.recordEntries)

/-- The record of an item. -/
def Item.toRecord : Item → Value
  | .text value => present [("kind", some (.text "text".toList)), ("value", some (.text value))]
  | .question asked => asked.toRecord

/-- The record of a section. -/
def Section.toRecord (part : Section) : Value :=
  present [
    ("title", written part.title),
    ("tooltip", written part.tooltip),
    ("show_if", written part.showIf),
    ("items", parts Item.toRecord part.items)]

/-- The record of a computation. -/
def Computation.toRecord (computation : Computation) : Value :=
  present [
    ("name", some (.text computation.name)),
    ("expression", some (.text computation.expression))]

/-- The record of a page. -/
def Page.toRecord (page : Page) : Value :=
  present [
    ("title", some (.text page.title)),
    ("show_if", written page.showIf),
    ("tooltip", written page.tooltip),
    ("computed_variables", parts Computation.toRecord page.computations),
    ("sections", parts Section.toRecord page.sections)]

/-- The record of a block. -/
def Block.toRecord (block : Block) : Value :=
  present [
    ("name", some (.text block.name)),
    ("show_if", written block.showIf),
    ("computed_variables", parts Computation.toRecord block.computations),
    ("pages", parts Page.toRecord block.pages)]

/-- The record of a navigation entry. -/
def Entry.toRecord (entry : Entry) : Value :=
  present [
    ("name", some (.text entry.name)),
    ("level", some (.int entry.level)),
    ("pages", parts (fun position => .int (Int.ofNat position)) entry.pages)]

/-- The record of a survey. -/
def Survey.toRecord (survey : Survey) : Value :=
  present [
    ("name", some (.text survey.name)),
    ("blocks", parts Block.toRecord survey.blocks),
    ("navigation", parts Entry.toRecord survey.entries)]

end Questionnaire
