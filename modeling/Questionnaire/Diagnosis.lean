import Questionnaire.Rendering
/-!
What goes wrong quietly. Evaluation never stops: a formula without a value counts as zero, a test
that fails holds, and a placeholder without a meaning stays in its text. A note records each of
these. The notes of a rendering stand in the order in which its parts are looked at, and what is
not looked at, such as the rest of an OR behind a part that holds, gives none.
-/
namespace Questionnaire.Diagnosis

open Text

/-- Something that went wrong and was passed over. -/
inductive Note where
  /-- A formula has no value. -/
  | formula (text : Text) (fault : Formula.Fault)
  /-- A condition has no answer. -/
  | condition (source : Text) (fault : Condition.Fault)
  /-- A placeholder has no meaning. -/
  | placeholder (content : Text)
deriving DecidableEq, Repr

/-- The wording of a note. -/
def Note.message : Note → Text
  | .formula text fault =>
    "DEBUG surveytext.expressions: Expression '".toList ++ text ++ "' evaluated to 0: ".toList ++
      fault.message
  | .condition source fault =>
    "DEBUG surveytext.conditions: Condition '".toList ++ source ++ "' failed open: ".toList ++
      fault.message
  | .placeholder content =>
    "DEBUG surveytext.placeholders: Unresolved placeholder: \x7b".toList ++ content ++ ['\x7d']

/-! ## Formulas and conditions -/

/-- The notes of a formula. -/
def ofFormula (scope : Scope) (t : Text) : List Note :=
  match Formula.evaluate? t scope with
  | .ok _ => []
  | .error fault => [.formula t fault]

/-- The notes of a comparison; only computations give any. -/
def ofComparison (scope : Scope) (comparison : Condition.Comparison) : List Note :=
  if Formula.isComputation comparison.left || Formula.isComputation comparison.right then
    ofFormula scope comparison.left ++ ofFormula scope comparison.right
  else []

/-- The notes of one comparison for several names, up to the first that is not denied. -/
def ofNames (scope : Scope) (relation : Condition.Relation) (right : Text) :
    List Text → List Note
  | [] => []
  | n :: rest =>
    ofComparison scope ⟨n, relation, right⟩ ++
      match Condition.Comparison.answer? ⟨n, relation, right⟩ scope with
      | .ok false => ofNames scope relation right rest
      | _ => []

/-- The notes of a test, its own failure apart. -/
def ofTest (scope : Scope) : Condition.Test → List Note
  | .anyStarting start relation right =>
    ofNames scope relation right (Condition.namesStarting start scope)
  | .compare comparison => ofComparison scope comparison
  | _ => []

/-- The failure of a test. -/
def failure (scope : Scope) (source : Text) (test : Condition.Test) : List Note :=
  match test.answer? scope with
  | .ok _ => []
  | .error fault => [.condition source fault]

/-- The notes of a condition. -/
def ofTree (scope : Scope) : Condition → List Note
  | .always => []
  | .test source single => ofTest scope single ++ failure scope source single
  | .denial operand => ofTree scope operand
  | .either first rest =>
    ofTree scope first ++ if first.holds scope then [] else ofTree scope rest
  | .both first rest =>
    ofTree scope first ++ if first.holds scope then ofTree scope rest else []

/-- The notes of the condition that a text writes. -/
def ofCondition (scope : Scope) (t : Text) : List Note := ofTree scope (Condition.ofText t)

/-- The notes of the conditions of several parts. -/
def ofConditions (scope : Scope) (conditions : List (Option Text)) : List Note :=
  (conditions.filterMap id).flatMap (ofCondition scope)

/-! ## Templates -/

/-- The condition of the first block of a text, if the block is a conditional. -/
def firstCondition? (t : Text) : Option Text :=
  (Template.cutOpening? [] t).bind fun cut =>
    (Template.closingFrom 1 0 0 cut.2).bind fun size =>
      (Template.Branches.ofText? (cut.2.take size)).map Template.Branches.condition

/-- The notes of the blocks of a text. -/
def ofBlocks (scope : Scope) (t : Text) : List Note :=
  match h : Template.settleOne? (Condition.evaluate · scope) t with
  | none => []
  | some settled =>
    have := Template.length_settleOne? h
    ofConditions scope [firstCondition? t] ++ ofBlocks scope settled.2
termination_by t.length

/-- The notes of a piece of a text. -/
def ofPiece (scope : Scope) : Template.Piece → List Note
  | .plain _ => []
  | .hole content =>
    match Template.meaning scope content with
    | .value .. => []
    | .formula text => ofFormula scope text
    | .nothing => [.placeholder content]

/-- The notes of filling a text. -/
def ofText (scope : Scope) (t : Text) : List Note :=
  ofBlocks scope t ++
    (Template.pieces (Template.settle (Condition.evaluate · scope) t)).flatMap (ofPiece scope)

/-! ## Surveys -/

/-- The notes of a computation. -/
def ofComputation (scope : Scope) (computation : Computation) : List Note :=
  if Computation.isFormula computation.expression then ofFormula scope computation.expression
  else ofCondition scope computation.expression

/-- The notes of computations in the order in which they are carried out, over the values
computed so far. -/
def ofComputations (known values : Scope) : List Computation → List Note
  | [] => []
  | computation :: rest =>
    ofComputation (values.onto known) computation ++
      ofComputations known (Computation.carry known values computation) rest

/-- The notes of an option that is seen. -/
def ofOption (scope : Scope) (choice : Choice) : List Note :=
  if isSet choice.separator then [] else ofText scope choice.label

/-- The notes of a question that is seen. -/
def ofQuestion (scope : Scope) (question : Question) : List Note :=
  ofText scope question.text ++ (given? question.hint).toList.flatMap (ofText scope) ++
    ofConditions scope (question.rows.map Row.showIf) ++
    (View.rows question scope).flatMap (fun row => ofText scope row.text) ++
    ofConditions scope (question.options.map Choice.showIf) ++
    (View.options question scope).flatMap (ofOption scope)

/-- The notes of an item that is seen. -/
def ofItem (scope : Scope) : Item → List Note
  | .text value => ofText scope value
  | .question asked => ofQuestion scope asked

/-- The notes of a section that is seen. -/
def ofSection (scope : Scope) (part : Section) : List Note :=
  (given? part.title).toList.flatMap (ofText scope) ++
    ofConditions scope (part.questions.map Question.showIf) ++
    (View.items part scope).flatMap (ofItem scope)

/-- The notes of a page that is seen. -/
def ofPage (scope : Scope) (page : Page) : List Note :=
  ofText scope page.title ++ ofConditions scope (page.sections.map Section.showIf) ++
    (View.sections page scope).flatMap (ofSection scope)

/-- The notes of the view of a survey. -/
def ofView (scope : Scope) (survey : Survey) : List Note :=
  ofConditions scope (survey.blocks.map Block.showIf) ++
    (View.blocks survey scope).flatMap (fun block =>
      ofConditions scope (block.pages.map Page.showIf)) ++
    (View.pages survey scope).flatMap fun place => ofPage scope place.2

/-- The notes of rendering a survey for given answers. -/
def ofRendering (survey : Survey) (answers : Scope) : List Note :=
  let known := Answers.scope survey answers
  ofComputations known [] (survey.scopes.flatMap Computation.ordered) ++
    ofView (Rendering.valuesFor survey answers) survey

end Questionnaire.Diagnosis
