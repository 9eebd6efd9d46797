import Questionnaire.Survey.Question
/-!
Surveys. A survey is made of blocks, a block of pages, a page of sections, a section of texts and
questions, all in the order of the source; conditions and formulas are kept as they were written.
Beside the tree stands the list of navigation entries, which refer to pages by their positions in
the whole survey.
-/
namespace Questionnaire

/-- A text or a question. -/
inductive Item where
  | text (value : Text)
  | question (question : Question)
deriving DecidableEq, Repr, Inhabited

/-- A group of items on a page. Items that stand before the first heading of a page form a
section without a title. -/
structure Section where
  /-- The title. -/
  title : Option Text := none
  /-- A tooltip. -/
  tooltip : Option Text := none
  /-- The condition under which the section is shown. -/
  showIf : Option Text := none
  /-- The items in order. -/
  items : List Item := []
deriving DecidableEq, Repr, Inhabited

/-- A value derived from other values by an expression. -/
structure Computation where
  /-- The name of the value. -/
  name : Text
  /-- The expression, a formula or a condition. -/
  expression : Text
deriving DecidableEq, Repr, Inhabited

/-- A page. -/
structure Page where
  /-- The title, which may be empty. -/
  title : Text := []
  /-- The condition under which the page is shown. -/
  showIf : Option Text := none
  /-- A tooltip. -/
  tooltip : Option Text := none
  /-- The values that the page computes. -/
  computations : List Computation := []
  /-- The sections in order. -/
  sections : List Section := []
deriving DecidableEq, Repr, Inhabited

/-- A group of pages. Pages that stand before the first block form a block without a name. -/
structure Block where
  /-- The name, which may be empty. -/
  name : Text := []
  /-- The condition under which the block is shown. -/
  showIf : Option Text := none
  /-- The values that the block computes. -/
  computations : List Computation := []
  /-- The pages in order. -/
  pages : List Page := []
deriving DecidableEq, Repr, Inhabited

/-- Whether a block has nothing in it, its name apart. -/
def Block.isVacant (block : Block) : Bool :=
  block.pages.isEmpty && block.computations.isEmpty && block.showIf.isNone

/-- A navigation entry. -/
structure Entry where
  /-- The name, the title of the page that began the entry. -/
  name : Text
  /-- The level, one or two. -/
  level : Int := 1
  /-- The positions of its pages in the survey, from zero on. -/
  pages : List Nat := []
deriving DecidableEq, Repr, Inhabited

/-- A survey. -/
structure Survey where
  /-- The name. -/
  name : Text
  /-- The blocks in order. -/
  blocks : List Block := []
  /-- The navigation entries in order. -/
  entries : List Entry := []
deriving DecidableEq, Repr, Inhabited

namespace Item

/-- The question that an item is. -/
def question? : Item → Option Question
  | .text _ => none
  | .question asked => some asked

end Item

/-- The questions of a section. -/
def Section.questions (part : Section) : List Question := part.items.filterMap Item.question?

/-- The questions of a page. -/
def Page.questions (page : Page) : List Question := page.sections.flatMap Section.questions

namespace Survey

/-- The pages of a survey, each with its block. -/
def pages (survey : Survey) : List (Block × Page) :=
  survey.blocks.flatMap fun block => block.pages.map fun page => (block, page)

/-- The questions of a survey. -/
def questions (survey : Survey) : List Question :=
  survey.pages.flatMap fun place => place.2.questions

/-- The question with an identifier. -/
def question? (survey : Survey) (id : Text) : Option Question :=
  survey.questions.find? fun question => question.id = id

/-- The first block with a name. -/
def block? (survey : Survey) (name : Text) : Option Block :=
  survey.blocks.find? fun block => block.name = name

/-- One more entry in the groups: an entry of level two goes below the last top entry if that is
of level one, every other entry becomes a top entry. -/
def group (groups : List (Entry × List Entry)) (entry : Entry) : List (Entry × List Entry) :=
  match groups.getLast? with
  | some (top, children) =>
    if entry.level = 2 && top.level = 1 then groups.dropLast ++ [(top, children ++ [entry])]
    else groups ++ [(entry, [])]
  | none => [(entry, [])]

/-- The navigation as a list of top entries with the entries below them. -/
def navigation (survey : Survey) : List (Entry × List Entry) := survey.entries.foldl group []

/-- The computations of a survey by scope, those of a block before those of its pages. -/
def scopes (survey : Survey) : List (List Computation) :=
  survey.blocks.flatMap fun block =>
    block.computations :: block.pages.map fun page => page.computations

/-- What a name stands for. -/
inductive Role where
  | question
  | row
  | option
  | computed
deriving DecidableEq, Repr

/-- The names that a question declares, in the order question, rows, options. -/
def declaredBy (question : Question) : List (Text × Role) :=
  ((given? question.varName).toList.map (·, .question)) ++
    (question.rows.filterMap fun row => (given? row.varName).map (·, .row)) ++
    question.options.filterMap fun choice => (given? choice.varName).map (·, .option)

/-- Every declaration of a name in the survey in order, repeats included. -/
def declarations (survey : Survey) : List (Text × Role) :=
  survey.blocks.flatMap fun block =>
    block.computations.map (fun c => (c.name, .computed)) ++
      block.pages.flatMap fun page =>
        page.computations.map (fun c => (c.name, .computed)) ++
          page.questions.flatMap declaredBy

/-- The declared names with what they stand for; of several declarations of a name the first
counts. -/
def declared (survey : Survey) : List (Text × Role) :=
  survey.declarations.foldl
    (fun seen entry => if seen.any (·.1 = entry.1) then seen else seen ++ [entry]) []

end Survey
end Questionnaire
