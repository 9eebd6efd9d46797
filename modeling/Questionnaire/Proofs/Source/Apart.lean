import Questionnaire.Proofs.Source.Last
import Questionnaire.Proofs.Source.Questions

/-!
# Surveys and states that are one attribute apart

An `Edit` is an attribute with two values for it. Two surveys are apart by an
edit if one value is written in the one survey and the other in the other, in
one place (`Survey.Apart`): everything else, from the blocks down to the rows, is
the same. What does not look at the attribute is the same for both.
-/

namespace Questionnaire

open Source

/-! ## One element of a list -/

/-- Two lists that differ in one element at most. -/
inductive OneApart {α : Type} (R : α → α → Prop) : List α → List α → Prop where
  /-- The lists are the same. -/
  | same (items : List α) : OneApart R items items
  /-- The first elements may differ. -/
  | here {x y : α} (rest : List α) (h : R x y) : OneApart R (x :: rest) (y :: rest)
  /-- An element further back may. -/
  | there (x : α) {items items' : List α} (h : OneApart R items items') :
      OneApart R (x :: items) (x :: items')

namespace OneApart

variable {α β : Type} {R : α → α → Prop} {items items' : List α}

theorem append_left (before : List α) (h : OneApart R items items') :
    OneApart R (before ++ items) (before ++ items') := by
  induction before with
  | nil => exact h
  | cons x before ih => exact .there x ih

theorem append_right (h : OneApart R items items') (after : List α) :
    OneApart R (items ++ after) (items' ++ after) := by
  induction h with
  | same items => exact .same _
  | here rest h => exact .here (rest ++ after) h
  | there x _ ih => exact .there x ih

theorem concat (before : List α) {x y : α} (h : R x y) :
    OneApart R (before ++ [x]) (before ++ [y]) :=
  append_left before (.here [] h)

/-- What does not look at the difference is the same for both lists. -/
theorem map_eq {f : α → β} (hf : ∀ x y, R x y → f x = f y) (h : OneApart R items items') :
    items.map f = items'.map f := by
  induction h with
  | same items => rfl
  | here rest h => simp [hf _ _ h]
  | there x _ ih => simp [ih]

theorem flatMap_eq {f : α → List β} (hf : ∀ x y, R x y → f x = f y)
    (h : OneApart R items items') : items.flatMap f = items'.flatMap f := by
  rw [List.flatMap_def, List.flatMap_def, h.map_eq hf]

theorem length_eq (h : OneApart R items items') : items.length = items'.length := by
  induction h with
  | same items => rfl
  | here rest h => rfl
  | there x _ ih => simp [ih]

theorem changeLast {f : α → α} (hf : ∀ x y, R x y → R (f x) (f y))
    (h : OneApart R items items') :
    OneApart R (Source.changeLast f items) (Source.changeLast f items') := by
  induction h with
  | same items => exact .same _
  | @here x y rest h =>
      -- The element that is apart is changed only if it is the last one.
      cases rest with
      | nil => exact .here [] (hf _ _ h)
      | cons z rest =>
          rw [changeLast_cons_cons f x, changeLast_cons_cons f y]
          exact .here _ h
  | @there x items items' h ih =>
      cases h with
      | same items => exact .same _
      | here rest h =>
          rw [changeLast_cons_cons f x, changeLast_cons_cons f x]
          exact .there x ih
      | there y h =>
          rw [changeLast_cons_cons f x, changeLast_cons_cons f x]
          exact .there x ih

end OneApart

/-! ## Writing an attribute -/

/-- The option with an attribute written. -/
def Choice.put (aspect : Aspect) (value : Text) (choice : Choice) : Choice :=
  match aspect with
  | .showIf => { choice with showIf := some value }
  | .hint => { choice with hint := some value }
  | .tooltip => { choice with tooltip := some value }

/-- The row with an attribute written. -/
def Row.put (aspect : Aspect) (value : Text) (row : Row) : Row :=
  match aspect with
  | .showIf => { row with showIf := some value }
  | .hint => { row with hint := some value }
  | .tooltip => { row with tooltip := some value }

/-- The question with an attribute written. -/
def Question.put (aspect : Aspect) (value : Text) (question : Question) : Question :=
  match aspect with
  | .showIf => { question with showIf := some value }
  | .hint => { question with hint := some value }
  | .tooltip => { question with tooltip := some value }

/-- The section with an attribute written; it has no hint. -/
def Section.put (aspect : Aspect) (value : Text) (part : Section) : Section :=
  match aspect with
  | .showIf => { part with showIf := some value }
  | .hint => part
  | .tooltip => { part with tooltip := some value }

/-- The page with an attribute written; it has no hint. -/
def Page.put (aspect : Aspect) (value : Text) (page : Page) : Page :=
  match aspect with
  | .showIf => { page with showIf := some value }
  | .hint => page
  | .tooltip => { page with tooltip := some value }

/-- The block with an attribute written; it has a condition only. -/
def Block.put (aspect : Aspect) (value : Text) (block : Block) : Block :=
  match aspect with
  | .showIf => { block with showIf := some value }
  | _ => block

/-- Writing an attribute: the last value counts, and different attributes are
written in any order. -/
structure Writes {α : Type} (put : Aspect → Text → α → α) : Prop where
  /-- The last value counts. -/
  last : ∀ aspect value text x, put aspect text (put aspect value x) = put aspect text x
  /-- Different attributes are written in any order. -/
  comm : ∀ aspect other value text x, other ≠ aspect →
    put other text (put aspect value x) = put aspect value (put other text x)

private theorem writes_of_cases {α : Type} {put : Aspect → Text → α → α}
    (hlast : ∀ aspect value text x, put aspect text (put aspect value x) = put aspect text x)
    (hshow : ∀ value text x, put .hint text (put .showIf value x)
      = put .showIf value (put .hint text x))
    (hhint : ∀ value text x, put .tooltip text (put .hint value x)
      = put .hint value (put .tooltip text x))
    (htip : ∀ value text x, put .showIf text (put .tooltip value x)
      = put .tooltip value (put .showIf text x)) : Writes put where
  last := hlast
  comm := by
    intro aspect other value text x hne
    cases aspect <;> cases other <;> first
      | exact absurd rfl hne
      | exact hshow value text x
      | exact (hshow text value x).symm
      | exact hhint value text x
      | exact (hhint text value x).symm
      | exact htip value text x
      | exact (htip text value x).symm

theorem Choice.writes_put : Writes Choice.put :=
  writes_of_cases (fun aspect _ _ _ => by cases aspect <;> rfl) (fun _ _ _ => rfl)
    (fun _ _ _ => rfl) (fun _ _ _ => rfl)

theorem Row.writes_put : Writes Row.put :=
  writes_of_cases (fun aspect _ _ _ => by cases aspect <;> rfl) (fun _ _ _ => rfl)
    (fun _ _ _ => rfl) (fun _ _ _ => rfl)

theorem Question.writes_put : Writes Question.put :=
  writes_of_cases (fun aspect _ _ _ => by cases aspect <;> rfl) (fun _ _ _ => rfl)
    (fun _ _ _ => rfl) (fun _ _ _ => rfl)

theorem Section.writes_put : Writes Section.put :=
  writes_of_cases (fun aspect _ _ _ => by cases aspect <;> rfl) (fun _ _ _ => rfl)
    (fun _ _ _ => rfl) (fun _ _ _ => rfl)

theorem Page.writes_put : Writes Page.put :=
  writes_of_cases (fun aspect _ _ _ => by cases aspect <;> rfl) (fun _ _ _ => rfl)
    (fun _ _ _ => rfl) (fun _ _ _ => rfl)

theorem Block.writes_put : Writes Block.put :=
  writes_of_cases (fun aspect _ _ _ => by cases aspect <;> rfl) (fun _ _ _ => rfl)
    (fun _ _ _ => rfl) (fun _ _ _ => rfl)

/-- An attribute and two values for it. -/
structure Edit where
  /-- The attribute. -/
  aspect : Aspect
  /-- The one value. -/
  old : Text
  /-- The other value. -/
  new : Text

/-- The same thing with the two values written into it, or not. -/
inductive WrittenApart {α : Type} (put : Aspect → Text → α → α) (edit : Edit) : α → α → Prop where
  /-- Nothing is written. -/
  | same (x : α) : WrittenApart put edit x x
  /-- The two values are written. -/
  | written (x : α) :
      WrittenApart put edit (put edit.aspect edit.old x) (put edit.aspect edit.new x)

namespace WrittenApart

variable {α : Type} {put : Aspect → Text → α → α} {edit : Edit} {x y : α}

/-- What commutes with the writing keeps the things apart in the same place. -/
theorem map {f : α → α} (hf : ∀ aspect value x, f (put aspect value x) = put aspect value (f x))
    (h : WrittenApart put edit x y) : WrittenApart put edit (f x) (f y) := by
  cases h with
  | same x => exact .same (f x)
  | written x =>
      rw [hf, hf]
      exact .written (f x)

/-- What does not look at the attribute is the same for both. -/
theorem eq {β : Type} {f : α → β} (hf : ∀ value x, f (put edit.aspect value x) = f x)
    (h : WrittenApart put edit x y) : f x = f y := by
  cases h with
  | same x => rfl
  | written x => rw [hf, hf]

/-- Writing over the attribute removes the difference, writing another one keeps
it. -/
theorem write (hput : Writes put) (h : WrittenApart put edit x y) (other : Aspect)
    (text : Text) : WrittenApart put edit (put other text x) (put other text y) := by
  cases h with
  | same x => exact .same (put other text x)
  | written x =>
      by_cases hsame : other = edit.aspect
      · rw [hsame, hput.last, hput.last]
        exact .same (put edit.aspect text x)
      · rw [hput.comm _ _ _ _ _ hsame, hput.comm _ _ _ _ _ hsame]
        exact .written (put other text x)

end WrittenApart

/-! ## One attribute apart -/

/-- Two bodies that differ in one attribute of one option or row. -/
inductive Body.Apart (edit : Edit) : Holder → Body → Body → Prop where
  | choice (many : Bool) {options options' : List Choice}
      (h : OneApart (WrittenApart Choice.put edit) options options') :
      Body.Apart edit .option (.choice many options) (.choice many options')
  | matrix (rows : List Row) {options options' : List Choice}
      (h : OneApart (WrittenApart Choice.put edit) options options') (input : Option Text) :
      Body.Apart edit .option (.matrix rows options input) (.matrix rows options' input)
  | breakdown {options options' : List Choice}
      (h : OneApart (WrittenApart Choice.put edit) options options')
      (before after label : Option Text) (column : Option Int) :
      Body.Apart edit .option (.breakdown options before after label column)
        (.breakdown options' before after label column)
  | rows {rows rows' : List Row} (h : OneApart (WrittenApart Row.put edit) rows rows')
      (options : List Choice) (input : Option Text) :
      Body.Apart edit .row (.matrix rows options input) (.matrix rows' options input)

/-- Two questions that differ in one attribute of their own, or of one option or
row. -/
inductive Question.Apart (edit : Edit) : Holder → Question → Question → Prop where
  | own {question question' : Question} (h : WrittenApart Question.put edit question question') :
      Question.Apart edit .question question question'
  | body (question : Question) {holder : Holder} {body body' : Body}
      (h : Body.Apart edit holder body body') :
      Question.Apart edit holder { question with body := body } { question with body := body' }

/-- Two items that are questions one attribute apart. -/
inductive Item.Apart (edit : Edit) (holder : Holder) : Item → Item → Prop where
  | question {question question' : Question} (h : Question.Apart edit holder question question') :
      Item.Apart edit holder (.question question) (.question question')

/-- Two sections that differ in one attribute of their own or of one item. -/
inductive Section.Apart (edit : Edit) : Holder → Section → Section → Prop where
  | own {part part' : Section} (h : WrittenApart Section.put edit part part') :
      Section.Apart edit .heading part part'
  | items (part : Section) {holder : Holder} {items items' : List Item}
      (h : OneApart (Item.Apart edit holder) items items') :
      Section.Apart edit holder { part with items := items } { part with items := items' }

/-- Two pages that differ in one attribute of their own or of one section. -/
inductive Page.Apart (edit : Edit) : Holder → Page → Page → Prop where
  | own {page page' : Page} (h : WrittenApart Page.put edit page page') :
      Page.Apart edit .page page page'
  | sections (page : Page) {holder : Holder} {sections sections' : List Section}
      (h : OneApart (Section.Apart edit holder) sections sections') :
      Page.Apart edit holder { page with sections := sections }
        { page with sections := sections' }

/-- Two blocks that differ in one attribute of their own or of one page. -/
inductive Block.Apart (edit : Edit) : Holder → Block → Block → Prop where
  | own {block block' : Block} (h : WrittenApart Block.put edit block block') :
      Block.Apart edit .block block block'
  | pages (block : Block) {holder : Holder} {pages pages' : List Page}
      (h : OneApart (Page.Apart edit holder) pages pages') :
      Block.Apart edit holder { block with pages := pages } { block with pages := pages' }

/-! ## What the difference does not touch -/

/-- What two questions that are one attribute apart have in common: a reader looks
at nothing else of the open question. -/
structure Question.SameOutline (question question' : Question) : Prop where
  /-- The identifier. -/
  id : question.id = question'.id
  /-- The kind. -/
  kind : question.kind = question'.kind
  /-- Whether there can be options. -/
  takesOptions : question.body.takesOptions = question'.body.takesOptions
  /-- The number of the options. -/
  options : question.options.length = question'.options.length
  /-- The identifiers of the rows. -/
  rows : question.rows.map Row.id = question'.rows.map Row.id

theorem Question.SameOutline.refl (question : Question) : question.SameOutline question :=
  ⟨rfl, rfl, rfl, rfl, rfl⟩

private theorem Row.id_written {edit : Edit} {row row' : Row}
    (h : WrittenApart Row.put edit row row') : row.id = row'.id :=
  h.eq fun _ _ => by cases edit.aspect <;> rfl

private theorem Choice.column_written {edit : Edit} {choice choice' : Choice}
    (h : WrittenApart Choice.put edit choice choice') : choice.column = choice'.column :=
  h.eq fun _ _ => by cases edit.aspect <;> rfl

/-- Writing over one attribute of a question, or another one, keeps two questions
as far apart as they were. -/
theorem Question.Apart.put {edit : Edit} {holder : Holder} {question question' : Question}
    (h : Question.Apart edit holder question question') (other : Aspect) (text : Text) :
    Question.Apart edit holder (question.put other text) (question'.put other text) := by
  cases h with
  | own h => exact .own (h.write Question.writes_put other text)
  | body question h =>
      cases other with
      | showIf => exact .body (question.put .showIf text) h
      | hint => exact .body (question.put .hint text) h
      | tooltip => exact .body (question.put .tooltip text) h

theorem Question.Apart.sameOutline {edit : Edit} {holder : Holder}
    {question question' : Question} (h : Question.Apart edit holder question question') :
    question.SameOutline question' := by
  cases h with
  | own h =>
      cases h with
      | same question => exact .refl question
      | written question => cases edit.aspect <;> exact ⟨rfl, rfl, rfl, rfl, rfl⟩
  | body question h =>
      cases h with
      | choice many h => exact ⟨rfl, rfl, rfl, h.length_eq, rfl⟩
      | matrix rows h input => exact ⟨rfl, rfl, rfl, h.length_eq, rfl⟩
      | breakdown h before after label column => exact ⟨rfl, rfl, rfl, h.length_eq, rfl⟩
      | rows h options input =>
          exact ⟨rfl, rfl, rfl, rfl, h.map_eq fun _ _ => Row.id_written⟩

theorem Question.Apart.setVarName {edit : Edit} {holder : Holder}
    {question question' : Question} (h : Question.Apart edit holder question question')
    (varName : Text) : Question.Apart edit holder { question with varName := some varName }
      { question' with varName := some varName } := by
  cases h with
  | own h =>
      refine .own (h.map (f := fun question : Question =>
        { question with varName := some varName }) fun aspect _ _ => ?_)
      cases aspect <;> rfl
  | body question h => exact .body { question with varName := some varName } h

theorem Question.Apart.addText {edit : Edit} {holder : Holder}
    {question question' : Question} (h : Question.Apart edit holder question question')
    (text : Text) : Question.Apart edit holder { question with text := question.text ++ text }
      { question' with text := question'.text ++ text } := by
  cases h with
  | own h =>
      refine .own (h.map (f := fun question : Question =>
        { question with text := question.text ++ text }) fun aspect _ _ => ?_)
      cases aspect <;> rfl
  | body question h => exact .body { question with text := question.text ++ text } h

/-- What keeps two bodies apart in the same place does so for their questions. -/
theorem Question.Apart.mapBody {edit : Edit} {holder : Holder} {change : Body → Body}
    (hchange : ∀ body body', Body.Apart edit holder body body' →
      Body.Apart edit holder (change body) (change body'))
    {question question' : Question} (h : Question.Apart edit holder question question') :
    Question.Apart edit holder { question with body := change question.body }
      { question' with body := change question'.body } := by
  cases h with
  | own h =>
      refine .own (h.map (f := fun question : Question =>
        { question with body := change question.body }) fun aspect _ _ => ?_)
      cases aspect <;> rfl
  | body question h => exact .body question (hchange _ _ h)

theorem Body.Apart.mapOptions {edit : Edit} {holder : Holder}
    {change : List Choice → List Choice}
    (hchange : ∀ options options', OneApart (WrittenApart Choice.put edit) options options' →
      OneApart (WrittenApart Choice.put edit) (change options) (change options'))
    {body body' : Body} (h : Body.Apart edit holder body body') :
    Body.Apart edit holder (body.mapOptions change) (body'.mapOptions change) := by
  cases h with
  | choice many h => exact .choice many (hchange _ _ h)
  | matrix rows h input => exact .matrix rows (hchange _ _ h) input
  | breakdown h before after label column =>
      exact .breakdown (hchange _ _ h) before after label column
  | rows h options input => exact .rows h (change options) input

theorem Body.Apart.mapRows {edit : Edit} {holder : Holder} {change : List Row → List Row}
    (hchange : ∀ rows rows', OneApart (WrittenApart Row.put edit) rows rows' →
      OneApart (WrittenApart Row.put edit) (change rows) (change rows'))
    {body body' : Body} (h : Body.Apart edit holder body body') :
    Body.Apart edit holder (body.mapRows change) (body'.mapRows change) := by
  cases h with
  | choice many h => exact .choice many h
  | matrix rows h input => exact .matrix (change rows) h input
  | breakdown h before after label column => exact .breakdown h before after label column
  | rows h options input => exact .rows (hchange _ _ h) options input

/-- The column of the total is not looked for in any attribute that may be
written over several lines. -/
theorem Body.Apart.settled {edit : Edit} {holder : Holder} {body body' : Body}
    (h : Body.Apart edit holder body body') :
    Body.Apart edit holder body.settled body'.settled := by
  cases h with
  | choice many h => exact .choice many h
  | matrix rows h input => exact .matrix rows h input
  | rows h options input => exact .rows h options input
  | @breakdown options options' h before after label column =>
      have hcolumn : highestColumn options = highestColumn options' := by
        have hmap : options.map Choice.column = options'.map Choice.column :=
          h.map_eq fun _ _ => Choice.column_written
        have heq : ∀ options : List Choice, highestColumn options
            = ((options.map Choice.column).filterMap fun column => column.filter (· ≠ 0)).max? := by
          intro options
          rw [highestColumn, List.filterMap_map]
          rfl
        rw [heq, heq, hmap]
      show Body.Apart edit .option (.breakdown options before after label (highestColumn options))
        (.breakdown options' before after label (highestColumn options'))
      rw [hcolumn]
      exact .breakdown h before after label (highestColumn options')

theorem Section.Apart.put {edit : Edit} {holder : Holder} {part part' : Section}
    (h : Section.Apart edit holder part part') (other : Aspect) (text : Text) :
    Section.Apart edit holder (part.put other text) (part'.put other text) := by
  cases h with
  | own h => exact .own (h.write Section.writes_put other text)
  | items part h =>
      cases other with
      | showIf => exact .items (part.put .showIf text) h
      | hint => exact .items (part.put .hint text) h
      | tooltip => exact .items (part.put .tooltip text) h

theorem Section.Apart.addItem {edit : Edit} {holder : Holder} {part part' : Section}
    (h : Section.Apart edit holder part part') (item : Item) :
    Section.Apart edit holder { part with items := part.items ++ [item] }
      { part' with items := part'.items ++ [item] } := by
  cases h with
  | own h =>
      refine .own (h.map (f := fun part : Section => { part with items := part.items ++ [item] })
        fun aspect _ _ => ?_)
      cases aspect <;> rfl
  | items part h => exact .items part (h.append_right [item])

theorem Section.Apart.title_eq {edit : Edit} {holder : Holder} {part part' : Section}
    (h : Section.Apart edit holder part part') : part.title = part'.title := by
  cases h with
  | own h => exact h.eq fun _ _ => by cases edit.aspect <;> rfl
  | items part h => rfl

theorem Section.Apart.isEmpty_items {edit : Edit} {holder : Holder} {part part' : Section}
    (h : Section.Apart edit holder part part') : part.items.isEmpty = part'.items.isEmpty := by
  cases h with
  | own h =>
      exact h.eq (f := fun part : Section => part.items.isEmpty) fun _ _ => by
        cases edit.aspect <;> rfl
  | items part h => cases h <;> rfl

theorem Page.Apart.put {edit : Edit} {holder : Holder} {page page' : Page}
    (h : Page.Apart edit holder page page') (other : Aspect) (text : Text) :
    Page.Apart edit holder (page.put other text) (page'.put other text) := by
  cases h with
  | own h => exact .own (h.write Page.writes_put other text)
  | sections page h =>
      cases other with
      | showIf => exact .sections (page.put .showIf text) h
      | hint => exact .sections (page.put .hint text) h
      | tooltip => exact .sections (page.put .tooltip text) h

theorem Page.Apart.addSection {edit : Edit} {holder : Holder} {page page' : Page}
    (h : Page.Apart edit holder page page') (part : Section) :
    Page.Apart edit holder { page with sections := page.sections ++ [part] }
      { page' with sections := page'.sections ++ [part] } := by
  cases h with
  | own h =>
      refine .own (h.map (f := fun page : Page => { page with sections := page.sections ++ [part] })
        fun aspect _ _ => ?_)
      cases aspect <;> rfl
  | sections page h => exact .sections page (h.append_right [part])

theorem Page.Apart.addComputation {edit : Edit} {holder : Holder} {page page' : Page}
    (h : Page.Apart edit holder page page') (computation : Computation) :
    Page.Apart edit holder { page with computations := page.computations ++ [computation] }
      { page' with computations := page'.computations ++ [computation] } := by
  cases h with
  | own h =>
      refine .own (h.map (f := fun page : Page =>
        { page with computations := page.computations ++ [computation] })
        fun aspect _ _ => ?_)
      cases aspect <;> rfl
  | sections page h =>
      exact .sections { page with computations := page.computations ++ [computation] } h

theorem Page.Apart.title_eq {edit : Edit} {holder : Holder} {page page' : Page}
    (h : Page.Apart edit holder page page') : page.title = page'.title := by
  cases h with
  | own h => exact h.eq fun _ _ => by cases edit.aspect <;> rfl
  | sections page h => rfl

theorem Block.Apart.put {edit : Edit} {holder : Holder} {block block' : Block}
    (h : Block.Apart edit holder block block') (other : Aspect) (text : Text) :
    Block.Apart edit holder (block.put other text) (block'.put other text) := by
  cases h with
  | own h => exact .own (h.write Block.writes_put other text)
  | pages block h =>
      cases other with
      | showIf => exact .pages (block.put .showIf text) h
      | hint => exact .pages (block.put .hint text) h
      | tooltip => exact .pages (block.put .tooltip text) h

theorem Block.Apart.addPage {edit : Edit} {holder : Holder} {block block' : Block}
    (h : Block.Apart edit holder block block') (page : Page) :
    Block.Apart edit holder { block with pages := block.pages ++ [page] }
      { block' with pages := block'.pages ++ [page] } := by
  cases h with
  | own h =>
      refine .own (h.map (f := fun block : Block => { block with pages := block.pages ++ [page] })
        fun aspect _ _ => ?_)
      cases aspect <;> rfl
  | pages block h => exact .pages block (h.append_right [page])

theorem Block.Apart.addComputation {edit : Edit} {holder : Holder} {block block' : Block}
    (h : Block.Apart edit holder block block') (computation : Computation) :
    Block.Apart edit holder { block with computations := block.computations ++ [computation] }
      { block' with computations := block'.computations ++ [computation] } := by
  cases h with
  | own h =>
      refine .own (h.map (f := fun block : Block =>
        { block with computations := block.computations ++ [computation] })
        fun aspect _ _ => ?_)
      cases aspect <;> rfl
  | pages block h =>
      exact .pages { block with computations := block.computations ++ [computation] } h

theorem Block.Apart.length_pages {edit : Edit} {holder : Holder} {block block' : Block}
    (h : Block.Apart edit holder block block') : block.pages.length = block'.pages.length := by
  cases h with
  | own h =>
      exact h.eq (f := fun block : Block => block.pages.length) fun _ _ => by
        cases edit.aspect <;> rfl
  | pages block h => exact h.length_eq

/-- A block is vacant whatever its condition says, as long as it has one. -/
theorem Block.Apart.isVacant_eq {edit : Edit} {holder : Holder} {block block' : Block}
    (h : Block.Apart edit holder block block') : block.isVacant = block'.isVacant := by
  cases h with
  | own h =>
      cases h with
      | same block => rfl
      | written block => cases edit.aspect <;> rfl
  | pages block h => cases h <;> rfl

/-- **Two surveys that differ in one attribute of one holder**, if at all. -/
structure Survey.Apart (edit : Edit) (holder : Holder) (survey survey' : Survey) : Prop where
  /-- The names are the same. -/
  name : survey.name = survey'.name
  /-- The navigation is the same. -/
  entries : survey.entries = survey'.entries
  /-- The blocks are, one attribute apart. -/
  blocks : OneApart (Block.Apart edit holder) survey.blocks survey'.blocks

end Questionnaire
