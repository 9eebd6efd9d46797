import Questionnaire.Proofs.Source.Content

/-!
# Surveys and states that are one text apart

Some lines of text stand in one text item, with lines of the same item before
and behind them. Two surveys are reworded if these lines are others in the one
than in the other and everything else is the same (`Survey.Reworded`). Two states
that are reworded stay so whatever is read into both of them
(`Reworded.readAll`): no line looks at the wording of a text that has been read.
-/

namespace Questionnaire

open Source Text

/-! ## One place of a list -/

/-- Two lists that differ in one element. -/
inductive AtOne {α : Type} (R : α → α → Prop) : List α → List α → Prop where
  /-- The first elements differ. -/
  | here {x y : α} (rest : List α) (h : R x y) : AtOne R (x :: rest) (y :: rest)
  /-- An element further back does. -/
  | there (x : α) {items items' : List α} (h : AtOne R items items') :
      AtOne R (x :: items) (x :: items')

namespace AtOne

variable {α : Type} {R : α → α → Prop} {items items' : List α}

theorem oneApart (h : AtOne R items items') : OneApart R items items' := by
  induction h with
  | here rest h => exact .here rest h
  | there x _ ih => exact .there x ih

theorem append_right (h : AtOne R items items') (after : List α) :
    AtOne R (items ++ after) (items' ++ after) := by
  induction h with
  | here rest h => exact .here (rest ++ after) h
  | there x _ ih => exact .there x ih

theorem concat (before : List α) {x y : α} (h : R x y) :
    AtOne R (before ++ [x]) (before ++ [y]) := by
  induction before with
  | nil => exact .here [] h
  | cons z before ih => exact .there z ih

theorem isEmpty_eq (h : AtOne R items items') : items.isEmpty = items'.isEmpty := by
  cases h <;> rfl

end AtOne

/-! ## One text apart -/

/-- Two text items with the same lines, but for some in their middle. -/
inductive Item.Reworded (lines lines' : List Text) : Item → Item → Prop where
  | text (front back : List Text) : Item.Reworded lines lines'
      (.text (join ['\n'] (front ++ lines ++ back))) (.text (join ['\n'] (front ++ lines' ++ back)))

/-- Two sections that differ in the lines of one text item. -/
inductive Section.Reworded (lines lines' : List Text) : Section → Section → Prop where
  | items (part : Section) {items items' : List Item}
      (h : AtOne (Item.Reworded lines lines') items items') :
      Section.Reworded lines lines' { part with items := items } { part with items := items' }

/-- Two pages that differ in the lines of one text item. -/
inductive Page.Reworded (lines lines' : List Text) : Page → Page → Prop where
  | sections (page : Page) {sections sections' : List Section}
      (h : AtOne (Section.Reworded lines lines') sections sections') :
      Page.Reworded lines lines' { page with sections := sections }
        { page with sections := sections' }

/-- Two blocks that differ in the lines of one text item. -/
inductive Block.Reworded (lines lines' : List Text) : Block → Block → Prop where
  | pages (block : Block) {pages pages' : List Page}
      (h : AtOne (Page.Reworded lines lines') pages pages') :
      Block.Reworded lines lines' { block with pages := pages } { block with pages := pages' }

/-- **Two surveys that differ in the lines of one text item.** -/
structure Survey.Reworded (lines lines' : List Text) (survey survey' : Survey) : Prop where
  /-- The names are the same. -/
  name : survey.name = survey'.name
  /-- The navigation is the same. -/
  entries : survey.entries = survey'.entries
  /-- The blocks are, one text apart. -/
  blocks : AtOne (Block.Reworded lines lines') survey.blocks survey'.blocks

/-! ## What the wording does not touch -/

variable {lines lines' : List Text}

namespace Section.Reworded

variable {part part' : Section}

theorem put (h : Section.Reworded lines lines' part part') (aspect : Aspect) (value : Text) :
    Section.Reworded lines lines' (part.put aspect value) (part'.put aspect value) := by
  cases h with
  | items part h =>
      cases aspect with
      | showIf => exact .items (part.put .showIf value) h
      | hint => exact .items (part.put .hint value) h
      | tooltip => exact .items (part.put .tooltip value) h

theorem addItem (h : Section.Reworded lines lines' part part') (item : Item) :
    Section.Reworded lines lines' { part with items := part.items ++ [item] }
      { part' with items := part'.items ++ [item] } := by
  cases h with
  | items part h => exact .items part (h.append_right [item])

theorem title_eq (h : Section.Reworded lines lines' part part') : part.title = part'.title := by
  cases h with
  | items part h => rfl

theorem isEmpty_items (h : Section.Reworded lines lines' part part') :
    part.items.isEmpty = part'.items.isEmpty := by
  cases h with
  | items part h => exact h.isEmpty_eq

/-- A text item is no question. -/
theorem questions_eq (h : Section.Reworded lines lines' part part') :
    part.questions = part'.questions := by
  have hitems : ∀ {items items' : List Item}, AtOne (Item.Reworded lines lines') items items' →
      items.filterMap Item.question? = items'.filterMap Item.question? := by
    intro items items' h
    induction h with
    | here rest h =>
        cases h
        rfl
    | there item _ ih => rw [List.filterMap_cons, List.filterMap_cons, ih]
  cases h with
  | items part h => exact hitems h

end Section.Reworded

namespace Page.Reworded

variable {page page' : Page}

theorem put (h : Page.Reworded lines lines' page page') (aspect : Aspect) (value : Text) :
    Page.Reworded lines lines' (page.put aspect value) (page'.put aspect value) := by
  cases h with
  | sections page h =>
      cases aspect with
      | showIf => exact .sections (page.put .showIf value) h
      | hint => exact .sections (page.put .hint value) h
      | tooltip => exact .sections (page.put .tooltip value) h

theorem addSection (h : Page.Reworded lines lines' page page') (part : Section) :
    Page.Reworded lines lines' { page with sections := page.sections ++ [part] }
      { page' with sections := page'.sections ++ [part] } := by
  cases h with
  | sections page h => exact .sections page (h.append_right [part])

theorem addComputation (h : Page.Reworded lines lines' page page') (computation : Computation) :
    Page.Reworded lines lines' { page with computations := page.computations ++ [computation] }
      { page' with computations := page'.computations ++ [computation] } := by
  cases h with
  | sections page h =>
      exact .sections { page with computations := page.computations ++ [computation] } h

theorem title_eq (h : Page.Reworded lines lines' page page') : page.title = page'.title := by
  cases h with
  | sections page h => rfl

end Page.Reworded

namespace Block.Reworded

variable {block block' : Block}

theorem put (h : Block.Reworded lines lines' block block') (aspect : Aspect) (value : Text) :
    Block.Reworded lines lines' (block.put aspect value) (block'.put aspect value) := by
  cases h with
  | pages block h =>
      cases aspect with
      | showIf => exact .pages (block.put .showIf value) h
      | hint => exact .pages (block.put .hint value) h
      | tooltip => exact .pages (block.put .tooltip value) h

theorem addPage (h : Block.Reworded lines lines' block block') (page : Page) :
    Block.Reworded lines lines' { block with pages := block.pages ++ [page] }
      { block' with pages := block'.pages ++ [page] } := by
  cases h with
  | pages block h => exact .pages block (h.append_right [page])

theorem addComputation (h : Block.Reworded lines lines' block block')
    (computation : Computation) :
    Block.Reworded lines lines' { block with computations := block.computations ++ [computation] }
      { block' with computations := block'.computations ++ [computation] } := by
  cases h with
  | pages block h =>
      exact .pages { block with computations := block.computations ++ [computation] } h

theorem length_pages (h : Block.Reworded lines lines' block block') :
    block.pages.length = block'.pages.length := by
  cases h with
  | pages block h => exact h.oneApart.length_eq

/-- A block with a text is not vacant. -/
theorem isVacant_eq (h : Block.Reworded lines lines' block block') :
    block.isVacant = false ∧ block'.isVacant = false := by
  cases h with
  | pages block h => cases h <;> exact ⟨rfl, rfl⟩

end Block.Reworded

/-! ## Lines in the middle of a text -/

/-- Lines of which the first and the last are not blank. -/
structure Source.IsSolid (lines : List Text) : Prop where
  /-- The first line. -/
  first : ∃ line rest, lines = line :: rest ∧ isBlankText line = false
  /-- The last line. -/
  last : ∃ rest line, lines = rest ++ [line] ∧ isBlankText line = false

namespace Source

theorem IsSolid.ne_nil (h : IsSolid lines) : lines ≠ [] := by
  obtain ⟨line, rest, rfl, _⟩ := h.first
  exact List.cons_ne_nil line rest

private theorem dropWhile_append_cons (front rest : List Text) {line : Text}
    (h : isBlankText line = false) : (front ++ line :: rest).dropWhile isBlankText
      = front.dropWhile isBlankText ++ line :: rest := by
  have hstay : (line :: rest).dropWhile isBlankText = line :: rest :=
    List.dropWhile_cons_of_neg (by simp [h])
  rw [List.dropWhile_append, hstay]
  split
  · rename_i hnil
    rw [List.isEmpty_iff.mp hnil, List.nil_append]
  · rfl

/-- Only lines around solid ones are trimmed away. -/
theorem trimLines_around (h : IsSolid lines) (front back : List Text) :
    trimLines (front ++ lines ++ back) = front.dropWhile isBlankText ++ lines
      ++ (back.reverse.dropWhile isBlankText).reverse := by
  obtain ⟨first, rest, hfirst, hblank⟩ := h.first
  have hfront : (front ++ lines ++ back).dropWhile isBlankText
      = front.dropWhile isBlankText ++ lines ++ back := by
    rw [hfirst, List.append_assoc, List.cons_append, dropWhile_append_cons _ _ hblank]
    simp
  obtain ⟨rest', last, hlast, hblank'⟩ := h.last
  have hback : (front.dropWhile isBlankText ++ lines ++ back).reverse.dropWhile isBlankText
      = back.reverse.dropWhile isBlankText ++ (front.dropWhile isBlankText ++ lines).reverse := by
    rw [hlast, List.reverse_append, ← List.append_assoc, List.reverse_concat,
      dropWhile_append_cons _ _ hblank']
  rw [trimLines, hfront, hback, List.reverse_append, List.reverse_reverse]

namespace State

/-! ## States -/

/-- Two states that differ in some lines of one text: of the pending one, or of an
item in a container or in a finished block. -/
inductive Reworded (lines lines' : List Text) : State → State → Prop where
  /-- The pending lines differ. -/
  | pending (st : State) (front back : List Text) :
      Reworded lines lines' { st with pending := front ++ lines ++ back }
        { st with pending := front ++ lines' ++ back }
  /-- The open sections differ. -/
  | part (st : State) {part part' : Section} (h : Section.Reworded lines lines' part part') :
      Reworded lines lines' { st with part? := some part } { st with part? := some part' }
  /-- The open pages differ. -/
  | page (st : State) {page page' : Page} (h : Page.Reworded lines lines' page page') :
      Reworded lines lines' { st with page? := some page } { st with page? := some page' }
  /-- The open blocks differ. -/
  | block (st : State) {block block' : Block} (h : Block.Reworded lines lines' block block') :
      Reworded lines lines' { st with block := block } { st with block := block' }
  /-- The finished blocks differ. -/
  | blocks (st : State) {blocks blocks' : List Block}
      (h : AtOne (Block.Reworded lines lines') blocks blocks') :
      Reworded lines lines' { st with blocks := blocks } { st with blocks := blocks' }

/-- What stands around the open question. -/
structure Surroundings where
  /-- The lines of text that are pending. -/
  pending : List Text
  /-- The open section. -/
  part? : Option Section
  /-- The open page. -/
  page? : Option Page
  /-- The open block. -/
  block : Block
  /-- The finished blocks. -/
  blocks : List Block

/-- The surroundings of a state. -/
def surroundings (st : State) : Surroundings :=
  ⟨st.pending, st.part?, st.page?, st.block, st.blocks⟩

/-- The state in other surroundings. -/
def surround (around : Surroundings) (st : State) : State :=
  { st with
    pending := around.pending, part? := around.part?, page? := around.page?
    block := around.block, blocks := around.blocks }

/-- A change that neither looks at the surroundings nor changes them. -/
def StaysWithin (f : State → State) : Prop :=
  ∀ (st : State) (around : Surroundings), f (st.surround around) = (f st).surround around

theorem pending_closePage (st : State) : st.closePage.pending = [] :=
  congrArg Content.pending (content_closePage st)

/-- **No line of a question looks around it.** -/
theorem staysWithin_readInside (number : Nat) (line : Line) (question : Question) :
    StaysWithin fun st => st.readInside number line question := by
  have hselection : ∀ (st : State) (around : Surroundings),
      (st.surround around).selection? = st.selection? := fun _ _ => rfl
  have hassign : ∀ (aspect : Aspect) (holder : Holder) (value : Text),
      holder = .question ∨ holder = .option ∨ holder = .row →
        StaysWithin fun st => st.assign holder aspect number value := by
    intro aspect holder value hholder st around
    simp only [assign]
    rcases hholder with rfl | rfl | rfl <;> cases aspect <;> (repeat' split) <;> rfl
  have hmodifier : ∀ (change : Modifier) (value : Text),
      StaysWithin fun st => st.readModifier change number value question := by
    intro change value st around
    simp only [readModifier, hselection]
    split
    · cases change with
      | showIf | hint | tooltip => exact hassign _ .row value (.inr (.inr rfl)) st around
      | _ => rfl
    · split
      · rfl
      · cases change with
        | showIf | hint | tooltip => exact hassign _ .option value (.inr (.inl rfl)) st around
        | text => rfl
        | _ =>
            simp only [modifyOption]
            split <;> rfl
  intro st around
  simp only [readInside]
  split
  case h_1 => exact hassign .hint .question line.value (.inl rfl) st around
  case h_12 => exact hmodifier _ line.value st around
  case h_3 | h_4 | h_5 | h_6 | h_7 | h_8 | h_9 | h_10 | h_11 | h_13 | h_14 | h_15 =>
    simp only [readInput, readUnit, readTotal, readSubtotal, readRange, readOption, readMatrixRow,
      readColumn, readHeader, readSeparator, hselection]
    repeat' split
    all_goals rfl
  all_goals rfl

namespace Reworded

variable {st st' : State}

/-! ## What is the same -/

theorem question?_eq (h : Reworded lines lines' st st') : st.question? = st'.question? := by
  cases h <;> rfl

theorem count_eq (h : Reworded lines lines' st st') : st.count = st'.count := by
  cases h <;> rfl

theorem textOpen_eq (h : Reworded lines lines' st st') : st.textOpen = st'.textOpen := by
  cases h <;> rfl

theorem capture?_eq (h : Reworded lines lines' st st') : st.capture? = st'.capture? := by
  cases h <;> rfl

theorem isFenced_eq (h : Reworded lines lines' st st') : st.isFenced = st'.isFenced := by
  cases h <;> rfl

theorem isListed_eq (h : Reworded lines lines' st st') : st.isListed = st'.isListed := by
  cases h <;> rfl

theorem warnings_eq (h : Reworded lines lines' st st') : st.warnings = st'.warnings := by
  cases h <;> rfl

theorem context_eq (h : Reworded lines lines' st st') : st.context = st'.context := by
  cases h <;> rfl

/-- Pending lines that differ are there in both states. -/
theorem isEmpty_pending (hlines : IsSolid lines) (hlines' : IsSolid lines')
    (h : Reworded lines lines' st st') : st.pending.isEmpty = st'.pending.isEmpty := by
  have hfilled : ∀ {lines : List Text}, IsSolid lines → ∀ front back : List Text,
      (front ++ lines ++ back).isEmpty = false := fun h front back =>
    List.isEmpty_eq_false_iff.mpr (by simp [h.ne_nil])
  cases h with
  | pending st front back => exact (hfilled hlines _ _).trans (hfilled hlines' _ _).symm
  | _ => rfl

/-- The open sections are the same, whatever else they are, or they differ. -/
theorem part?_cases (h : Reworded lines lines' st st') :
    (st.part? = st'.part? ∧ ∀ part?, Reworded lines lines' { st with part? := part? }
      { st' with part? := part? }) ∨ ∃ (base : State) (part part' : Section),
        Section.Reworded lines lines' part part' ∧
          st = { base with part? := some part } ∧ st' = { base with part? := some part' } := by
  cases h with
  | pending st front back =>
      exact .inl ⟨rfl, fun part? => .pending { st with part? := part? } front back⟩
  | part st h => exact .inr ⟨st, _, _, h, rfl, rfl⟩
  | page st h => exact .inl ⟨rfl, fun part? => .page { st with part? := part? } h⟩
  | block st h => exact .inl ⟨rfl, fun part? => .block { st with part? := part? } h⟩
  | blocks st h => exact .inl ⟨rfl, fun part? => .blocks { st with part? := part? } h⟩

/-- The open pages are the same, whatever else they are, or they differ. -/
theorem page?_cases (h : Reworded lines lines' st st') :
    (st.page? = st'.page? ∧ ∀ page?, Reworded lines lines' { st with page? := page? }
      { st' with page? := page? }) ∨ ∃ (base : State) (page page' : Page),
        Page.Reworded lines lines' page page' ∧
          st = { base with page? := some page } ∧ st' = { base with page? := some page' } := by
  cases h with
  | pending st front back =>
      exact .inl ⟨rfl, fun page? => .pending { st with page? := page? } front back⟩
  | part st h => exact .inl ⟨rfl, fun page? => .part { st with page? := page? } h⟩
  | page st h => exact .inr ⟨st, _, _, h, rfl, rfl⟩
  | block st h => exact .inl ⟨rfl, fun page? => .block { st with page? := page? } h⟩
  | blocks st h => exact .inl ⟨rfl, fun page? => .blocks { st with page? := page? } h⟩

theorem setPart (h : Reworded lines lines' st st') (hnone : st.part? = none)
    (part? : Option Section) :
    Reworded lines lines' { st with part? := part? } { st' with part? := part? } := by
  rcases h.part?_cases with ⟨-, hset⟩ | ⟨base, part, part', -, rfl, -⟩
  · exact hset part?
  · cases hnone

theorem setPage (h : Reworded lines lines' st st') (hnone : st.page? = none)
    (page? : Option Page) :
    Reworded lines lines' { st with page? := page? } { st' with page? := page? } := by
  rcases h.page?_cases with ⟨-, hset⟩ | ⟨base, page, page', -, rfl, -⟩
  · exact hset page?
  · cases hnone

/-! ## Changing what is open -/

theorem change (f : State → State) (hf : StaysWithin f) (h : Reworded lines lines' st st') :
    Reworded lines lines' (f st) (f st') := by
  cases h with
  | pending st front back =>
      -- `f` sees both states as one with surroundings set, and sets them again behind itself.
      have hput : ∀ pending, f { st with pending := pending }
          = { (f st).surround st.surroundings with pending := pending } :=
        fun pending => hf st { st.surroundings with pending := pending }
      rw [hput (front ++ lines ++ back), hput (front ++ lines' ++ back)]
      exact .pending ((f st).surround st.surroundings) front back
  | @part st old old' h =>
      have hput : ∀ part?, f { st with part? := part? }
          = { (f st).surround st.surroundings with part? := part? } :=
        fun part? => hf st { st.surroundings with part? := part? }
      rw [hput (some old), hput (some old')]
      exact .part ((f st).surround st.surroundings) h
  | @page st old old' h =>
      have hput : ∀ page?, f { st with page? := page? }
          = { (f st).surround st.surroundings with page? := page? } :=
        fun page? => hf st { st.surroundings with page? := page? }
      rw [hput (some old), hput (some old')]
      exact .page ((f st).surround st.surroundings) h
  | @block st old old' h =>
      have hput : ∀ block, f { st with block := block }
          = { (f st).surround st.surroundings with block := block } :=
        fun block => hf st { st.surroundings with block := block }
      rw [hput old, hput old']
      exact .block ((f st).surround st.surroundings) h
  | @blocks st old old' h =>
      have hput : ∀ blocks, f { st with blocks := blocks }
          = { (f st).surround st.surroundings with blocks := blocks } :=
        fun blocks => hf st { st.surroundings with blocks := blocks }
      rw [hput old, hput old']
      exact .blocks ((f st).surround st.surroundings) h

/-- One more line of text is behind the lines that differ. -/
theorem addLine (h : Reworded lines lines' st st') (line : Text) :
    Reworded lines lines' { st with pending := st.pending ++ [line] }
      { st' with pending := st'.pending ++ [line] } := by
  cases h with
  | pending st front back =>
      have hmore : Reworded lines lines' { st with pending := front ++ lines ++ (back ++ [line]) }
          { st with pending := front ++ lines' ++ (back ++ [line]) } :=
        .pending st front (back ++ [line])
      simpa only [List.append_assoc] using hmore
  | part st h => exact .part { st with pending := st.pending ++ [line] } h
  | page st h => exact .page { st with pending := st.pending ++ [line] } h
  | block st h => exact .block { st with pending := st.pending ++ [line] } h
  | blocks st h => exact .blocks { st with pending := st.pending ++ [line] } h

theorem mapPart {change : Section → Section}
    (hchange : ∀ part part', Section.Reworded lines lines' part part' →
      Section.Reworded lines lines' (change part) (change part'))
    (h : Reworded lines lines' st st') :
    Reworded lines lines' { st with part? := st.part?.map change }
      { st' with part? := st'.part?.map change } := by
  cases h with
  | pending st front back => exact .pending { st with part? := st.part?.map change } front back
  | part st h => exact .part st (hchange _ _ h)
  | page st h => exact .page { st with part? := st.part?.map change } h
  | block st h => exact .block { st with part? := st.part?.map change } h
  | blocks st h => exact .blocks { st with part? := st.part?.map change } h

theorem mapPage {change : Page → Page}
    (hchange : ∀ page page', Page.Reworded lines lines' page page' →
      Page.Reworded lines lines' (change page) (change page'))
    (h : Reworded lines lines' st st') :
    Reworded lines lines' { st with page? := st.page?.map change }
      { st' with page? := st'.page?.map change } := by
  cases h with
  | pending st front back => exact .pending { st with page? := st.page?.map change } front back
  | part st h => exact .part { st with page? := st.page?.map change } h
  | page st h => exact .page st (hchange _ _ h)
  | block st h => exact .block { st with page? := st.page?.map change } h
  | blocks st h => exact .blocks { st with page? := st.page?.map change } h

theorem mapBlock {change : Block → Block}
    (hchange : ∀ block block', Block.Reworded lines lines' block block' →
      Block.Reworded lines lines' (change block) (change block'))
    (h : Reworded lines lines' st st') :
    Reworded lines lines' { st with block := change st.block }
      { st' with block := change st'.block } := by
  cases h with
  | pending st front back => exact .pending { st with block := change st.block } front back
  | part st h => exact .part { st with block := change st.block } h
  | page st h => exact .page { st with block := change st.block } h
  | block st h => exact .block st (hchange _ _ h)
  | blocks st h => exact .blocks { st with block := change st.block } h

/-! ## Opening and closing containers -/

theorem ensurePage (h : Reworded lines lines' st st') :
    Reworded lines lines' st.ensurePage st'.ensurePage := by
  cases h with
  | pending st front back => exact .pending st.ensurePage front back
  | part st h => exact .part st.ensurePage h
  | page st h => exact .page st h
  | block st h => exact .block st.ensurePage h
  | blocks st h => exact .blocks st.ensurePage h

theorem ensurePart (h : Reworded lines lines' st st') :
    Reworded lines lines' { st with part? := some (st.part?.getD {}) }
      { st' with part? := some (st'.part?.getD {}) } := by
  cases h with
  | pending st front back =>
      exact .pending { st with part? := some (st.part?.getD {}) } front back
  | part st h => exact .part st h
  | page st h => exact .page { st with part? := some (st.part?.getD {}) } h
  | block st h => exact .block { st with part? := some (st.part?.getD {}) } h
  | blocks st h => exact .blocks { st with part? := some (st.part?.getD {}) } h

theorem addItem (h : Reworded lines lines' st st') (item : Item) :
    Reworded lines lines' (st.addItem item) (st'.addItem item) := by
  cases h with
  | pending st front back => exact .pending (st.addItem item) front back
  | part st h => exact .part st.ensurePage (h.addItem item)
  | page st h => exact .page (st.addItem item) h
  | block st h => exact .block (st.addItem item) h
  | blocks st h => exact .blocks (st.addItem item) h

theorem closeQuestion (h : Reworded lines lines' st st') :
    Reworded lines lines' st.closeQuestion st'.closeQuestion := by
  rw [State.closeQuestion, State.closeQuestion, ← h.question?_eq]
  split
  · exact h
  · exact (h.addItem _).change
      (fun st => { st with question? := none, selection? := none, textOpen := false })
      fun _ _ => rfl

/-- Text that is no longer pending takes the difference into the section. -/
theorem closeText (hlines : IsSolid lines) (hlines' : IsSolid lines')
    (h : Reworded lines lines' st st') : Reworded lines lines' st.closeText st'.closeText := by
  have hstay : st.pending = st'.pending → (∀ item, Reworded lines lines'
      { st.addItem item with pending := [] } { st'.addItem item with pending := [] }) →
      Reworded lines lines' { st with pending := [] } { st' with pending := [] } →
      Reworded lines lines' st.closeText st'.closeText := by
    intro hsame hitem hnone
    rw [State.closeText, State.closeText, ← hsame]
    split
    · exact hnone
    · exact hitem _
  cases h with
  | pending st front back =>
      -- What is trimmed stands around the lines that differ.
      have hitem : ∀ {lines : List Text}, IsSolid lines →
          { st with pending := front ++ lines ++ back }.closeText
            = { st.addItem (.text (join ['\n'] (front.dropWhile isBlankText ++ lines
                ++ (back.reverse.dropWhile isBlankText).reverse))) with pending := [] } := by
        intro lines hsolid
        have hne : front.dropWhile isBlankText ++ lines
            ++ (back.reverse.dropWhile isBlankText).reverse ≠ [] := by simp [hsolid.ne_nil]
        rw [State.closeText, trimLines_around hsolid]
        split
        · contradiction
        · rfl
      rw [hitem hlines, hitem hlines']
      exact .part { st.ensurePage with pending := [] }
        (.items (st.part?.getD {}) (AtOne.concat _ (.text _ _)))
  | part st h =>
      exact hstay rfl (fun item => .part { st.ensurePage with pending := [] } (h.addItem item))
        (.part { st with pending := [] } h)
  | page st h =>
      exact hstay rfl (fun item => .page { st.addItem item with pending := [] } h)
        (.page { st with pending := [] } h)
  | block st h =>
      exact hstay rfl (fun item => .block { st.addItem item with pending := [] } h)
        (.block { st with pending := [] } h)
  | blocks st h =>
      exact hstay rfl (fun item => .blocks { st.addItem item with pending := [] } h)
        (.blocks { st with pending := [] } h)

theorem addSection (h : Reworded lines lines' st st') (part : Section) :
    Reworded lines lines' (st.addSection part) (st'.addSection part) :=
  h.ensurePage.mapPage fun _ _ h => h.addSection part

variable (hlines : IsSolid lines) (hlines' : IsSolid lines')

include hlines hlines'

/-- A section that is closed takes the difference into the page. -/
theorem closeSection (h : Reworded lines lines' st st') :
    Reworded lines lines' st.closeSection st'.closeSection := by
  have hclosed := h.closeQuestion.closeText hlines hlines'
  rcases hclosed.part?_cases with ⟨hsame, hset⟩ | ⟨base, part, part', hpart, hst, hst'⟩
  · cases hpart : st.closeQuestion.closeText.part? with
    | none =>
        rw [closeSection_of_none hpart, closeSection_of_none (hsame.symm.trans hpart)]
        exact hclosed
    | some part =>
        rw [closeSection_of_some hpart, closeSection_of_some (hsame.symm.trans hpart)]
        exact (hset none).addSection part
  · rw [closeSection_of_some (congrArg State.part? hst),
      closeSection_of_some (congrArg State.part? hst'), hst, hst']
    exact .page { base with part? := none }
      (.sections (base.page?.getD {}) (AtOne.concat _ hpart))

omit hlines hlines' in
theorem pageCount_eq (h : Reworded lines lines' st st') : st.pageCount = st'.pageCount := by
  cases h with
  | block st h => simp only [pageCount, h.length_pages]
  | blocks st h =>
      have hlength : ∀ {blocks blocks' : List Block},
          AtOne (Block.Reworded lines lines') blocks blocks' →
          (blocks.flatMap Block.pages).length = (blocks'.flatMap Block.pages).length := by
        intro blocks blocks' h
        rw [List.length_flatMap, List.length_flatMap, h.oneApart.map_eq fun _ _ h => h.length_pages]
      simp only [pageCount, hlength h]
  | _ => rfl

omit hlines hlines' in
theorem addPage (h : Reworded lines lines' st st') (page : Page) (position : Nat) :
    Reworded lines lines' (st.addPage page position) (st'.addPage page position) :=
  (h.mapBlock fun _ _ h => h.addPage page).change
    (fun st => { st with
      entries := changeLast (fun entry => { entry with pages := entry.pages ++ [position] })
        st.entries
      isListed := false }) fun _ _ => rfl

/-- A page that is closed takes the difference into the block. -/
theorem closePage (h : Reworded lines lines' st st') :
    Reworded lines lines' st.closePage st'.closePage := by
  have hclosed := h.closeSection hlines hlines'
  have hcount := hclosed.pageCount_eq
  rcases hclosed.page?_cases with ⟨hsame, hset⟩ | ⟨base, page, page', hpage, hst, hst'⟩
  · cases hpage : st.closeSection.page? with
    | none =>
        rw [closePage_of_none hpage, closePage_of_none (hsame.symm.trans hpage)]
        exact hclosed
    | some page =>
        rw [closePage_of_some hpage, closePage_of_some (hsame.symm.trans hpage), ← hcount]
        exact (hset none).addPage page _
  · rw [closePage_of_some (congrArg State.page? hst),
      closePage_of_some (congrArg State.page? hst'), ← hcount, hst, hst']
    exact .block { base.addPage page _ with page? := none }
      (.pages base.block (AtOne.concat _ hpage))

/-- **A block that is closed takes the difference to the finished blocks**, where it
stays. -/
theorem closeBlock (h : Reworded lines lines' st st') :
    ∃ (base : State) (blocks blocks' : List Block),
      AtOne (Block.Reworded lines lines') blocks blocks' ∧
        st.closeBlock = { base with blocks } ∧ st'.closeBlock = { base with blocks := blocks' } := by
  have hclosed := h.closePage hlines hlines'
  have hpending := pending_closePage st
  have hpart := part?_closePage st
  have hpage := page?_closePage st
  rw [State.closeBlock, State.closeBlock]
  generalize st.closePage = t at hclosed hpending hpart hpage ⊢
  generalize st'.closePage = t' at hclosed ⊢
  -- Nothing but the block is open.
  cases hclosed with
  | pending t front back => simp [hlines.ne_nil] at hpending
  | part t h => cases hpart
  | page t h => cases hpage
  | block t h =>
      refine ⟨{ t with block := {}, isImplicit := true }, _, _, AtOne.concat t.blocks h, ?_, ?_⟩
      · simp [h.isVacant_eq.1]
      · simp [h.isVacant_eq.2]
  | blocks t h =>
      by_cases hvacant : (t.isImplicit && t.block.isVacant) = true
      · exact ⟨{ t with block := {}, isImplicit := true }, _, _, h, by simp [hvacant],
          by simp [hvacant]⟩
      · exact ⟨{ t with block := {}, isImplicit := true }, _, _, h.append_right [t.block],
          by simp [hvacant], by simp [hvacant]⟩

omit hlines hlines'

/-! ## Reading -/

theorem write (h : Reworded lines lines' st st') (holder : Holder) (aspect : Aspect)
    (value : Text) :
    Reworded lines lines' (st.write holder aspect value) (st'.write holder aspect value) := by
  cases holder with
  | block =>
      rw [write_block, write_block]
      exact h.mapBlock fun _ _ h => h.put aspect value
  | page =>
      rw [write_page, write_page]
      exact h.mapPage fun _ _ h => h.put aspect value
  | heading =>
      rw [write_heading, write_heading]
      exact h.mapPart fun _ _ h => h.put aspect value
  | question =>
      rw [write_question, write_question]
      exact h.change (State.mapQuestion (Question.put aspect value)) fun _ _ => rfl
  | option =>
      rw [write_option, write_option]
      exact h.change (State.mapOption (Choice.put aspect value)) fun _ _ => rfl
  | row =>
      rw [write_row, write_row]
      exact h.change (State.mapRow (Row.put aspect value)) fun _ _ => rfl

theorem setCapture (h : Reworded lines lines' st st') (capture? : Option Capture) :
    Reworded lines lines' { st with capture? := capture? } { st' with capture? := capture? } :=
  h.change (fun st => { st with capture? := capture? }) fun _ _ => rfl

theorem assign (h : Reworded lines lines' st st') (holder : Holder) (aspect : Aspect) (line : Nat)
    (value : Text) : Reworded lines lines' (st.assign holder aspect line value)
      (st'.assign holder aspect line value) := by
  rw [State.assign, State.assign]
  split
  · exact h.write holder aspect value
  · split
    · exact h.write holder aspect _
    · exact h.setCapture _

theorem endCapture (h : Reworded lines lines' st st') (capture : Capture) :
    Reworded lines lines' (st.endCapture capture) (st'.endCapture capture) :=
  (h.write capture.holder capture.aspect capture.value).setCapture none

theorem readQuoted (h : Reworded lines lines' st st') (capture : Capture) (raw : Text) :
    Reworded lines lines' (st.readQuoted capture raw) (st'.readQuoted capture raw) := by
  rw [State.readQuoted, State.readQuoted]
  split
  · exact h.endCapture _
  · exact h.setCapture _

theorem readText (h : Reworded lines lines' st st') (raw : Text) :
    Reworded lines lines' (st.readText raw) (st'.readText raw) := by
  rw [State.readText, State.readText, ← h.question?_eq, ← h.textOpen_eq, ← h.isFenced_eq]
  split
  · exact h.change (State.mapQuestion fun question =>
      { question with text := question.text ++ '\n' :: trim raw }) fun _ _ => rfl
  · exact h.closeQuestion.addLine _

theorem quiet (h : Reworded lines lines' st st') :
    Reworded lines lines' { st with textOpen := false } { st' with textOpen := false } :=
  h.change (fun st => { st with textOpen := false }) fun _ _ => rfl

theorem readLevel (h : Reworded lines lines' st st') (level : Nat) :
    Reworded lines lines' (st.readLevel level) (st'.readLevel level) := by
  have htitle : (st.ensurePage.page?.getD {}).title = (st'.ensurePage.page?.getD {}).title := by
    rcases h.ensurePage.page?_cases with ⟨hsame, _⟩ | ⟨base, page, page', hpage, hst, hst'⟩
    · rw [hsame]
    · rw [hst, hst']
      exact hpage.title_eq
  by_cases hlisted : st.isListed = true
  · rw [State.readLevel, State.readLevel, if_pos hlisted, if_pos (h.isListed_eq ▸ hlisted)]
    exact h.change (fun st => { st with
      entries := changeLast (fun entry => { entry with level := level }) st.entries })
      fun _ _ => rfl
  · rw [State.readLevel, State.readLevel, if_neg hlisted, if_neg (h.isListed_eq ▸ hlisted)]
    simp only [← htitle]
    exact h.ensurePage.change (fun other => { other with
      entries := other.entries ++ [{ name := (st.ensurePage.page?.getD {}).title, level := level }]
      isListed := true }) fun _ _ => rfl

theorem showIfHolder_eq (h : Reworded lines lines' st st') :
    st.showIfHolder = st'.showIfHolder := by
  cases h with
  | part st h => simp [State.showIfHolder, h.title_eq]
  | _ => rfl

theorem readShowIf (h : Reworded lines lines' st st') (line : Nat) (value : Text) :
    Reworded lines lines' (st.readShowIf line value) (st'.readShowIf line value) := by
  rw [State.readShowIf, State.readShowIf, ← h.showIfHolder_eq]
  exact h.assign _ _ _ _

include hlines hlines'

theorem readBlank (h : Reworded lines lines' st st') :
    Reworded lines lines' st.readBlank st'.readBlank := by
  have hnone : st.question?.isNone = st'.question?.isNone := by rw [h.question?_eq]
  rw [State.readBlank, State.readBlank, ← hnone, ← h.isEmpty_pending hlines hlines']
  split
  · exact h.addLine []
  · exact h

theorem readQuestion (h : Reworded lines lines' st st') (text : Text) (after : List Text) :
    Reworded lines lines' (st.readQuestion text after) (st'.readQuestion text after) := by
  have hclosed := (h.closeQuestion.closeText hlines hlines').ensurePage
  rw [State.readQuestion, State.readQuestion, ← hclosed.count_eq]
  generalize st.closeQuestion.closeText.ensurePage = t at hclosed ⊢
  exact hclosed.ensurePart.change (fun other => { other with
    count := t.count + 1
    question? := some
      { id := 'Q' :: Decimal.writeNat (t.count + 1), text, body := .ofKind (kindAhead after) }
    textOpen := true }) fun _ _ => rfl

theorem readComputation (h : Reworded lines lines' st st') (computed : Text × Text) :
    Reworded lines lines' (st.readComputation computed) (st'.readComputation computed) := by
  have hclosed := h.closeQuestion.closeText hlines hlines'
  rw [State.readComputation, State.readComputation]
  generalize st.closeQuestion.closeText = t at hclosed ⊢
  generalize st'.closeQuestion.closeText = t' at hclosed ⊢
  have hsome := hclosed.mapPage fun _ _ h => h.addComputation ⟨computed.1, computed.2⟩
  have hnone := hclosed.mapBlock fun _ _ h => h.addComputation ⟨computed.1, computed.2⟩
  -- A page takes the computation before the block does, differing or not.
  rcases hclosed.page?_cases with ⟨hsame, -⟩ | ⟨base, page, page', hpage, rfl, rfl⟩
  · cases hpage : t.page? with
    | none => simpa only [hpage, hsame.symm.trans hpage] using hnone
    | some page => simpa only [hpage, hsame.symm.trans hpage, Option.map_some] using hsome
  · exact .page base (hpage.addComputation _)

theorem sectionHasContent_eq (h : Reworded lines lines' st st') :
    st.sectionHasContent = st'.sectionHasContent := by
  rw [State.sectionHasContent, State.sectionHasContent, ← h.isEmpty_pending hlines hlines']
  cases h with
  | part st h => simp only [h.title_eq, h.isEmpty_items]
  | _ => rfl

theorem readTooltip (h : Reworded lines lines' st st') (line : Nat) (value : Text) :
    Reworded lines lines' (st.readTooltip line value) (st'.readTooltip line value) := by
  rw [State.readTooltip, State.readTooltip, ← h.question?_eq,
    ← h.sectionHasContent_eq hlines hlines']
  split
  · exact h.assign _ _ _ _
  · split
    · exact (h.closeText hlines hlines').assign _ _ _ _
    · exact h.ensurePage.assign _ _ _ _

theorem readLine (h : Reworded lines lines' st st') (number : Nat) (line : Line) (raw : Text)
    (after : List Text) : Reworded lines lines' (st.readLine number line raw after)
      (st'.readLine number line raw after) := by
  have hquiet := h.quiet
  rw [State.readLine, State.readLine]
  split
  · exact h.readText raw
  · exact hquiet.readBlank hlines hlines'
  · exact (hquiet.closePage hlines hlines').setPage (page?_closePage _) _
  · obtain ⟨base, blocks, blocks', hblocks, hst, hst'⟩ := hquiet.closeBlock hlines hlines'
    rw [hst, hst']
    exact .blocks { base with block := { name := line.value }, isImplicit := false } hblocks
  · exact (hquiet.closeSection hlines hlines').ensurePage.setPart (part?_closeSection _) _
  · exact hquiet.readQuestion hlines hlines' _ _
  · exact hquiet.readLevel _
  · exact hquiet.readComputation hlines hlines' _
  · exact hquiet.readShowIf _ _
  · exact hquiet.readTooltip hlines hlines' _ _
  · cases hst : st.question? with
    | none => simpa only [hst, h.question?_eq.symm.trans hst] using hquiet
    | some question =>
        simpa only [hst, h.question?_eq.symm.trans hst] using
          hquiet.change _ (staysWithin_readInside number line question)

/-- **One line read into two states that are reworded**: it can be read into both or
into neither, and leaves them reworded. -/
theorem read (h : Reworded lines lines' st st') (number : Nat) (raw : Text) (after : List Text) :
    (∃ fault, st.read number raw after = .error fault ∧ st'.read number raw after = .error fault) ∨
      ∃ next next', st.read number raw after = .ok next ∧ st'.read number raw after = .ok next' ∧
        Reworded lines lines' next next' := by
  cases hcapture : st.capture? with
  | some capture =>
      rw [read_of_capture raw hcapture, read_of_capture raw (h.capture?_eq ▸ hcapture)]
      exact .inr ⟨_, _, rfl, rfl, h.readQuoted capture raw⟩
  | none =>
      have hcapture' : st'.capture? = none := h.capture?_eq ▸ hcapture
      by_cases hfence : hasStart fence (trim raw) = true
      · rw [read_of_fence hcapture hfence, read_of_fence hcapture' hfence, ← h.isFenced_eq]
        exact .inr ⟨_, _, rfl, rfl,
          (h.change (fun other => { other with isFenced := !st.isFenced })
            fun _ _ => rfl).readText raw⟩
      · rw [Bool.not_eq_true] at hfence
        cases hfenced : st.isFenced with
        | true =>
            rw [read_of_isFenced hcapture hfence hfenced,
              read_of_isFenced hcapture' hfence (h.isFenced_eq ▸ hfenced)]
            exact .inr ⟨_, _, rfl, rfl, h.readText raw⟩
        | false =>
            rw [read_of_classify hcapture hfence hfenced,
              read_of_classify hcapture' hfence (h.isFenced_eq ▸ hfenced), ← h.context_eq]
            cases classify st.context raw with
            | error fault => exact .inl ⟨fault, rfl, rfl⟩
            | ok line =>
                exact .inr ⟨_, _, rfl, rfl, h.readLine hlines hlines' number line raw after⟩

/-- **Any lines read into two states that are reworded**: the same line fails, if
any does, and the states that are reached are reworded. -/
theorem readAll (h : Reworded lines lines' st st') (done : Nat) (more : List Text) :
    (State.readAll done st more).2 = (State.readAll done st' more).2 ∧
      Reworded lines lines' (State.readAll done st more).1 (State.readAll done st' more).1 := by
  induction more generalizing done st st' with
  | nil => exact ⟨rfl, h⟩
  | cons raw rest ih =>
      rw [State.readAll, State.readAll]
      rcases h.read hlines hlines' (done + 1) raw rest with
        ⟨fault, hst, hst'⟩ | ⟨next, next', hst, hst', hnext⟩
      · rw [hst, hst']
        exact ⟨rfl, h⟩
      · rw [hst, hst']
        exact ih hnext (done + 1)

/-- At the end the difference is in the survey. -/
theorem finish (h : Reworded lines lines' st st') (name : Text) :
    st.finish.warnings = st'.finish.warnings ∧
      (st.finish.survey name).Reworded lines lines' (st'.finish.survey name) := by
  have hclose : ∀ {st st' : State}, Reworded lines lines' st st' →
      st.closeBlock.warnings = st'.closeBlock.warnings ∧
        (st.closeBlock.survey name).Reworded lines lines' (st'.closeBlock.survey name) := by
    intro st st' h
    obtain ⟨base, blocks, blocks', hblocks, hst, hst'⟩ := h.closeBlock hlines hlines'
    rw [hst, hst']
    exact ⟨rfl, rfl, rfl, hblocks⟩
  rw [State.finish, State.finish, ← h.capture?_eq]
  split
  · exact hclose h
  · exact hclose ((h.change (State.warn _ _) fun _ _ => rfl).endCapture _)

end Reworded

end State
end Source

/-! ## The checks -/

theorem Section.Reworded.conditions_eq {part part' : Section}
    (h : Section.Reworded lines lines' part part') :
    Validation.sectionConditions part = Validation.sectionConditions part' := by
  have hshow : part.showIf = part'.showIf := by
    cases h with
    | items part h => rfl
  rw [Validation.sectionConditions, Validation.sectionConditions, h.title_eq, hshow,
    h.questions_eq]

theorem Page.Reworded.questions_eq {page page' : Page}
    (h : Page.Reworded lines lines' page page') : page.questions = page'.questions := by
  cases h with
  | sections page h => exact h.oneApart.flatMap_eq fun _ _ h => h.questions_eq

theorem Page.Reworded.computations_eq {page page' : Page}
    (h : Page.Reworded lines lines' page page') : page.computations = page'.computations := by
  cases h with
  | sections page h => rfl

theorem Page.Reworded.conditions_eq {page page' : Page}
    (h : Page.Reworded lines lines' page page') :
    (Validation.Owner.page page.title, page.showIf)
        :: page.sections.flatMap Validation.sectionConditions
      = (Validation.Owner.page page'.title, page'.showIf)
        :: page'.sections.flatMap Validation.sectionConditions := by
  cases h with
  | sections page h => simp only [h.oneApart.flatMap_eq fun _ _ h => h.conditions_eq]

/-- **Surveys that are reworded have the same problems**: the checks read no text. -/
theorem Survey.Reworded.problems_eq {survey survey' : Survey}
    (h : survey.Reworded lines lines' survey') :
    Validation.problems survey = Validation.problems survey' := by
  have hblocks : ∀ {β : Type} {f : Block → List β},
      (∀ (block : Block) (pages pages' : List Page), AtOne (Page.Reworded lines lines') pages pages' →
        f { block with pages } = f { block with pages := pages' }) →
      survey.blocks.flatMap f = survey'.blocks.flatMap f := by
    intro β f hf
    refine h.blocks.oneApart.flatMap_eq fun block block' hblock => ?_
    obtain ⟨block, hpages⟩ := hblock
    exact hf block _ _ hpages
  have hquestions : survey.questions = survey'.questions := by
    rw [Survey.questions_eq, Survey.questions_eq]
    exact hblocks fun _ _ _ h => h.oneApart.flatMap_eq fun _ _ h => h.questions_eq
  have hscopes : survey.scopes = survey'.scopes :=
    hblocks fun block _ _ h => congrArg (block.computations :: ·)
      (h.oneApart.map_eq fun _ _ h => h.computations_eq)
  have hconditions : Validation.conditions survey = Validation.conditions survey' :=
    hblocks fun block _ _ h => congrArg ((Validation.Owner.block block.name, block.showIf) :: ·)
      (h.oneApart.flatMap_eq fun _ _ h => h.conditions_eq)
  have hdeclarations : survey.declarations = survey'.declarations :=
    hblocks fun block _ _ h =>
      congrArg (block.computations.map (fun c => (c.name, Survey.Role.computed)) ++ ·)
        (h.oneApart.flatMap_eq fun _ _ h => by rw [h.computations_eq, h.questions_eq])
  rw [Validation.problems, Validation.problems, Validation.nameProblems, Validation.nameProblems,
    Validation.duplicateNames, Validation.duplicateNames, Validation.referenceProblems,
    Validation.referenceProblems, Survey.declared, Survey.declared, Validation.answerNames,
    Validation.answerNames, hquestions, hscopes, hconditions, hdeclarations]

end Questionnaire
