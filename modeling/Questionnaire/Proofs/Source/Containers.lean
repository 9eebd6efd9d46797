import Mathlib.Logic.Relation
import Questionnaire.Proofs.Source.Taking

/-!
# What a line does to the containers

Most lines only fill what is open: attributes and computations apart, a page is
opened where none is, or an item is added to the open section, or a question is
begun in it (`Fill`). Four kinds of lines do more: a marker of a block, of a page
or of a section closes what is open on its level, and a level of navigation
belongs to the open page. Every line that is read does one of these
(`read_arranges`).
-/

namespace Questionnaire

open Text

/-! ## Containers without attributes -/

/-- The section without attributes. -/
def Section.bare (part : Section) : Section where
  title := part.title
  items := part.items

/-- The page without attributes and computations. -/
def Page.bare (page : Page) : Page where
  title := page.title
  sections := page.sections

/-- The block without attributes and computations. -/
def Block.bare (block : Block) : Block where
  name := block.name
  pages := block.pages

theorem Section.bare_eq_iff {a b : Section} :
    a.bare = b.bare ↔ a.title = b.title ∧ a.items = b.items := by
  simp [bare]

theorem Page.bare_eq_iff {a b : Page} :
    a.bare = b.bare ↔ a.title = b.title ∧ a.sections = b.sections := by
  simp [bare]

theorem Block.bare_eq_iff {a b : Block} :
    a.bare = b.bare ↔ a.name = b.name ∧ a.pages = b.pages := by
  simp [bare]

@[simp] theorem Section.bare_put (aspect : Source.Aspect) (value : Text) (part : Section) :
    (part.put aspect value).bare = part.bare := by
  cases aspect <;> rfl

@[simp] theorem Page.bare_put (aspect : Source.Aspect) (value : Text) (page : Page) :
    (page.put aspect value).bare = page.bare := by
  cases aspect <;> rfl

@[simp] theorem Block.bare_put (aspect : Source.Aspect) (value : Text) (block : Block) :
    (block.put aspect value).bare = block.bare := by
  cases aspect <;> rfl

/-- **The page later on**, with more sections perhaps. -/
structure Page.Continues (old new : Page) : Prop where
  /-- The title stays. -/
  title : new.title = old.title
  /-- The sections that are closed stay. -/
  sections : old.sections <+: new.sections

theorem Page.Continues.refl (page : Page) : page.Continues page := ⟨rfl, List.prefix_rfl⟩

theorem Page.Continues.trans {first second third : Page} (h : first.Continues second)
    (h' : second.Continues third) : first.Continues third :=
  ⟨h'.title.trans h.title, h.sections.trans h'.sections⟩

theorem Page.Continues.of_bare {old new : Page} (h : new.bare = old.bare) : old.Continues new :=
  ⟨(Page.bare_eq_iff.mp h).1, (Page.bare_eq_iff.mp h).2 ▸ List.prefix_rfl⟩

namespace Source

/-- Whether the line is a marker of a container or a level of navigation. -/
def LineKind.isArranging : LineKind → Bool
  | .page => true
  | .block => true
  | .heading => true
  | .navigation .. => true
  | _ => false

namespace State

/-! ## Filling -/

/-- The containers of two states are the same, attributes and computations apart. -/
structure SameContainers (st st' : State) : Prop where
  /-- The finished blocks. -/
  blocks : st'.blocks = st.blocks
  /-- Whether no marker opened the block. -/
  isImplicit : st'.isImplicit = st.isImplicit
  /-- The open block. -/
  block : st'.block.bare = st.block.bare
  /-- The open page. -/
  page : st'.page?.map Page.bare = st.page?.map Page.bare
  /-- The open section. -/
  part : st'.part?.map Section.bare = st.part?.map Section.bare
  /-- The navigation entries. -/
  entries : st'.entries = st.entries
  /-- Whether the open page is listed. -/
  isListed : st'.isListed = st.isListed

theorem SameContainers.write (holder : Holder) (aspect : Aspect) (value : Text) (st : State) :
    SameContainers st (st.write holder aspect value) := by
  cases holder with
  | block =>
      rw [write_block]
      exact ⟨rfl, rfl, Block.bare_put aspect value st.block, rfl, rfl, rfl, rfl⟩
  | page =>
      rw [write_page]
      exact ⟨rfl, rfl, rfl, by cases st.page? <;> simp, rfl, rfl, rfl⟩
  | heading =>
      rw [write_heading]
      exact ⟨rfl, rfl, rfl, rfl, by cases st.part? <;> simp, rfl, rfl⟩
  | question =>
      rw [write_question]
      exact ⟨rfl, rfl, rfl, rfl, rfl, rfl, rfl⟩
  | option =>
      rw [write_option]
      exact ⟨rfl, rfl, rfl, rfl, rfl, rfl, rfl⟩
  | row =>
      rw [write_row]
      exact ⟨rfl, rfl, rfl, rfl, rfl, rfl, rfl⟩

/-- The state with a section open. -/
def openSection (st : State) : State :=
  { st.ensurePage with part? := some (st.part?.getD {}) }

/-- **One way to fill the containers.** -/
inductive Fill (st st' : State) : Prop where
  /-- Attributes apart the containers stay, and a question that is open stays open. -/
  | alike (h : SameContainers st st')
      (hquestion : st.question?.isSome = true → st'.question?.isSome = true)
  /-- A page is open. -/
  | page (h : st' = st.ensurePage)
  /-- An item goes to the open section. -/
  | item (item : Item) (h : SameContainers (st.addItem item) st')
  /-- A question is begun in the open section. -/
  | question (h : SameContainers st.openSection st') (hquestion : st'.question?.isSome = true)

/-- Filling the containers step by step. -/
def Fills : State → State → Prop := Relation.ReflTransGen Fill

namespace Fills

variable {st st' st'' : State}

theorem refl (st : State) : Fills st st := Relation.ReflTransGen.refl

theorem single (h : Fill st st') : Fills st st' := Relation.ReflTransGen.single h

theorem trans (h : Fills st st') (h' : Fills st' st'') : Fills st st'' :=
  Relation.ReflTransGen.trans h h'

/-- What no way of filling breaks holds behind all of them. -/
theorem preserves {P : State → Prop} (hfill : ∀ {st st'}, P st → Fill st st' → P st')
    (h : Fills st st') (hst : P st) : P st' := by
  induction h with
  | refl => exact hst
  | tail _ hlast ih => exact hfill ih hlast

/-- Other fields may change. -/
theorem alike (h : SameContainers st st')
    (hquestion : st.question?.isSome = true → st'.question?.isSome = true) : Fills st st' :=
  single (.alike h hquestion)

theorem ensurePage (st : State) : Fills st st.ensurePage := single (.page rfl)

theorem closeQuestion (st : State) : Fills st st.closeQuestion := by
  cases hquestion : st.question? with
  | none =>
      rw [State.closeQuestion, hquestion]
      exact refl st
  | some question =>
      rw [closeQuestion_of_some hquestion]
      exact single (.item (.question question.settled) ⟨rfl, rfl, rfl, rfl, rfl, rfl, rfl⟩)

theorem closeText (st : State) : Fills st st.closeText := by
  rw [State.closeText]
  split
  · exact alike ⟨rfl, rfl, rfl, rfl, rfl, rfl, rfl⟩ id
  · exact single (.item (.text (join ['\n'] (trimLines st.pending)))
      ⟨rfl, rfl, rfl, rfl, rfl, rfl, rfl⟩)

theorem settle (st : State) : Fills st st.closeQuestion.closeText :=
  (closeQuestion st).trans (closeText _)

/-! ### Attributes -/

theorem write (holder : Holder) (aspect : Aspect) (value : Text) (st : State) :
    Fills st (st.write holder aspect value) :=
  alike (.write holder aspect value st) (by rw [question?_write]; simp)

theorem setCapture (capture? : Option Capture) (st : State) :
    Fills st { st with capture? := capture? } :=
  alike ⟨rfl, rfl, rfl, rfl, rfl, rfl, rfl⟩ id

theorem assign (holder : Holder) (aspect : Aspect) (line : Nat) (value : Text) (st : State) :
    Fills st (st.assign holder aspect line value) := by
  rcases assign_cases holder aspect line value st with ⟨text, h⟩ | ⟨capture, -, h⟩
  · exact h ▸ write holder aspect text st
  · exact h ▸ setCapture _ st

theorem endCapture (capture : Capture) (st : State) : Fills st (st.endCapture capture) :=
  (write _ _ _ st).trans (setCapture none _)

theorem readQuoted (capture : Capture) (raw : Text) (st : State) :
    Fills st (st.readQuoted capture raw) := by
  rw [State.readQuoted]
  split
  · exact endCapture _ st
  · exact setCapture _ st

/-! ### Lines -/

theorem quiet (st : State) : Fills st st.quiet := alike ⟨rfl, rfl, rfl, rfl, rfl, rfl, rfl⟩ id

theorem readText (raw : Text) (st : State) : Fills st (st.readText raw) := by
  rw [State.readText]
  split
  · exact alike ⟨rfl, rfl, rfl, rfl, rfl, rfl, rfl⟩ (by simp [mapQuestion])
  · exact (closeQuestion st).trans (alike ⟨rfl, rfl, rfl, rfl, rfl, rfl, rfl⟩ id)

theorem readBlank (st : State) : Fills st st.readBlank := by
  rw [State.readBlank]
  split
  · exact alike ⟨rfl, rfl, rfl, rfl, rfl, rfl, rfl⟩ id
  · exact refl st

theorem readQuestion (text : Text) (after : List Text) (st : State) :
    Fills st (st.readQuestion text after) :=
  (settle st).trans (single (.question ⟨rfl, rfl, rfl, rfl, rfl, rfl, rfl⟩ rfl))

theorem readComputation (computed : Text × Text) (st : State) :
    Fills st (st.readComputation computed) := by
  refine (settle st).trans ?_
  rw [State.readComputation]
  generalize st.closeQuestion.closeText = settled
  split
  · rename_i page hpage
    refine alike ⟨rfl, rfl, rfl, ?_, rfl, rfl, rfl⟩ id
    rw [hpage]
    rfl
  · exact alike ⟨rfl, rfl, rfl, rfl, rfl, rfl, rfl⟩ id

theorem readTooltip (line : Nat) (value : Text) (st : State) :
    Fills st (st.readTooltip line value) := by
  rw [State.readTooltip]
  split
  · exact assign _ _ _ _ st
  · split
    · exact (closeText st).trans (assign _ _ _ _ _)
    · exact (ensurePage st).trans (assign _ _ _ _ _)

theorem affected (number : Nat) (next : Question) (selection? : Option Selection)
    (capture? : Option Capture) (cause? : Option Cause) (st : State) :
    Fills st (st.affected number next selection? capture? cause?) :=
  alike ⟨rfl, rfl, rfl, rfl, rfl, rfl, rfl⟩ fun _ => rfl

end Fills

/-! ## Closing -/

/-- The open page with the open section in it. -/
def wholePage? (st : State) : Option Page :=
  st.page?.map fun page => { page with sections := page.sections ++ st.part?.toList }

/-- The pages of the open block, the open one last. -/
def openPages (st : State) : List Page := st.block.pages ++ st.wholePage?.toList

/-- A section that is closed goes to the open page. -/
theorem ensurePage_closeSection (st : State) : st.closeSection.ensurePage
    = { st.closeQuestion.closeText with
        page? := some (st.closeQuestion.closeText.ensurePage.wholePage?.getD {})
        part? := none } := by
  cases hpart : st.closeQuestion.closeText.part? with
  | none =>
      rw [closeSection_of_none hpart]
      simp [ensurePage, wholePage?, hpart]
  | some part =>
      rw [closeSection_of_some hpart]
      simp [ensurePage, wholePage?, addSection, hpart]

/-- A page that is closed goes to the open block with the section that is closed. -/
theorem closePage_of_wholePage? {st : State} {page : Page}
    (h : st.closeQuestion.closeText.wholePage? = some page) : st.closePage
      = { st.closeQuestion.closeText.addPage page st.closeQuestion.closeText.pageCount with
          page? := none, part? := none } := by
  obtain ⟨opened, hopened, rfl⟩ := Option.map_eq_some_iff.mp h
  cases hpart : st.closeQuestion.closeText.part? with
  | none =>
      have hpage : st.closeSection.page? = some opened := by rw [closeSection_of_none hpart, hopened]
      rw [closePage_of_some hpage, closeSection_of_none hpart]
      simp [addPage, hpart]
  | some part =>
      have hpage : st.closeSection.page?
          = some { opened with sections := opened.sections ++ [part] } := by
        simp [closeSection_of_some hpart, addSection, ensurePage, hopened]
      rw [closePage_of_some hpage, closeSection_of_some hpart]
      simp [addPage, addSection, ensurePage, pageCount]

/-- Where nothing is open only what is pending is closed. -/
theorem closePage_of_vacant {st : State} (hpage : st.closeQuestion.closeText.page? = none)
    (hpart : st.closeQuestion.closeText.part? = none) :
    st.closePage = st.closeQuestion.closeText := by
  have hclosed := closeSection_of_none hpart
  rw [closePage_of_none (by rw [hclosed, hpage]), hclosed]

/-- A page that is closed is none of the open containers any more. -/
theorem closePage_facts {st : State}
    (h : st.closeQuestion.closeText.page? = none → st.closeQuestion.closeText.part? = none) :
    st.closePage.blocks = st.closeQuestion.closeText.blocks ∧
      st.closePage.isImplicit = st.closeQuestion.closeText.isImplicit ∧
      st.closePage.block = { st.closeQuestion.closeText.block with
        pages := st.closeQuestion.closeText.openPages } ∧
      st.closePage.page? = none ∧ st.closePage.part? = none := by
  cases hpage : st.closeQuestion.closeText.page? with
  | none =>
      rw [closePage_of_vacant hpage (h hpage)]
      exact ⟨rfl, rfl, by simp [openPages, wholePage?, hpage], hpage, h hpage⟩
  | some page =>
      obtain ⟨whole, hwhole⟩ : ∃ whole, st.closeQuestion.closeText.wholePage? = some whole := by
        rw [wholePage?, hpage]
        exact ⟨_, rfl⟩
      rw [closePage_of_wholePage? hwhole]
      exact ⟨rfl, rfl, by rw [openPages, hwhole]; rfl, rfl, rfl⟩

/-! ## Every line -/

/-- **What a line does to the containers.** -/
inductive Arranges (raw : Text) (st : State) : State → Prop where
  /-- The line fills them. -/
  | fills {st' : State}
      (hother : ∀ line, st.lineOf? raw = some line → line.kind.isArranging = false)
      (h : Fills st st') : Arranges raw st st'
  /-- A page begins. -/
  | page {line : Line} (hline : st.lineOf? raw = some line) (hkind : line.kind = .page) :
      Arranges raw st { st.quiet.closePage with page? := some { title := line.value } }
  /-- A block begins. -/
  | block {line : Line} (hline : st.lineOf? raw = some line) (hkind : line.kind = .block) :
      Arranges raw st
        { st.quiet.closeBlock with block := { name := line.value }, isImplicit := false }
  /-- A section begins. -/
  | heading {line : Line} (hline : st.lineOf? raw = some line) (hkind : line.kind = .heading) :
      Arranges raw st
        { st.quiet.closeSection.ensurePage with part? := some { title := some line.value } }
  /-- The open page has a level. -/
  | level {line : Line} {keyword : Text} {level : Nat} (hline : st.lineOf? raw = some line)
      (hkind : line.kind = .navigation keyword level) :
      Arranges raw st (st.quiet.readLevel level)

/-- Lines that are classified. -/
private theorem arranges_readLine {number : Nat} {raw : Text} {after : List Text} {st : State}
    {line : Line} (hline : st.lineOf? raw = some line) :
    Arranges raw st (st.readLine number line raw after) := by
  have hquiet := Fills.quiet st
  have hfills : ∀ {st' : State}, line.kind.isArranging = false → Fills st st' →
      Arranges raw st st' := fun hkind h => .fills
    (fun other hother => Option.some.inj (hline.symm.trans hother) ▸ hkind) h
  cases hkind : line.kind with
  | text =>
      simp only [readLine, hkind]
      exact hfills (by rw [hkind]; rfl) (.readText raw st)
  | blank =>
      simp only [readLine, hkind]
      exact hfills (by rw [hkind]; rfl) (hquiet.trans (.readBlank _))
  | page =>
      simp only [readLine, hkind]
      exact .page hline hkind
  | block =>
      simp only [readLine, hkind]
      exact .block hline hkind
  | heading =>
      simp only [readLine, hkind]
      exact .heading hline hkind
  | question =>
      simp only [readLine, hkind]
      exact hfills (by rw [hkind]; rfl) (hquiet.trans (.readQuestion _ _ _))
  | navigation keyword level =>
      simp only [readLine, hkind]
      exact .level hline hkind
  | computation computed =>
      simp only [readLine, hkind]
      exact hfills (by rw [hkind]; rfl) (hquiet.trans (.readComputation _ _))
  | showIf =>
      simp only [readLine, hkind]
      exact hfills (by rw [hkind]; rfl) (hquiet.trans (.assign _ _ _ _ _))
  | tooltip =>
      simp only [readLine, hkind]
      exact hfills (by rw [hkind]; rfl) (hquiet.trans (.readTooltip _ _ _))
  | _ =>
      simp only [readLine, hkind]
      refine hfills (by rw [hkind]; rfl) ?_
      split
      · exact hquiet
      · rename_i question hquestion
        obtain ⟨hcapture, -, -, hclassify⟩ := lineOf?_eq_some.mp hline
        have haffects : Affects number line question st.quiet
            (st.quiet.readInside number line question) :=
          Affects.readInside hquestion hcapture (isProper_of_classify hclassify)
        obtain ⟨next, selection?, capture?, cause?, -, heffect⟩ := haffects
        change Fills st (st.quiet.readInside number line question)
        rw [heffect]
        exact hquiet.trans (.affected _ _ _ _ _ _)

/-- **Every line that is read does one of these things to the containers.** -/
theorem read_arranges {number : Nat} {raw : Text} {after : List Text} {st st' : State}
    (h : st.read number raw after = .ok st') : Arranges raw st st' := by
  cases hcapture : st.capture? with
  | some capture =>
      rw [read_of_capture raw hcapture] at h
      exact Except.ok.inj h ▸ .fills (by simp [lineOf?, hcapture]) (.readQuoted capture raw st)
  | none =>
      by_cases hfence : hasStart fence (trim raw) = true
      · rw [read_of_fence hcapture hfence] at h
        have hturned : Fills st { st with isFenced := !st.isFenced } :=
          .alike ⟨rfl, rfl, rfl, rfl, rfl, rfl, rfl⟩ id
        exact Except.ok.inj h ▸ .fills (by simp [lineOf?, hfence]) (hturned.trans (.readText raw _))
      · rw [Bool.not_eq_true] at hfence
        cases hfenced : st.isFenced with
        | true =>
            rw [read_of_isFenced hcapture hfence hfenced] at h
            exact Except.ok.inj h ▸ .fills (by simp [lineOf?, hfenced]) (.readText raw st)
        | false =>
            rw [read_of_classify hcapture hfence hfenced] at h
            obtain ⟨line, hclassify, rfl⟩ := Except.map_eq_ok h
            exact arranges_readLine (lineOf?_eq_some.mpr ⟨hcapture, hfence, hfenced, hclassify⟩)

/-! ## Pages stay at their places -/

/-- The finished pages. -/
def finishedPages (st : State) : List Page := st.blocks.flatMap Block.pages ++ st.block.pages

theorem length_finishedPages (st : State) : st.finishedPages.length = st.pageCount :=
  List.length_append

/-- The pages of a state, the open one last. -/
def pages (st : State) : List Page := st.finishedPages ++ st.page?.toList

theorem getElem?_pages {st : State} {page : Page} (h : st.page? = some page) :
    st.pages[st.pageCount]? = some page := by
  rw [pages, h, Option.toList_some, ← length_finishedPages, List.getElem?_concat_length]

/-- Where no page is finished the open one goes on. -/
theorem stands_pages {st st' : State} (hfinished : st'.finishedPages = st.finishedPages)
    (hpage : ∀ page, st.page? = some page → ∃ next, st'.page? = some next ∧ page.Continues next) :
    Stands Page.Continues st.pages st'.pages := by
  rw [pages, pages, hfinished]
  exact .last .refl _ hpage

theorem stands_ensurePage (st : State) : Stands Page.Continues st.pages st.ensurePage.pages :=
  stands_pages rfl fun page hpage => ⟨page, by rw [ensurePage, hpage]; rfl, .refl page⟩

theorem stands_sameContainers {st st' : State} (h : SameContainers st st') :
    Stands Page.Continues st.pages st'.pages := by
  refine stands_pages ?_ fun page hpage => ?_
  · rw [finishedPages, finishedPages, h.blocks, (Block.bare_eq_iff.mp h.block).2]
  · have hbare := h.page
    rw [hpage] at hbare
    obtain ⟨next, hnext, hbare⟩ := Option.map_eq_some_iff.mp hbare
    exact ⟨next, hnext, .of_bare hbare⟩

theorem Fills.stands {st st' : State} (h : Fills st st') :
    Stands Page.Continues st.pages st'.pages := by
  induction h with
  | refl => exact .refl .refl _
  | @tail middle last _ hlast ih =>
      refine ih.trans ?_ Page.Continues.trans
      cases hlast with
      | alike hsame _ => exact stands_sameContainers hsame
      | page hpage => exact hpage ▸ stands_ensurePage middle
      | item item hsame =>
          have hitem : Stands Page.Continues middle.pages (middle.addItem item).pages :=
            stands_ensurePage middle
          exact hitem.trans (stands_sameContainers hsame) Page.Continues.trans
      | question hsame _ =>
          have hopen : Stands Page.Continues middle.pages middle.openSection.pages :=
            stands_ensurePage middle
          exact hopen.trans (stands_sameContainers hsame) Page.Continues.trans

theorem stands_closeSection (st : State) :
    Stands Page.Continues st.pages st.closeSection.pages := by
  refine (Fills.settle st).stands.trans ?_ Page.Continues.trans
  cases hpart : st.closeQuestion.closeText.part? with
  | none =>
      rw [closeSection_of_none hpart]
      exact .refl .refl _
  | some part =>
      rw [closeSection_of_some hpart]
      refine stands_pages rfl fun page hpage => ?_
      refine ⟨{ page with sections := page.sections ++ [part] }, ?_, rfl, List.prefix_append _ _⟩
      simp [addSection, ensurePage, hpage]

/-- A page that is closed stays at its place. -/
theorem stands_closePage (st : State) : Stands Page.Continues st.pages st.closePage.pages := by
  refine (stands_closeSection st).trans ?_ Page.Continues.trans
  cases hpage : st.closeSection.page? with
  | none =>
      rw [closePage_of_none hpage]
      exact .refl .refl _
  | some page =>
      have hsame : st.closePage.pages = st.closeSection.pages := by
        rw [closePage_of_some hpage]
        simp [pages, finishedPages, addPage, hpage]
      rw [hsame]
      exact .refl .refl _

theorem finishedPages_closeBlock (st : State) :
    st.closeBlock.finishedPages = st.closePage.finishedPages := by
  rw [closeBlock]
  generalize st.closePage = closed
  by_cases hvacant : (closed.isImplicit && closed.block.isVacant) = true
  · have hpages : closed.block.pages = [] := by
      simp only [Bool.and_eq_true, Block.isVacant, List.isEmpty_iff] at hvacant
      exact hvacant.2.1.1
    simp [finishedPages, hvacant, hpages]
  · simp [finishedPages, hvacant]

theorem stands_closeBlock (st : State) : Stands Page.Continues st.pages st.closeBlock.pages := by
  refine (stands_closePage st).trans (stands_pages (finishedPages_closeBlock st) ?_)
    Page.Continues.trans
  exact fun page hpage => by simp at hpage

/-- **Every line leaves each page at its place.** -/
theorem stands_read {number : Nat} {raw : Text} {after : List Text} {st st' : State}
    (h : st.read number raw after = .ok st') : Stands Page.Continues st.pages st'.pages := by
  have hquiet := (Fills.quiet st).stands
  cases read_arranges h with
  | fills _ hfills => exact hfills.stands
  | @page line _ _ =>
      have hpages : pages { st.quiet.closePage with page? := some { title := line.value } }
          = st.quiet.closePage.pages ++ [{ title := line.value }] := by
        simp [pages, finishedPages]
      rw [hpages]
      exact (hquiet.trans (stands_closePage _) Page.Continues.trans).trans (.of_append .refl _ _)
        Page.Continues.trans
  | block _ _ => exact hquiet.trans (stands_closeBlock _) Page.Continues.trans
  | heading _ _ =>
      have hsection := hquiet.trans (stands_closeSection _) Page.Continues.trans
      exact hsection.trans (stands_ensurePage _) Page.Continues.trans
  | level _ _ =>
      refine hquiet.trans ?_ Page.Continues.trans
      rw [readLevel]
      split
      · exact .refl .refl _
      · exact stands_ensurePage _

/-! ## The end -/

/-- At the end all pages are finished. -/
theorem pages_survey (name : Text) (st : State) :
    (st.finish.survey name).pages.map Prod.snd = st.finish.finishedPages := by
  have hclose : ∀ st : State,
      (st.closeBlock.survey name).pages.map Prod.snd = st.closeBlock.finishedPages := by
    intro st
    simp [Survey.pages, survey, finishedPages, State.closeBlock, List.map_flatMap,
      Function.comp_def]
  rw [finish]
  split <;> exact hclose _

/-- Open quotes are closed with a warning, and then everything is. -/
theorem finish_cases (st : State) : ∃ last, Fills st last ∧ st.finish = last.closeBlock := by
  rw [finish]
  split
  · exact ⟨st, .refl st, rfl⟩
  · rename_i capture _
    have hwarned : Fills st (st.warn capture.line .unclosed) :=
      .alike ⟨rfl, rfl, rfl, rfl, rfl, rfl, rfl⟩ id
    exact ⟨_, hwarned.trans (.endCapture capture _), rfl⟩

end State
end Source
end Questionnaire
