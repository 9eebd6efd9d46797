import Questionnaire.Proofs.Source.Apart

/-!
# Reading from two states

Two states that are one attribute apart stay so whatever is read into both of
them (`Apart.readAll`): no line looks at the value of an attribute that may be
written over several lines. The attribute moves outwards with what it belongs
to, from the open question to the finished blocks.
-/

namespace Questionnaire.Source.State

open Text

/-- Two states that differ in one attribute of one holder, if at all: in the open
question, in a container around it, or in a finished block. -/
inductive Apart (edit : Edit) (holder : Holder) : State → State → Prop where
  /-- The states are the same. -/
  | same (st : State) : Apart edit holder st st
  /-- The open questions differ. -/
  | question (st : State) {question question' : Question}
      (h : Question.Apart edit holder question question') :
      Apart edit holder { st with question? := some question }
        { st with question? := some question' }
  /-- The open sections differ. -/
  | part (st : State) {part part' : Section} (h : Section.Apart edit holder part part') :
      Apart edit holder { st with part? := some part } { st with part? := some part' }
  /-- The open pages differ. -/
  | page (st : State) {page page' : Page} (h : Page.Apart edit holder page page') :
      Apart edit holder { st with page? := some page } { st with page? := some page' }
  /-- The open blocks differ. -/
  | block (st : State) {block block' : Block} (h : Block.Apart edit holder block block') :
      Apart edit holder { st with block := block } { st with block := block' }
  /-- The finished blocks differ. -/
  | blocks (st : State) {blocks blocks' : List Block}
      (h : OneApart (Block.Apart edit holder) blocks blocks') :
      Apart edit holder { st with blocks := blocks } { st with blocks := blocks' }

/-- What holds the questions of a state: everything that is open, and the finished
blocks. -/
structure Containers where
  /-- The open question. -/
  question? : Option Question
  /-- The open section. -/
  part? : Option Section
  /-- The open page. -/
  page? : Option Page
  /-- The open block. -/
  block : Block
  /-- The finished blocks. -/
  blocks : List Block

/-- The containers of a state. -/
def containers (st : State) : Containers :=
  ⟨st.question?, st.part?, st.page?, st.block, st.blocks⟩

/-- The state with other containers. -/
def hold (held : Containers) (st : State) : State :=
  { st with
    question? := held.question?, part? := held.part?, page? := held.page?, block := held.block
    blocks := held.blocks }

/-- A change that neither looks at the containers nor changes them. -/
def PassesBy (f : State → State) : Prop :=
  ∀ (st : State) (held : Containers), f (st.hold held) = (f st).hold held

/-! ## Closing containers step by step -/

theorem closeQuestion_of_some {st : State} {question : Question}
    (h : st.question? = some question) : st.closeQuestion
      = { st.addItem (.question question.settled) with
          question? := none, selection? := none, textOpen := false } := by
  rw [closeQuestion, h]
  rfl

theorem closeSection_of_none {st : State} (h : st.closeQuestion.closeText.part? = none) :
    st.closeSection = st.closeQuestion.closeText := by
  simp only [closeSection, h]

/-- The state with a section added to the open page. -/
def addSection (part : Section) (st : State) : State :=
  { st.ensurePage with
    page? := st.ensurePage.page?.map fun page => { page with sections := page.sections ++ [part] } }

theorem closeSection_of_some {st : State} {part : Section}
    (h : st.closeQuestion.closeText.part? = some part) : st.closeSection
      = { st.closeQuestion.closeText.addSection part with part? := none } := by
  simp only [closeSection, h]
  rfl

theorem closePage_of_none {st : State} (h : st.closeSection.page? = none) :
    st.closePage = st.closeSection := by
  simp only [closePage, h]

/-- The state with a page added to the open block and, with its position, to the
entry that runs. -/
def addPage (page : Page) (position : Nat) (st : State) : State :=
  { st with
    block := { st.block with pages := st.block.pages ++ [page] }
    entries := changeLast (fun entry => { entry with pages := entry.pages ++ [position] })
      st.entries
    isListed := false }

theorem closePage_of_some {st : State} {page : Page} (h : st.closeSection.page? = some page) :
    st.closePage
      = { st.closeSection.addPage page st.closeSection.pageCount with page? := none } := by
  simp only [closePage, h]
  rfl

namespace Apart

variable {edit : Edit} {holder : Holder} {st st' : State}

/-! ## What is the same -/

theorem pending_eq (h : Apart edit holder st st') : st.pending = st'.pending := by
  cases h <;> rfl

theorem selection?_eq (h : Apart edit holder st st') : st.selection? = st'.selection? := by
  cases h <;> rfl

theorem count_eq (h : Apart edit holder st st') : st.count = st'.count := by
  cases h <;> rfl

theorem textOpen_eq (h : Apart edit holder st st') : st.textOpen = st'.textOpen := by
  cases h <;> rfl

theorem capture?_eq (h : Apart edit holder st st') : st.capture? = st'.capture? := by
  cases h <;> rfl

theorem isFenced_eq (h : Apart edit holder st st') : st.isFenced = st'.isFenced := by
  cases h <;> rfl

theorem isListed_eq (h : Apart edit holder st st') : st.isListed = st'.isListed := by
  cases h <;> rfl

theorem warnings_eq (h : Apart edit holder st st') : st.warnings = st'.warnings := by
  cases h <;> rfl

/-- The same question is open, or one that is apart from it, or none in both. -/
theorem question?_cases (h : Apart edit holder st st') :
    (st.question? = none ∧ st'.question? = none) ∨ ∃ question question',
      st.question? = some question ∧ st'.question? = some question' ∧
        question.SameOutline question' := by
  have hsame : ∀ question? : Option Question, (question? = none ∧ question? = none) ∨
      ∃ question question', question? = some question ∧ question? = some question' ∧
        question.SameOutline question' := by
    intro question?
    cases question? with
    | none => exact .inl ⟨rfl, rfl⟩
    | some question => exact .inr ⟨question, question, rfl, rfl, .refl question⟩
  cases h with
  | question st h => exact .inr ⟨_, _, rfl, rfl, h.sameOutline⟩
  | _ => exact hsame _

theorem isSome_question? (h : Apart edit holder st st') :
    st.question?.isSome = st'.question?.isSome := by
  cases h <;> rfl

theorem context_eq (h : Apart edit holder st st') : st.context = st'.context := by
  rw [context, context, ← h.selection?_eq]
  rcases h.question?_cases with ⟨hst, hst'⟩ | ⟨_, _, hst, hst', _⟩
  · rw [hst, hst']
  · rw [hst, hst']
    rcases st.selection? with _ | _ | _ <;> rfl

/-! ## Changing what is open -/

theorem change (f : State → State) (hf : PassesBy f) (h : Apart edit holder st st') :
    Apart edit holder (f st) (f st') := by
  cases h with
  | same st => exact .same _
  | @question st old old' h =>
      -- `f` sees both states as one with a container set, and sets it again behind itself.
      have hput : ∀ question?, f { st with question? := question? }
          = { (f st).hold st.containers with question? := question? } :=
        fun question? => hf st { st.containers with question? := question? }
      rw [hput (some old), hput (some old')]
      exact .question ((f st).hold st.containers) h
  | @part st old old' h =>
      have hput : ∀ part?, f { st with part? := part? }
          = { (f st).hold st.containers with part? := part? } :=
        fun part? => hf st { st.containers with part? := part? }
      rw [hput (some old), hput (some old')]
      exact .part ((f st).hold st.containers) h
  | @page st old old' h =>
      have hput : ∀ page?, f { st with page? := page? }
          = { (f st).hold st.containers with page? := page? } :=
        fun page? => hf st { st.containers with page? := page? }
      rw [hput (some old), hput (some old')]
      exact .page ((f st).hold st.containers) h
  | @block st old old' h =>
      have hput : ∀ block, f { st with block := block }
          = { (f st).hold st.containers with block := block } :=
        fun block => hf st { st.containers with block := block }
      rw [hput old, hput old']
      exact .block ((f st).hold st.containers) h
  | @blocks st old old' h =>
      have hput : ∀ blocks, f { st with blocks := blocks }
          = { (f st).hold st.containers with blocks := blocks } :=
        fun blocks => hf st { st.containers with blocks := blocks }
      rw [hput old, hput old']
      exact .blocks ((f st).hold st.containers) h

theorem warn (h : Apart edit holder st st') (line : Nat) (cause : Cause) :
    Apart edit holder (st.warn line cause) (st'.warn line cause) :=
  h.change (State.warn line cause) fun _ _ => rfl

theorem setQuestion (h : Apart edit holder st st') (question? : Option Question) :
    Apart edit holder { st with question? := question? } { st' with question? := question? } := by
  cases h with
  | same st => exact .same _
  | question st h => exact .same _
  | part st h => exact .part { st with question? := question? } h
  | page st h => exact .page { st with question? := question? } h
  | block st h => exact .block { st with question? := question? } h
  | blocks st h => exact .blocks { st with question? := question? } h

theorem setPart (h : Apart edit holder st st') (part? : Option Section) :
    Apart edit holder { st with part? := part? } { st' with part? := part? } := by
  cases h with
  | same st => exact .same _
  | question st h => exact .question { st with part? := part? } h
  | part st h => exact .same _
  | page st h => exact .page { st with part? := part? } h
  | block st h => exact .block { st with part? := part? } h
  | blocks st h => exact .blocks { st with part? := part? } h

theorem setPage (h : Apart edit holder st st') (page? : Option Page) :
    Apart edit holder { st with page? := page? } { st' with page? := page? } := by
  cases h with
  | same st => exact .same _
  | question st h => exact .question { st with page? := page? } h
  | part st h => exact .part { st with page? := page? } h
  | page st h => exact .same _
  | block st h => exact .block { st with page? := page? } h
  | blocks st h => exact .blocks { st with page? := page? } h

theorem setBlock (h : Apart edit holder st st') (block : Block) :
    Apart edit holder { st with block := block } { st' with block := block } := by
  cases h with
  | same st => exact .same _
  | question st h => exact .question { st with block := block } h
  | part st h => exact .part { st with block := block } h
  | page st h => exact .page { st with block := block } h
  | block st h => exact .same _
  | blocks st h => exact .blocks { st with block := block } h

theorem mapQuestion {change : Question → Question}
    (hchange : ∀ question question', Question.Apart edit holder question question' →
      Question.Apart edit holder (change question) (change question'))
    (h : Apart edit holder st st') :
    Apart edit holder (st.mapQuestion change) (st'.mapQuestion change) := by
  cases h with
  | same st => exact .same _
  | question st h => exact .question st (hchange _ _ h)
  | part st h => exact .part (st.mapQuestion change) h
  | page st h => exact .page (st.mapQuestion change) h
  | block st h => exact .block (st.mapQuestion change) h
  | blocks st h => exact .blocks (st.mapQuestion change) h

theorem mapPart {change : Section → Section}
    (hchange : ∀ part part', Section.Apart edit holder part part' →
      Section.Apart edit holder (change part) (change part'))
    (h : Apart edit holder st st') :
    Apart edit holder { st with part? := st.part?.map change }
      { st' with part? := st'.part?.map change } := by
  cases h with
  | same st => exact .same _
  | question st h => exact .question { st with part? := st.part?.map change } h
  | part st h => exact .part st (hchange _ _ h)
  | page st h => exact .page { st with part? := st.part?.map change } h
  | block st h => exact .block { st with part? := st.part?.map change } h
  | blocks st h => exact .blocks { st with part? := st.part?.map change } h

theorem mapPage {change : Page → Page}
    (hchange : ∀ page page', Page.Apart edit holder page page' →
      Page.Apart edit holder (change page) (change page'))
    (h : Apart edit holder st st') :
    Apart edit holder { st with page? := st.page?.map change }
      { st' with page? := st'.page?.map change } := by
  cases h with
  | same st => exact .same _
  | question st h => exact .question { st with page? := st.page?.map change } h
  | part st h => exact .part { st with page? := st.page?.map change } h
  | page st h => exact .page st (hchange _ _ h)
  | block st h => exact .block { st with page? := st.page?.map change } h
  | blocks st h => exact .blocks { st with page? := st.page?.map change } h

theorem mapBlock {change : Block → Block}
    (hchange : ∀ block block', Block.Apart edit holder block block' →
      Block.Apart edit holder (change block) (change block'))
    (h : Apart edit holder st st') :
    Apart edit holder { st with block := change st.block }
      { st' with block := change st'.block } := by
  cases h with
  | same st => exact .same _
  | question st h => exact .question { st with block := change st.block } h
  | part st h => exact .part { st with block := change st.block } h
  | page st h => exact .page { st with block := change st.block } h
  | block st h => exact .block st (hchange _ _ h)
  | blocks st h => exact .blocks { st with block := change st.block } h

theorem mapBody {change : Body → Body}
    (hchange : ∀ body body', Body.Apart edit holder body body' →
      Body.Apart edit holder (change body) (change body'))
    (h : Apart edit holder st st') :
    Apart edit holder (st.mapBody change) (st'.mapBody change) :=
  h.mapQuestion fun _ _ => Question.Apart.mapBody hchange

/-! ## Opening and closing containers -/

theorem ensurePage (h : Apart edit holder st st') :
    Apart edit holder st.ensurePage st'.ensurePage := by
  cases h with
  | same st => exact .same _
  | question st h => exact .question st.ensurePage h
  | part st h => exact .part st.ensurePage h
  | page st h => exact .page st h
  | block st h => exact .block st.ensurePage h
  | blocks st h => exact .blocks st.ensurePage h

theorem ensurePart (h : Apart edit holder st st') :
    Apart edit holder { st with part? := some (st.part?.getD {}) }
      { st' with part? := some (st'.part?.getD {}) } := by
  cases h with
  | same st => exact .same _
  | question st h => exact .question { st with part? := some (st.part?.getD {}) } h
  | part st h => exact .part st h
  | page st h => exact .page { st with part? := some (st.part?.getD {}) } h
  | block st h => exact .block { st with part? := some (st.part?.getD {}) } h
  | blocks st h => exact .blocks { st with part? := some (st.part?.getD {}) } h

theorem addItem (h : Apart edit holder st st') (item : Item) :
    Apart edit holder (st.addItem item) (st'.addItem item) := by
  cases h with
  | same st => exact .same _
  | question st h => exact .question (st.addItem item) h
  | part st h => exact .part st.ensurePage (h.addItem item)
  | page st h => exact .page (st.addItem item) h
  | block st h => exact .block (st.addItem item) h
  | blocks st h => exact .blocks (st.addItem item) h

/-- A question that is closed takes the difference into the section. -/
theorem closeQuestion (h : Apart edit holder st st') :
    Apart edit holder st.closeQuestion st'.closeQuestion := by
  have hstay : st.question? = st'.question? →
      Apart edit holder st.closeQuestion st'.closeQuestion := by
    intro hsame
    rw [State.closeQuestion, State.closeQuestion, ← hsame]
    split
    · exact h
    · exact ((h.addItem _).setQuestion none).change
        (fun st => { st with selection? := none, textOpen := false }) fun _ _ => rfl
  -- Only a difference in the open question moves; any other one stays where it is.
  cases h with
  | question st h =>
      rw [closeQuestion_of_some rfl, closeQuestion_of_some rfl]
      exact .part { st.ensurePage with question? := none, selection? := none, textOpen := false }
        (.items (st.part?.getD {})
          (OneApart.concat _ (.question (h.mapBody fun _ _ => Body.Apart.settled))))
  | _ => exact hstay rfl

theorem closeText (h : Apart edit holder st st') :
    Apart edit holder st.closeText st'.closeText := by
  rw [State.closeText, State.closeText, ← h.pending_eq]
  split
  · exact h.change (fun st => { st with pending := [] }) fun _ _ => rfl
  · exact (h.addItem _).change (fun st => { st with pending := [] }) fun _ _ => rfl

/-- The open sections are the same, or they are where the difference is. -/
theorem part?_cases (h : Apart edit holder st st') :
    st.part? = st'.part? ∨ ∃ (base : State) (part part' : Section),
      Section.Apart edit holder part part' ∧
        st = { base with part? := some part } ∧ st' = { base with part? := some part' } := by
  cases h with
  | part st h => exact .inr ⟨st, _, _, h, rfl, rfl⟩
  | _ => exact .inl rfl

/-- The open pages are the same, or they are where the difference is. -/
theorem page?_cases (h : Apart edit holder st st') :
    st.page? = st'.page? ∨ ∃ (base : State) (page page' : Page),
      Page.Apart edit holder page page' ∧
        st = { base with page? := some page } ∧ st' = { base with page? := some page' } := by
  cases h with
  | page st h => exact .inr ⟨st, _, _, h, rfl, rfl⟩
  | _ => exact .inl rfl

theorem addSection (h : Apart edit holder st st') (part : Section) :
    Apart edit holder (st.addSection part) (st'.addSection part) :=
  h.ensurePage.mapPage fun _ _ h => h.addSection part

/-- A section that is closed takes the difference into the page. -/
theorem closeSection (h : Apart edit holder st st') :
    Apart edit holder st.closeSection st'.closeSection := by
  have hclosed := h.closeQuestion.closeText
  -- Whatever holds the difference, sections are closed in both states or in none.
  rcases hclosed.part?_cases with hsame | ⟨base, part, part', hpart, hst, hst'⟩
  · cases hpart : st.closeQuestion.closeText.part? with
    | none =>
        rw [closeSection_of_none hpart, closeSection_of_none (hsame.symm.trans hpart)]
        exact hclosed
    | some part =>
        rw [closeSection_of_some hpart, closeSection_of_some (hsame.symm.trans hpart)]
        exact (hclosed.addSection part).setPart none
  · rw [closeSection_of_some (congrArg State.part? hst),
      closeSection_of_some (congrArg State.part? hst'), hst, hst']
    exact .page { base with part? := none }
      (.sections (base.page?.getD {}) (OneApart.concat _ hpart))

theorem pageCount_eq (h : Apart edit holder st st') : st.pageCount = st'.pageCount := by
  cases h with
  | block st h => simp only [pageCount, h.length_pages]
  | blocks st h =>
      -- The pages may differ, but not in number: the positions of entries count them.
      have hlength : ∀ {blocks blocks' : List Block},
          OneApart (Block.Apart edit holder) blocks blocks' →
            (blocks.flatMap Block.pages).length = (blocks'.flatMap Block.pages).length := by
        intro blocks blocks' h
        induction h with
        | same blocks => rfl
        | here rest h => simp only [List.flatMap_cons, List.length_append, h.length_pages]
        | there block _ ih => simp only [List.flatMap_cons, List.length_append, ih]
      simp only [pageCount, hlength h]
  | _ => rfl

theorem addPage (h : Apart edit holder st st') (page : Page) (position : Nat) :
    Apart edit holder (st.addPage page position) (st'.addPage page position) :=
  (h.mapBlock fun _ _ h => h.addPage page).change
    (fun st => { st with
      entries := changeLast (fun entry => { entry with pages := entry.pages ++ [position] })
        st.entries
      isListed := false }) fun _ _ => rfl

/-- A page that is closed takes the difference into the block. -/
theorem closePage (h : Apart edit holder st st') :
    Apart edit holder st.closePage st'.closePage := by
  have hclosed := h.closeSection
  have hcount := hclosed.pageCount_eq
  rcases hclosed.page?_cases with hsame | ⟨base, page, page', hpage, hst, hst'⟩
  · cases hpage : st.closeSection.page? with
    | none =>
        rw [closePage_of_none hpage, closePage_of_none (hsame.symm.trans hpage)]
        exact hclosed
    | some page =>
        rw [closePage_of_some hpage, closePage_of_some (hsame.symm.trans hpage), ← hcount]
        exact (hclosed.addPage page _).setPage none
  · rw [closePage_of_some (congrArg State.page? hst),
      closePage_of_some (congrArg State.page? hst'), ← hcount, hst, hst']
    exact .block { base.addPage page _ with page? := none }
      (.pages base.block (OneApart.concat _ hpage))

/-- A block that is closed takes the difference to the finished blocks. -/
theorem closeBlock (h : Apart edit holder st st') :
    Apart edit holder st.closeBlock st'.closeBlock := by
  have hclosed := h.closePage
  rw [State.closeBlock, State.closeBlock]
  generalize st.closePage = t at hclosed ⊢
  generalize st'.closePage = t' at hclosed ⊢
  cases hclosed with
  | same t => exact .same _
  | question t h => exact .question { t with blocks := _, block := {}, isImplicit := true } h
  | part t h => exact .part { t with blocks := _, block := {}, isImplicit := true } h
  | page t h => exact .page { t with blocks := _, block := {}, isImplicit := true } h
  | block t h =>
      -- A block with a condition is not vacant, whatever the condition says.
      simp only [h.isVacant_eq]
      split
      · exact .same _
      · exact .blocks { t with block := {}, isImplicit := true } (OneApart.concat _ h)
  | blocks t h =>
      show Apart edit holder { t with blocks := if _ then _ else _, block := _, isImplicit := _ }
        { t with blocks := if _ then _ else _, block := _, isImplicit := _ }
      split
      · exact .blocks { t with block := {}, isImplicit := true } h
      · exact .blocks { t with block := {}, isImplicit := true } (h.append_right [t.block])

end Apart

end Questionnaire.Source.State
