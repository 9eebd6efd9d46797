import Questionnaire.Proofs.Source.Navigation
import Questionnaire.Proofs.Source.Renumbering

/-!
# Reading behind what has been read

A state in the middle of a source is a fresh one put behind what has been read
before it (`State.behind`): the finished blocks stand before its own, its
questions and pages are counted from theirs on, and its pages that come before
its first navigation entry go to the last entry before. Every line does the same
to both (`behind_read`), so a run behind something is the fresh run put behind it
(`behind_readAll`, `behind_finish`).
-/

namespace Questionnaire.Source

open Text Decimal

/-- What has been read before a block. -/
structure Before where
  /-- The finished blocks. -/
  blocks : List Block
  /-- The navigation entries. -/
  entries : List Entry
  /-- The number of questions. -/
  count : Nat
  /-- The number of lines. -/
  lines : Nat
  /-- The warnings. -/
  warnings : List Warning

namespace Before

/-- The number of pages. -/
def pages (before : Before) : Nat := (before.blocks.flatMap Block.pages).length

/-- The navigation entries, the last of which has got `lead` more pages. -/
def entriesWith (before : Before) (lead : Nat) : List Entry :=
  changeLast (fun entry =>
    { entry with pages := entry.pages ++ (List.range lead).map (before.pages + ·) }) before.entries

@[simp] theorem entriesWith_zero (before : Before) : before.entriesWith 0 = before.entries := by
  rw [entriesWith]
  rcases List.eq_nil_or_concat before.entries with h | ⟨front, last, h⟩
  · rw [h]
    rfl
  · rw [h]
    simp

theorem entriesWith_succ (before : Before) (lead : Nat) :
    before.entriesWith (lead + 1) =
      changeLast (fun entry => { entry with pages := entry.pages ++ [before.pages + lead] })
        (before.entriesWith lead) := by
  rw [entriesWith, entriesWith]
  rcases List.eq_nil_or_concat before.entries with h | ⟨front, last, h⟩
  · rw [h]
    rfl
  · rw [h]
    simp [List.range_succ]

end Before

namespace State

/-- The number of pages before the first navigation entry. -/
def lead (st : State) : Nat :=
  match st.entries with
  | [] => st.pageCount
  | entry :: _ => entry.pages.headD st.pageCount

/-- **The state put behind what has been read before.** -/
def behind (before : Before) (st : State) : State :=
  { st with
    blocks := before.blocks ++ st.blocks.map (Block.renumber before.count)
    entries := before.entriesWith st.lead ++ st.entries.map (Entry.shift before.pages)
    block := st.block.renumber before.count
    page? := st.page?.map (Page.renumber before.count)
    part? := st.part?.map (Section.renumber before.count)
    question? := st.question?.map (Question.renumber before.count)
    count := before.count + st.count
    capture? := st.capture?.map (Capture.later before.lines)
    warnings := before.warnings ++ st.warnings.map (Warning.later before.lines before.count) }

variable (before : Before) (st : State)

/-! ## What is open -/

@[simp] theorem question?_behind :
    (st.behind before).question? = st.question?.map (Question.renumber before.count) := rfl

@[simp] theorem part?_behind :
    (st.behind before).part? = st.part?.map (Section.renumber before.count) := rfl

@[simp] theorem page?_behind :
    (st.behind before).page? = st.page?.map (Page.renumber before.count) := rfl

@[simp] theorem context_behind : (st.behind before).context = st.context := by
  unfold context behind
  rcases st.question? with - | question
  · rfl
  · rcases st.selection? with - | - | - <;> rfl

@[simp] theorem lead_ensurePage : st.ensurePage.lead = st.lead := rfl

theorem behind_ensurePage : (st.behind before).ensurePage = st.ensurePage.behind before := by
  unfold ensurePage behind
  cases st.page? <;> rfl

theorem behind_addItem (item : Item) :
    (st.behind before).addItem (item.renumber before.count) = (st.addItem item).behind before := by
  unfold addItem ensurePage behind
  cases st.page? <;> cases st.part? <;> simp [lead, pageCount, Section.renumber, Page.renumber]

theorem behind_warn (line : Nat) {cause cause' : Cause} (h : cause' = cause.renumber before.count) :
    (st.behind before).warn (before.lines + line) cause'
      = (st.warn line cause).behind before := by
  simp [warn, behind, lead, pageCount, Warning.later, h]

theorem behind_mapQuestion {change change' : Question → Question}
    (h : ∀ question, change' (question.renumber before.count)
      = (change question).renumber before.count) :
    (st.behind before).mapQuestion change' = (st.mapQuestion change).behind before := by
  unfold mapQuestion behind
  cases st.question? with
  | none => rfl
  | some question => simp [h, lead, pageCount]

theorem behind_mapBody {change change' : Body → Body}
    (h : ∀ body : Body, change' (body.renumber before.count)
      = (change body).renumber before.count) :
    (st.behind before).mapBody change' = (st.mapBody change).behind before := by
  refine behind_mapQuestion before st fun question => ?_
  simp [Question.renumber, h]

theorem behind_setBody {body body' : Body} (h : body' = body.renumber before.count) :
    (st.behind before).mapBody (fun _ => body') = (st.mapBody fun _ => body).behind before :=
  behind_mapBody before st fun _ => h

theorem behind_mapOption (change : Choice → Choice) :
    (st.behind before).mapOption change = (st.mapOption change).behind before :=
  behind_mapBody before st fun body => body.mapOptions_renumber before.count _

theorem behind_mapRow {change : Row → Row}
    (h : ∀ row : Row, change (row.renumber before.count) = (change row).renumber before.count) :
    (st.behind before).mapRow change = (st.mapRow change).behind before :=
  behind_mapBody before st fun body => body.mapRows_renumber before.count
    fun rows => changeLast_map (fun row => (h row).symm) rows

theorem behind_addOptions (options : List Choice) :
    (st.behind before).addOptions options = (st.addOptions options).behind before := by
  rw [addOptions, addOptions,
    behind_mapBody before st fun body => body.mapOptions_renumber before.count _]
  rfl

theorem behind_write (holder : Holder) (aspect : Aspect) (value : Text) :
    (st.behind before).write holder aspect value
      = (st.write holder aspect value).behind before := by
  cases holder with
  | block => cases aspect <;> rfl
  | page =>
      cases aspect <;> unfold write behind <;> cases st.page? <;> rfl
  | heading =>
      cases aspect <;> unfold write behind <;> cases st.part? <;> rfl
  | question =>
      cases aspect <;> exact behind_mapQuestion before st fun _ => rfl
  | option => cases aspect <;> exact behind_mapOption before st _
  | row => cases aspect <;> exact behind_mapRow before st fun _ => rfl

/-! ## Closing containers -/

theorem behind_closeQuestion :
    (st.behind before).closeQuestion = st.closeQuestion.behind before := by
  cases hquestion : st.question? with
  | none =>
      have hnone : (st.behind before).question? = none := by simp [hquestion]
      simp only [closeQuestion, hquestion, hnone]
  | some question =>
      have hsome : (st.behind before).question? = some (question.renumber before.count) := by
        simp [hquestion]
      rw [closeQuestion_of_some hquestion, closeQuestion_of_some hsome]
      have hsettled : Item.question (question.renumber before.count).settled
          = (Item.question question.settled).renumber before.count := by
        simp only [Item.renumber, Question.settled, Question.renumber, Body.settled_renumber]
      rw [hsettled, behind_addItem]
      rfl

theorem behind_closeText : (st.behind before).closeText = st.closeText.behind before := by
  have hitem : ∀ text : Text, (st.behind before).addItem (.text text)
      = (st.addItem (.text text)).behind before := fun text => behind_addItem before st (.text text)
  have hpending : (st.behind before).pending = st.pending := rfl
  rw [closeText, closeText, hpending]
  split
  · rfl
  · rw [hitem]
    rfl

theorem behind_addSection (part : Section) :
    (st.behind before).addSection (part.renumber before.count)
      = (st.addSection part).behind before := by
  unfold addSection ensurePage behind
  cases st.page? <;> simp [lead, pageCount, Page.renumber]

theorem behind_closeSection : (st.behind before).closeSection = st.closeSection.behind before := by
  have hsettled : (st.behind before).closeQuestion.closeText
      = st.closeQuestion.closeText.behind before := by
    rw [behind_closeQuestion, behind_closeText]
  cases hpart : st.closeQuestion.closeText.part? with
  | none =>
      have hnone : (st.behind before).closeQuestion.closeText.part? = none := by
        rw [hsettled, part?_behind, hpart]
        rfl
      rw [closeSection_of_none hpart, closeSection_of_none hnone, hsettled]
  | some part =>
      have hsome : (st.behind before).closeQuestion.closeText.part?
          = some (part.renumber before.count) := by
        rw [hsettled, part?_behind, hpart]
        rfl
      rw [closeSection_of_some hpart, closeSection_of_some hsome, hsettled, behind_addSection]
      rfl

theorem pageCount_behind : (st.behind before).pageCount = before.pages + st.pageCount := by
  have hpages : ∀ blocks : List Block,
      ((blocks.map (Block.renumber before.count)).flatMap Block.pages).length
        = (blocks.flatMap Block.pages).length := by
    intro blocks
    simp [List.length_flatMap, Block.renumber, Function.comp_def]
  simp only [pageCount, behind, List.flatMap_append, List.length_append, hpages, Before.pages,
    Block.renumber, List.length_map]
  omega

/-- A page that is closed does not change how many come before the first entry, unless there is
none. -/
theorem lead_addPage {st : State} (h : st.Navigated) (page : Page) :
    (st.addPage page st.pageCount).lead
      = if st.entries = [] then st.lead + 1 else st.lead := by
  have hcount : (st.addPage page st.pageCount).pageCount = st.pageCount + 1 := by
    simp [addPage, pageCount, Nat.add_assoc]
  rw [lead, lead, hcount]
  simp only [addPage]
  rcases hentries : st.entries with - | ⟨entry, - | ⟨second, rest⟩⟩
  · rfl
  · -- The sole entry gets the page, which is its first one if it had none.
    cases hpages : entry.pages <;> simp [hpages]
  · cases hpages : entry.pages with
    | nil =>
        have hlength := (h.front entry (by simp [hentries]) hpages).1
        simp [hentries] at hlength
    | cons position others => simp [changeLast_cons_cons, hpages]

theorem behind_addPage {st : State} (h : st.Navigated) (page : Page) :
    (st.behind before).addPage (page.renumber before.count) (before.pages + st.pageCount)
      = (st.addPage page st.pageCount).behind before := by
  have hentries : changeLast
        (fun entry => { entry with pages := entry.pages ++ [before.pages + st.pageCount] })
        (before.entriesWith st.lead ++ st.entries.map (Entry.shift before.pages))
      = before.entriesWith (st.addPage page st.pageCount).lead ++
        (changeLast (fun entry => { entry with pages := entry.pages ++ [st.pageCount] })
          st.entries).map (Entry.shift before.pages) := by
    rw [lead_addPage h page]
    by_cases hnil : st.entries = []
    · have hlead : st.lead = st.pageCount := by simp [lead, hnil]
      simp [hnil, hlead, before.entriesWith_succ]
    · rw [changeLast_append _ _ (by simpa using hnil), if_neg hnil]
      congr 1
      exact changeLast_map (fun entry => by simp [Entry.shift]) st.entries
  simp only [addPage, behind] at hentries ⊢
  rw [hentries]
  simp [Block.renumber]

theorem behind_closePage {st : State} (h : st.Navigated) :
    (st.behind before).closePage = st.closePage.behind before := by
  have hsection := h.same (.closeSection st)
  cases hpage : st.closeSection.page? with
  | none =>
      have hnone : (st.behind before).closeSection.page? = none := by
        rw [behind_closeSection, page?_behind, hpage]
        rfl
      rw [closePage_of_none hpage, closePage_of_none hnone, behind_closeSection]
  | some page =>
      have hsome : (st.behind before).closeSection.page? = some (page.renumber before.count) := by
        rw [behind_closeSection, page?_behind, hpage]
        rfl
      rw [closePage_of_some hpage, closePage_of_some hsome, behind_closeSection, pageCount_behind,
        behind_addPage before hsection]
      rfl

theorem behind_closeBlock {st : State} (h : st.Navigated) :
    (st.behind before).closeBlock = st.closeBlock.behind before := by
  have hlead : st.closeBlock.lead = st.closePage.lead := by
    rw [lead, lead, pageCount_closeBlock]
    rfl
  rw [closeBlock, behind_closePage before h]
  unfold closeBlock at hlead ⊢
  generalize st.closePage = closed at hlead ⊢
  have hvacant : ((closed.behind before).isImplicit && (closed.behind before).block.isVacant)
      = (closed.isImplicit && closed.block.isVacant) := by
    simp [behind]
  simp only [hvacant]
  unfold behind
  simp only [hlead]
  split <;> simp [Block.renumber]

/-! ## Values over several lines -/

theorem behind_assign (holder : Holder) (aspect : Aspect) (line : Nat) (value : Text) :
    (st.behind before).assign holder aspect (before.lines + line) value
      = (st.assign holder aspect line value).behind before := by
  rw [assign, assign]
  split
  · exact behind_write before st holder aspect value
  · split
    · exact behind_write before st holder aspect _
    · rfl

theorem behind_endCapture {capture capture' : Capture}
    (h : capture' = capture.later before.lines) :
    (st.behind before).endCapture capture' = (st.endCapture capture).behind before := by
  subst h
  rw [endCapture, endCapture, Capture.value_later]
  have hwrite := behind_write before st capture.holder capture.aspect capture.value
  simp only [Capture.later] at hwrite ⊢
  rw [hwrite]
  rfl

theorem behind_readQuoted (capture : Capture) (raw : Text) :
    (st.behind before).readQuoted (capture.later before.lines) raw
      = (st.readQuoted capture raw).behind before := by
  rw [readQuoted, readQuoted]
  split
  · simp only
    split
    · exact behind_endCapture before st rfl
    · exact behind_endCapture before st rfl
  · rfl

/-! ## Lines with a meaning anywhere -/

theorem behind_readText (raw : Text) :
    (st.behind before).readText raw = (st.readText raw).behind before := by
  have hopen : (st.behind before).question?.isSome = st.question?.isSome := by simp
  have htext : (st.behind before).textOpen = st.textOpen := rfl
  have hfenced : (st.behind before).isFenced = st.isFenced := rfl
  rw [readText, readText, hopen, htext, hfenced]
  split
  · exact behind_mapQuestion before st fun _ => rfl
  · rw [behind_closeQuestion]
    rfl

theorem behind_readBlank : (st.behind before).readBlank = st.readBlank.behind before := by
  have hnone : (st.behind before).question?.isNone = st.question?.isNone := by simp
  have hpending : (st.behind before).pending = st.pending := rfl
  rw [readBlank, readBlank, hnone, hpending]
  split <;> rfl

theorem behind_readQuestion (text : Text) (after : List Text) :
    (st.behind before).readQuestion text after = (st.readQuestion text after).behind before := by
  rw [readQuestion, readQuestion, behind_closeQuestion, behind_closeText, behind_ensurePage]
  generalize st.closeQuestion.closeText.ensurePage = settled
  have hpart : (settled.part?.map (Section.renumber before.count)).getD {}
      = (settled.part?.getD {}).renumber before.count := by
    cases settled.part? <;> rfl
  unfold behind
  simp only [hpart, Option.map_some, Question.renumber, Body.ofKind_renumber, renumberId_question,
    Nat.add_assoc]
  rfl

theorem lead_addEntry (entry : Entry) (h : entry.pages = []) (st : State) :
    State.lead { st with entries := st.entries ++ [entry], isListed := true } = st.lead := by
  unfold lead pageCount
  cases st.entries with
  | nil => simp [h]
  | cons first rest => rfl

theorem behind_readLevel {st : State} (h : st.Navigated) (level : Nat) :
    (st.behind before).readLevel level = (st.readLevel level).behind before := by
  have hflag : (st.behind before).isListed = st.isListed := rfl
  rw [readLevel, readLevel, hflag]
  split
  · rename_i hlisted
    have hlevel : ∀ entry : Entry, ({ entry with level := level } : Entry).shift before.pages
        = { entry.shift before.pages with level := level } := fun _ => rfl
    have hentries : changeLast (fun entry => { entry with level := level })
          (before.entriesWith st.lead ++ st.entries.map (Entry.shift before.pages))
        = before.entriesWith st.lead ++
          (changeLast (fun entry => { entry with level := level }) st.entries).map
            (Entry.shift before.pages) := by
      rw [changeLast_append _ _ (by simpa using (h.listed hlisted).2)]
      exact congrArg _ (changeLast_map hlevel st.entries)
    have hlead : State.lead
        { st with entries := changeLast (fun entry => { entry with level := level }) st.entries }
        = st.lead := by
      unfold lead pageCount
      rcases st.entries with - | ⟨entry, - | ⟨second, rest⟩⟩ <;> rfl
    unfold behind
    simp only [hentries, hlead]
  · rw [behind_ensurePage]
    generalize st.ensurePage = opened
    have htitle : ((opened.page?.map (Page.renumber before.count)).getD {}).title
        = (opened.page?.getD {}).title := by
      cases opened.page? <;> rfl
    have hlead := lead_addEntry { name := (opened.page?.getD {}).title, level := level }
      rfl opened
    unfold behind
    simp only [htitle, hlead, List.append_assoc, List.map_append]
    rfl

theorem behind_readComputation (computed : Text × Text) :
    (st.behind before).readComputation computed
      = (st.readComputation computed).behind before := by
  rw [readComputation, readComputation, behind_closeQuestion, behind_closeText]
  generalize st.closeQuestion.closeText = settled
  unfold behind
  cases settled.page? <;> simp [Block.renumber, Page.renumber, lead, pageCount]

theorem behind_readShowIf (line : Nat) (value : Text) :
    (st.behind before).readShowIf (before.lines + line) value
      = (st.readShowIf line value).behind before := by
  have hholder : (st.behind before).showIfHolder = st.showIfHolder := by
    unfold showIfHolder behind
    cases st.question? <;> cases st.part? <;> cases st.page? <;> rfl
  rw [readShowIf, readShowIf, hholder]
  exact behind_assign before st _ _ _ _

theorem behind_readTooltip (line : Nat) (value : Text) :
    (st.behind before).readTooltip (before.lines + line) value
      = (st.readTooltip line value).behind before := by
  have hopen : (st.behind before).question?.isSome = st.question?.isSome := by simp
  have hcontent : (st.behind before).sectionHasContent = st.sectionHasContent := by
    unfold sectionHasContent behind
    cases st.part? <;> simp [Section.renumber]
  rw [readTooltip, readTooltip, hopen, hcontent]
  split
  · exact behind_assign before st _ _ _ _
  · split
    · rw [behind_closeText]
      exact behind_assign before _ _ _ _ _
    · rw [behind_ensurePage]
      exact behind_assign before _ _ _ _ _

/-! ## Lines inside a question -/

section Inside

variable (question : Question) (line : Nat)

theorem behind_readUnit (isBefore : Bool) (value : Text) :
    (st.behind before).readUnit isBefore (before.lines + line) value
        (question.renumber before.count)
      = (st.readUnit isBefore line value question).behind before := by
  obtain ⟨id, text, varName, showIf, hint, tooltip, body⟩ := question
  cases body with
  | number front back => cases isBefore <;> exact behind_setBody before st rfl
  | breakdown options front back label column =>
      cases isBefore <;> exact behind_setBody before st rfl
  | _ => exact behind_warn before st line rfl

theorem behind_readTotal (value : Text) :
    (st.behind before).readTotal (before.lines + line) value (question.renumber before.count)
      = (st.readTotal line value question).behind before := by
  obtain ⟨id, text, varName, showIf, hint, tooltip, body⟩ := question
  cases body with
  | breakdown options front back label column => exact behind_setBody before st rfl
  | _ => exact behind_warn before st line rfl

theorem behind_readSubtotal (value : Text) :
    (st.behind before).readSubtotal (before.lines + line) value (question.renumber before.count)
      = (st.readSubtotal line value question).behind before := by
  obtain ⟨id, text, varName, showIf, hint, tooltip, body⟩ := question
  cases body with
  | matrix rows options input =>
      cases rows with
      | nil => exact behind_warn before st line rfl
      | cons row rest => exact behind_mapRow before st fun _ => rfl
  | breakdown options front back label column => exact behind_addOptions before st _
  | _ => exact behind_warn before st line rfl

theorem behind_readRange (first last : Int) :
    (st.behind before).readRange first last (before.lines + line) (question.renumber before.count)
      = (st.readRange first last line question).behind before := by
  have htakes : (question.renumber before.count).body.takesOptions = question.body.takesOptions :=
    question.body.takesOptions_renumber before.count
  rw [readRange, readRange, htakes, question.kind_renumber]
  split
  · exact behind_addOptions before st _
  · exact behind_warn before st line rfl

theorem behind_readInput (word : InputWord) :
    (st.behind before).readInput word (before.lines + line) (question.renumber before.count)
      = (st.readInput word line question).behind before := by
  rw [readInput, readInput, question.kind_renumber]
  split
  · rfl
  · obtain ⟨id, text, varName, showIf, hint, tooltip, body⟩ := question
    cases body with
    | matrix rows options input =>
        cases hinput : word.matrixInput? with
        | none => exact behind_warn before st line rfl
        | some input => exact behind_setBody before st rfl
    | _ => exact behind_warn before st line rfl

theorem behind_readOption (value : Text) :
    (st.behind before).readOption (before.lines + line) value (question.renumber before.count)
      = (st.readOption line value question).behind before := by
  have htakes : (question.renumber before.count).body.takesOptions = question.body.takesOptions :=
    question.body.takesOptions_renumber before.count
  rw [readOption, readOption, htakes, question.kind_renumber]
  split
  · exact behind_addOptions before st _
  · exact behind_warn before st line rfl

theorem behind_readMatrixRow (value : Text) :
    (st.behind before).readMatrixRow (before.lines + line) value (question.renumber before.count)
      = (st.readMatrixRow line value question).behind before := by
  obtain ⟨id, text, varName, showIf, hint, tooltip, body⟩ := question
  cases body with
  | matrix rows options input =>
      have hrow : ({ id := renumberId before.count id ++ '_' :: writeNat (rows.length + 1)
                     text := value } : Row)
          = Row.renumber before.count
              { id := id ++ '_' :: writeNat (rows.length + 1), text := value } := by
        rw [Row.renumber, renumberId_row]
      have hadd : ∀ row : Row, (st.behind before).mapBody
            (Body.mapRows (· ++ [row.renumber before.count]))
          = (st.mapBody (Body.mapRows (· ++ [row]))).behind before := fun row =>
        behind_mapBody before st fun body => body.mapRows_renumber before.count fun rows => by simp
      simp only [readMatrixRow, Question.renumber, Body.renumber, Body.mapRows, List.length_map,
        hrow, hadd]
      rfl
  | _ => exact behind_warn before st line rfl

theorem behind_readHeader (value : Text) :
    (st.behind before).readHeader (before.lines + line) value (question.renumber before.count)
      = (st.readHeader line value question).behind before := by
  obtain ⟨id, text, varName, showIf, hint, tooltip, body⟩ := question
  cases body with
  | breakdown options front back label column => exact behind_addOptions before st _
  | _ => exact behind_warn before st line rfl

theorem behind_readSeparator :
    (st.behind before).readSeparator (before.lines + line) (question.renumber before.count)
      = (st.readSeparator line question).behind before := by
  obtain ⟨id, text, varName, showIf, hint, tooltip, body⟩ := question
  cases body with
  | breakdown options front back label column => exact behind_addOptions before st _
  | _ => exact behind_warn before st line rfl

theorem behind_modifyRow (change : Modifier) (value : Text) (row : Row) :
    (st.behind before).modifyRow change (before.lines + line) value (row.renumber before.count)
      = (st.modifyRow change line value row).behind before := by
  cases change with
  | showIf | hint | tooltip => exact behind_assign before st _ _ _ _
  | varName | subtract | value => exact behind_mapRow before st fun _ => rfl
  | _ => exact behind_warn before st line rfl

theorem behind_modifyOption (change : Modifier) (value : Text) :
    (st.behind before).modifyOption change (before.lines + line) value
        (question.renumber before.count)
      = (st.modifyOption change line value question).behind before := by
  have hamount : (if question.isBreakdown then
        (st.behind before).mapOption (modifyAmount change value)
      else (st.behind before).warn (before.lines + line)
        (.onlyBreakdown change (renumberId before.count question.id)))
      = (if question.isBreakdown then st.mapOption (modifyAmount change value)
          else st.warn line (.onlyBreakdown change question.id)).behind before := by
    split
    · exact behind_mapOption before st _
    · exact behind_warn before st line rfl
  cases change with
  | showIf | hint | tooltip => exact behind_assign before st _ _ _ _
  | text => exact behind_mapOption before st _
  | _ =>
      simp only [modifyOption, question.isBreakdown_renumber]
      exact hamount

/-- The row that modifiers change is the renumbered one. -/
theorem getLast?_rows_renumber (n : Nat) (isRow : Prop) [Decidable isRow] :
    (if isRow then (question.renumber n).rows.getLast? else none)
      = (if isRow then question.rows.getLast? else none).map (Row.renumber n) := by
  split <;> simp

theorem behind_readModifier (change : Modifier) (value : Text) :
    (st.behind before).readModifier change (before.lines + line) value
        (question.renumber before.count)
      = (st.readModifier change line value question).behind before := by
  have hselection : (st.behind before).selection? = st.selection? := rfl
  rw [readModifier, readModifier, hselection, getLast?_rows_renumber, question.options_renumber]
  cases if st.selection? = some .row then question.rows.getLast? else none with
  | some row => exact behind_modifyRow before st line change value row
  | none =>
      simp only [Option.map_none]
      split
      · exact behind_warn before st line rfl
      · exact behind_modifyOption before st question line change value

theorem behind_readColumn (column : Nat) :
    (st.behind before).readColumn column (before.lines + line) (question.renumber before.count)
      = (st.readColumn column line question).behind before := by
  have hselection : (st.behind before).selection? = st.selection? := rfl
  rw [readColumn, readColumn, hselection, getLast?_rows_renumber, question.options_renumber,
    question.isBreakdown_renumber]
  cases if st.selection? = some .row then question.rows.getLast? else none with
  | some row => exact behind_warn before st line rfl
  | none =>
      simp only [Option.map_none]
      split
      · exact behind_warn before st line rfl
      · split
        · exact behind_mapOption before st _
        · exact behind_warn before st line rfl

theorem behind_readInside (line : Line) (number : Nat) :
    (st.behind before).readInside (before.lines + number) line (question.renumber before.count)
      = (st.readInside number line question).behind before := by
  rw [readInside, readInside]
  split
  · exact behind_assign before st _ _ _ _
  · exact behind_mapQuestion before st fun _ => rfl
  · exact behind_readInput before st question number _
  · exact behind_readUnit before st question number true _
  · exact behind_readUnit before st question number false _
  · exact behind_readTotal before st question number _
  · exact behind_readSubtotal before st question number _
  · exact behind_readSubtotal before st question number _
  · exact behind_readRange before st question number _ _
  · exact behind_readOption before st question number _
  · exact behind_readMatrixRow before st question number _
  · exact behind_readModifier before st question number _ _
  · exact behind_readColumn before st question number _
  · exact behind_readHeader before st question number _
  · exact behind_readSeparator before st question number
  · rfl

end Inside

/-! ## Lines and runs -/

theorem behind_readLine {st : State} (h : st.Navigated) (number : Nat) (line : Line) (raw : Text)
    (after : List Text) :
    (st.behind before).readLine (before.lines + number) line raw after
      = (st.readLine number line raw after).behind before := by
  have hquiet : { st.behind before with textOpen := false }
      = State.behind before { st with textOpen := false } := rfl
  have hnavigated : Navigated { st with textOpen := false } := h.same ⟨rfl, rfl, rfl, id⟩
  rw [readLine, readLine]
  simp only [hquiet]
  generalize { st with textOpen := false } = quiet at hnavigated
  split
  · exact behind_readText before st raw
  · exact behind_readBlank before quiet
  · rw [behind_closePage before hnavigated]
    rfl
  · rw [behind_closeBlock before hnavigated]
    rfl
  · rw [behind_closeSection, behind_ensurePage]
    rfl
  · exact behind_readQuestion before quiet _ after
  · exact behind_readLevel before hnavigated _
  · exact behind_readComputation before quiet _
  · exact behind_readShowIf before quiet number _
  · exact behind_readTooltip before quiet number _
  · cases hquestion : st.question? with
    | none => simp only [question?_behind, hquestion, Option.map_none]
    | some question =>
        simp only [question?_behind, hquestion, Option.map_some]
        exact behind_readInside before quiet question line number

/-- **A line does the same behind what has been read before.** -/
theorem behind_read {st : State} (h : st.Navigated) (number : Nat) (raw : Text)
    (after : List Text) :
    (st.behind before).read (before.lines + number) raw after
      = (st.read number raw after).map (behind before) := by
  have hcapture : (st.behind before).capture? = st.capture?.map (Capture.later before.lines) := rfl
  have hfenced : (st.behind before).isFenced = st.isFenced := rfl
  rw [read, read, hcapture]
  cases st.capture? with
  | some capture => exact congrArg Except.ok (behind_readQuoted before st capture raw)
  | none =>
      simp only [Option.map_none, hfenced, context_behind]
      split
      · exact congrArg Except.ok
          (behind_readText before { st with capture? := none, isFenced := !st.isFenced } raw)
      · split
        · exact congrArg Except.ok (behind_readText before st raw)
        · cases classify st.context raw with
          | error fault => rfl
          | ok line => exact congrArg Except.ok (behind_readLine before h number line raw after)

/-- **A run behind what has been read before** is the run put behind it, a failure
included. -/
theorem behind_readAll {st : State} (h : st.Navigated) (done : Nat) (all : List Text) :
    (st.behind before).readAll (before.lines + done) all
      = ((st.readAll done all).1.behind before,
          (st.readAll done all).2.map (Failure.later before.lines)) := by
  induction all generalizing st done with
  | nil => rfl
  | cons raw rest ih =>
      rw [readAll, readAll, Nat.add_assoc, behind_read before h]
      cases hread : st.read (done + 1) raw rest with
      | error fault => rfl
      | ok next => exact ih (h.read hread) (done + 1)

theorem behind_finish {st : State} (h : st.Navigated) :
    (st.behind before).finish = st.finish.behind before := by
  have hcapture : (st.behind before).capture? = st.capture?.map (Capture.later before.lines) := rfl
  rw [finish, finish, hcapture]
  cases st.capture? with
  | none => exact behind_closeBlock before h
  | some capture =>
      have hended : Navigated ((st.warn capture.line .unclosed).endCapture capture) :=
        h.same ((SameIndex.warn _ _ st).trans (.endCapture _ _))
      simp only [Option.map_some]
      rw [← behind_closeBlock before hended, ← behind_endCapture before _ rfl,
        ← behind_warn before st _ rfl]
      rfl

end State
end Questionnaire.Source
