import Questionnaire.Proofs.Source.Behind
import Questionnaire.Proofs.Source.Growth
import Questionnaire.Proofs.Source.Opaque
import Questionnaire.Proofs.Source.Standing
import Questionnaire.Proofs.Source.Unquoted

/-!
# Blocks are independent

A block marker outside of quotes and fences starts afresh: whatever is open is
closed, and every question before has ended its look ahead there. So the lines
from a block marker on make of a source what they make on their own, behind what
stands before them (`compileLines_append`).
-/

namespace Questionnaire

open Text Source

/-! ## A survey behind another -/

/-- The number of pages before the first navigation entry. -/
def Survey.leadingPages (survey : Survey) : Nat :=
  match survey.entries with
  | [] => survey.pages.length
  | entry :: _ => entry.pages.headD survey.pages.length

/-- **The second survey behind the first**: its questions are counted from those of
the first on, and its pages before its first navigation entry go to the last entry of
the first. -/
def Survey.append (first second : Survey) : Survey where
  name := first.name
  blocks := first.blocks ++ second.blocks.map (Block.renumber first.questions.length)
  entries :=
    changeLast (fun entry =>
        { entry with
          pages := entry.pages ++
            (List.range second.leadingPages).map (first.pages.length + ·) })
      first.entries ++
    second.entries.map (Entry.shift first.pages.length)

namespace Source

/-- The rejection with its line counted from `d` on. -/
def Rejection.later (d : Nat) : Rejection → Rejection
  | .line failure => .line (failure.later d)
  | .problems all => .problems all

/-- Whether the line begins a block. -/
def isBlockMarker (raw : Text) : Bool := hasStart "BLOCK:".toList (trim raw)

/-! ## The marker -/

theorem lookStep_of_isBlockMarker {raw : Text} (h : isBlockMarker raw = true) :
    lookStep .nothing raw = none := by
  obtain ⟨rest, hrest⟩ := hasStart_iff.mp h
  have hfence : hasStart fence (trim raw) = false := by rw [← hrest]; rfl
  have hends : endsQuestion (trim raw) = true := Bool.or_eq_true_iff.mpr (.inr h)
  simp [lookStep, hfence, hends]

theorem classify_of_isBlockMarker {raw : Text} (h : isBlockMarker raw = true) :
    ∃ name, ∀ context, classify context raw = .ok ⟨.block, name⟩ := by
  obtain ⟨rest, hrest⟩ := hasStart_iff.mp h
  have hpage : isPageMarker (trim raw) = false := by rw [← hrest]; rfl
  have hempty : (trim raw).isEmpty = false := by rw [← hrest]; rfl
  have hafter : after? "BLOCK:".toList (trim raw) = some rest := after?_eq_some.mpr hrest.symm
  refine ⟨trim rest, fun context => ?_⟩
  simp only [classify, hpage, hempty, hafter, Bool.false_eq_true, if_false]

/-- **A look ahead that is outside of everything ends at a marker.** -/
theorem kindAhead_append {lines rest : List Text} {raw : Text} (h : isBlockMarker raw = true)
    (hmode : lookMode .nothing lines = none ∨ lookMode .nothing lines = some .nothing) :
    kindAhead (lines ++ raw :: rest) = kindAhead lines := by
  rw [kindAhead, kindAhead]
  rcases hmode with hnone | hnothing
  · rw [lookAhead_append_of_none hnone]
  · rw [lookAhead_append hnothing, lookAhead_cons, lookStep_of_isBlockMarker h]

namespace State

theorem readAll_of_read {done : Nat} {st next : State} {raw : Text} {rest : List Text}
    (h : st.read (done + 1) raw rest = .ok next) :
    readAll done st (raw :: rest) = readAll (done + 1) next rest := by
  rw [readAll, h]

/-- No fence is open behind the marker of a question. -/
theorem isFenced_of_marker {number : Nat} {raw : Text} {after : List Text} {st next : State}
    (h : (st.lineOf? raw).map Line.kind = some .question)
    (hread : st.read number raw after = .ok next) : next.isFenced = false := by
  obtain ⟨line, hline, hkind⟩ := Option.map_eq_some_iff.mp h
  obtain ⟨hcapture, hfence, hfenced, -⟩ := lineOf?_eq_some.mp hline
  rw [isFenced_read hcapture hread, turnsFence, hfence, hfenced]
  rfl

/-- **Lines before a marker** are read as they are without it. -/
theorem readAll_append {lines rest : List Text} {raw : Text} (hraw : isBlockMarker raw = true)
    (hlines : ∀ line ∈ lines, ¬ quotes <:+: line) {done : Nat} {st : State}
    (hcapture : st.capture? = none) (hread : (readAll done st lines).2 = none)
    (hfence : (readAll done st lines).1.isFenced = false) :
    readAll done st (lines ++ raw :: rest)
      = readAll (done + lines.length) (readAll done st lines).1 (raw :: rest) := by
  induction lines generalizing done st with
  | nil => rfl
  | cons line lines ih =>
      cases hnext : st.read (done + 1) line lines with
      | error fault =>
          rw [readAll, hnext] at hread
          cases hread
      | ok next =>
          rw [readAll_of_read hnext] at hread hfence ⊢
          have hrest : ∀ line ∈ lines, ¬ quotes <:+: line := fun line hline =>
            hlines line (List.mem_cons_of_mem _ hline)
          have hquiet := capture?_read hcapture (hlines line List.mem_cons_self) hnext
          have hsame : st.read (done + 1) line (lines ++ raw :: rest) = .ok next := by
            rw [← hnext]
            -- Behind a question marker no fence is open, and none is at the end.
            refine read_behind fun hmarker => kindAhead_append hraw ?_
            have hturned : lines.foldl turnsFence false = false := by
              rw [← isFenced_of_marker hmarker hnext, ← (readAll_unquoted hrest hquiet hread).2]
              exact hfence.trans (isFenced_of_marker hmarker hnext).symm
            have hmode := lookMode_unquoted hrest false
            rwa [hturned] at hmode
          rw [List.cons_append, readAll_of_read hsame, ih hrest hquiet hread hfence,
            List.length_cons, Nat.add_assoc, Nat.add_comm 1]

/-! ## Starting afresh -/

theorem closeQuestion_quiet {st : State} (h : st.content.Standing) :
    st.quiet.closeQuestion = st.closeQuestion := by
  cases hquestion : st.question? with
  | none =>
      have htext : st.textOpen = false := h.textOpen hquestion
      have hsame : st.quiet = st := by rw [quiet, ← htext]
      rw [hsame]
  | some question =>
      have hquiet : st.quiet.question? = some question := hquestion
      rw [closeQuestion_of_some hquestion, closeQuestion_of_some hquiet]
      rfl

/-- A block that is closed does not depend on whether text belonged to a question. -/
theorem closeBlock_quiet {st : State} (h : st.content.Standing) :
    st.quiet.closeBlock = st.closeBlock := by
  have hsection : st.quiet.closeSection = st.closeSection := by
    rw [closeSection, closeSection, closeQuestion_quiet h]
  have hpage : st.quiet.closePage = st.closePage := by
    rw [closePage, closePage, hsection]
  rw [closeBlock, closeBlock, hpage]

/-- **Of a closed block only the finished blocks, the navigation, the count and the
warnings are left.** -/
theorem closeBlock_eq {st : State} (hstanding : st.content.Standing) (hnavigated : st.Navigated)
    (hcapture : st.capture? = none) (hfence : st.isFenced = false) :
    st.closeBlock = { blocks := st.closeBlock.blocks
                      entries := st.closeBlock.entries
                      count := st.count
                      warnings := st.warnings } := by
  have hcontent := content_closeBlock st
  have hlisted : st.closeBlock.isListed = false := by
    rw [Bool.eq_false_iff]
    intro hlisted
    have hopen := (hnavigated.closeBlock.listed hlisted).1
    rw [show st.closeBlock.page? = none from page?_closePage st] at hopen
    cases hopen
  have hquestion : st.closeBlock.question? = none :=
    (congrArg Content.question? hcontent).trans (Content.question?_closeQuestion _)
  have hselection : st.closeBlock.selection? = none :=
    (congrArg Content.selection? hcontent).trans hstanding.selection?_closeQuestion
  have htext : st.closeBlock.textOpen = false :=
    (congrArg Content.textOpen hcontent).trans hstanding.textOpen_closeQuestion
  have hcount : st.closeBlock.count = st.count :=
    (congrArg Content.count hcontent).trans (Content.count_closeQuestion _)
  have hquotes : st.closeBlock.capture? = none :=
    (congrArg Content.capture? hcontent).trans ((Content.capture?_closeQuestion _).trans hcapture)
  have hfenced : st.closeBlock.isFenced = false :=
    (congrArg Content.isFenced hcontent).trans ((Content.isFenced_closeQuestion _).trans hfence)
  have hwarnings : st.closeBlock.warnings = st.warnings :=
    (congrArg Content.warnings hcontent).trans (Content.warnings_closeQuestion _)
  have hpending : st.closeBlock.pending = [] := congrArg Content.pending hcontent
  have hpage : st.closeBlock.page? = none := page?_closePage st
  have hpart : st.closeBlock.part? = none := part?_closePage st
  have hblock : st.closeBlock.block = {} := rfl
  have himplicit : st.closeBlock.isImplicit = true := rfl
  generalize st.closeBlock = closed at *
  obtain ⟨⟩ := closed
  simp_all

/-- What has been read before, from a state and a number of lines. -/
def past (st : State) (lines : Nat) : Before :=
  ⟨st.closeBlock.blocks, st.closeBlock.entries, st.count, lines, st.warnings⟩

/-- **A block marker starts afresh behind what has been read.** -/
theorem read_blockMarker {st : State} (hstanding : st.content.Standing)
    (hnavigated : st.Navigated) (hcapture : st.capture? = none) (hfence : st.isFenced = false)
    {raw : Text} (h : isBlockMarker raw = true) (lines : Nat) (rest : List Text) :
    ∃ fresh : State, fresh.Navigated ∧ ({} : State).read 1 raw rest = .ok fresh ∧
      st.read (lines + 1) raw rest = .ok (fresh.behind (st.past lines)) := by
  obtain ⟨name, hclassify⟩ := classify_of_isBlockMarker h
  have hfirst : hasStart fence (trim raw) = false := by
    obtain ⟨tail, htail⟩ := hasStart_iff.mp h
    rw [← htail]
    rfl
  have hread : ∀ (number : Nat) {other : State},
      other.capture? = none → other.isFenced = false → other.read number raw rest
        = .ok { other.quiet.closeBlock with block := { name }, isImplicit := false } := by
    intro number other hnone hunfenced
    rw [read_of_classify hnone hfirst hunfenced, hclassify]
    rfl
  have hstart : Navigated { ({} : State) with block := { name }, isImplicit := false } :=
    Navigated.empty.setBlock { name } rfl false
  refine ⟨_, hstart, hread 1 rfl rfl, ?_⟩
  rw [hread _ hcapture hfence, closeBlock_quiet hstanding,
    closeBlock_eq hstanding hnavigated hcapture hfence]
  simp [behind, lead, pageCount, past, Block.renumber]

/-! ## Whole runs -/

/-- **A run over lines with a block marker among them** goes on from the marker as the
run of the lines from there on, put behind what has been read. -/
theorem readAll_blockMarker {first : List Text} {raw : Text} (h : isBlockMarker raw = true)
    (hfirst : ∀ line ∈ first, ¬ quotes <:+: line) (hread : (readAll 0 {} first).2 = none)
    (hfence : (readAll 0 {} first).1.isFenced = false) (rest : List Text) :
    readAll 0 {} (first ++ raw :: rest)
      = (((readAll 0 {} (raw :: rest)).1.behind ((readAll 0 {} first).1.past first.length)),
          (readAll 0 {} (raw :: rest)).2.map (Failure.later first.length)) := by
  have hstanding : (readAll 0 {} first).1.content.Standing :=
    readAll_invariant (fun _ _ _ _ _ => Content.Standing.read) 0 Content.standing_empty first
  obtain ⟨fresh, hnavigated, hstart, hmarker⟩ := read_blockMarker hstanding (.readAll first)
    (readAll_unquoted hfirst rfl hread).1 hfence h first.length rest
  rw [readAll_append h hfirst rfl hread hfence, Nat.zero_add, readAll_of_read hmarker,
    readAll_of_read hstart]
  exact behind_readAll ((readAll 0 {} first).1.past first.length) hnavigated 1 rest

/-- The number of questions of a state that is finished. -/
theorem length_questions_survey (lines : List Text) (name : Text) :
    ((readAll 0 {} lines).1.finish.survey name).questions.length
      = (readAll 0 {} lines).1.count := by
  have hids : (readAll 0 {} lines).1.content.questions.map Question.id
      = firstIds (readAll 0 {} lines).1.count :=
    readAll_invariant (P := fun st => st.content.questions.map Question.id = firstIds st.count)
      (fun _ _ _ _ _ => ids_read) 0 rfl _
  have hlength := congrArg List.length hids
  rw [questions_survey_eq, ← List.length_map Question.id, (Content.Grows.settle _).map_id,
    (Content.Grows.unquoted _).map_id, hids]
  simp [firstIds]

/-- **The survey of a finished state behind another one** is its survey behind the
other's. -/
theorem survey_behind {name : Text} {st : State} {before : Before} {first : Survey}
    (hblock : st.block = {}) (hname : first.name = name) (hblocks : before.blocks = first.blocks)
    (hentries : before.entries = first.entries) (hcount : before.count = first.questions.length) :
    (st.behind before).survey name = first.append (st.survey name) := by
  have hlength : ∀ survey : Survey,
      (survey.blocks.flatMap Block.pages).length = survey.pages.length := by
    intro survey
    simp [Survey.pages, List.length_flatMap]
  have hpages : before.pages = first.pages.length := by
    rw [Before.pages, hblocks, hlength]
  have hlead : st.lead = (st.survey name).leadingPages := by
    have hcount : st.pageCount = (st.survey name).pages.length := by
      rw [pageCount, hblock, ← hlength]
      rfl
    rw [lead, Survey.leadingPages, hcount]
    rfl
  simp only [survey, behind, Survey.append, Before.entriesWith, hname, hblocks, hentries, hcount,
    hpages, hlead]

end State

/-! ## Whole sources -/

/-- The first entry of a survey has a page, the one that its line stands on. -/
theorem pages_ne_nil_of_compileLines {name : Text} {lines : List Text} {survey : Survey}
    (h : (compileLines name lines).result = .ok survey) :
    ∀ entry ∈ survey.entries.head?, entry.pages ≠ [] := by
  have hnavigated := (State.Navigated.readAll lines).finish
  have hpage : (State.readAll 0 {} lines).1.finish.page? = none := by
    rw [State.finish]
    split <;> exact State.page?_closePage _
  intro entry hentry hpages
  rw [survey_of_compileLines h] at hentry
  have hopen := (hnavigated.listed (hnavigated.front entry hentry hpages).2).1
  rw [hpage] at hopen
  cases hopen

/-- **Blocks are independent**: the lines from a block marker on make of a source what
they make on their own, with their questions and pages counted from those before on, and
they fail where they fail on their own. -/
theorem compileLines_append {name : Text} {first second : List Text} {survey : Survey}
    (hquotes : ∀ line ∈ first, ¬ quotes <:+: line)
    (hfirst : (compileLines name first).result = .ok survey)
    (hfence : (State.readAll 0 {} first).1.isFenced = false)
    (hmarker : second.head?.any isBlockMarker = true) :
    (∀ next, (compileLines name second).result = .ok next →
      (compileLines name (first ++ second)).result = .ok (survey.append next)) ∧
    ∀ rejection, (compileLines name second).result = .error rejection →
      (compileLines name (first ++ second)).result = .error (rejection.later first.length) := by
  obtain ⟨raw, rest, rfl⟩ : ∃ raw rest, second = raw :: rest := by
    cases second with
    | nil => cases hmarker
    | cons raw rest => exact ⟨raw, rest, rfl⟩
  have hread := failure?_of_compileLines hfirst
  obtain rfl := survey_of_compileLines hfirst
  have hquiet := (State.readAll_unquoted hquotes rfl hread).1
  have hcount := (State.length_questions_survey first name).symm
  have hrun := State.readAll_blockMarker hmarker hquotes hread hfence rest
  have hnavigated := State.Navigated.readAll (raw :: rest)
  have hfinish : (State.readAll 0 {} first).1.finish = (State.readAll 0 {} first).1.closeBlock := by
    rw [State.finish, hquiet]
  rw [compileLines, compileLines, hrun]
  rw [hfinish] at hcount ⊢
  generalize State.readAll 0 {} (raw :: rest) = second at hnavigated ⊢
  generalize (State.readAll 0 {} first).1 = st at hcount ⊢
  obtain ⟨last, failure?⟩ := second
  cases failure? with
  | none =>
      refine ⟨fun next hnext => ?_, fun rejection hrejection => (by cases hrejection)⟩
      obtain rfl := Except.ok.inj hnext
      have hblock : last.finish.block = {} := by
        rw [State.finish]
        split <;> rfl
      refine congrArg Except.ok ?_
      rw [State.behind_finish _ hnavigated]
      exact State.survey_behind hblock rfl rfl rfl hcount
  | some failure =>
      refine ⟨fun next hnext => (by cases hnext), fun rejection hrejection => ?_⟩
      obtain rfl := Except.error.inj hrejection
      rfl

/-- A page in the navigation with a question on it. -/
def earlyLines : List Text :=
  ["# Home".toList, "NAVIGATION: 1".toList, "Q: Age?".toList, "NUMBER".toList]

/-- A block with a page before its navigation and a matrix on it. -/
def lateLines : List Text :=
  ["BLOCK: Late".toList, "# Work".toList, "Q: Rate".toList, "- Q: Food".toList, "- Good".toList,
    "# Rest".toList, "LEVEL: 2".toList]

/-- The survey of `earlyLines`. -/
def earlySurvey : Survey := (compileLines [] earlyLines).result.toOption.getD { name := [] }

/-- The survey of `lateLines`. -/
def lateSurvey : Survey := (compileLines [] lateLines).result.toOption.getD { name := [] }

theorem compileLines_append_late :
    (compileLines [] (earlyLines ++ lateLines)).result = .ok (earlySurvey.append lateSurvey) ∧
      (earlySurvey.append lateSurvey).questions.map Question.id = ["Q1".toList, "Q2".toList] ∧
      (earlySurvey.append lateSurvey).entries.map Entry.pages = [[0, 1], [2]] :=
  ⟨(compileLines_append (by decide +kernel)
      (show (compileLines [] earlyLines).result = .ok earlySurvey by rfl) (by decide +kernel)
      (by decide +kernel)).1 lateSurvey (by rfl), by decide +kernel, by decide +kernel⟩

end Source
end Questionnaire
