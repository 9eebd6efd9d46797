import Questionnaire.Proofs.Source.Containers
import Questionnaire.Proofs.Source.Last
import Questionnaire.Proofs.Source.Run

/-!
# The navigation partitions the pages

A page on which a level is given begins an entry, and every other page goes to the
entry that runs (`addPosition`). The entries of a state are made so from its pages
and the levels of the lines before it (`Listed`), and so are those of a survey.
What they are then like is a matter of lists: the entries have all pages from the
first one with a level on, in order (`flatMap_pages_entriesTo`), one entry for each
page with a level (`map_head_entriesTo`).
-/

namespace Questionnaire.Source

open Text

/-! ## Entries from pages -/

/-- One more page, at a position, with a title and the levels that are given on it. -/
def addPosition (entries : List Entry) (position : Nat) (title : Text) (levels : List Nat) :
    List Entry :=
  match levels.getLast? with
  | some level => entries ++ [{ name := title, level := level, pages := [position] }]
  | none => changeLast (fun entry => { entry with pages := entry.pages ++ [position] }) entries

/-- The entries of the first pages. -/
def entriesTo (title : Nat → Text) (levels : Nat → List Nat) : Nat → List Entry
  | 0 => []
  | count + 1 => addPosition (entriesTo title levels count) count (title count) (levels count)

section

variable {title : Nat → Text} {levels : Nat → List Nat} {count : Nat}

theorem entriesTo_congr {title' : Nat → Text} {levels' : Nat → List Nat}
    (htitle : ∀ i < count, title i = title' i) (hlevels : ∀ i < count, levels i = levels' i) :
    entriesTo title levels count = entriesTo title' levels' count := by
  induction count with
  | zero => rfl
  | succ count ih =>
      rw [entriesTo, entriesTo, htitle count (Nat.lt_succ_self _), hlevels count (Nat.lt_succ_self _),
        ih (fun i hi => htitle i (Nat.lt_succ_of_lt hi))
          fun i hi => hlevels i (Nat.lt_succ_of_lt hi)]

/-- **An entry is named after its first page.** -/
theorem name_of_mem_entriesTo {entry : Entry} (h : entry ∈ entriesTo title levels count) :
    ∃ first rest, entry.pages = first :: rest ∧ first < count ∧ entry.name = title first := by
  induction count generalizing entry with
  | zero => cases h
  | succ count ih =>
      rw [entriesTo, addPosition] at h
      split at h
      · rcases List.mem_append.mp h with h | h
        · obtain ⟨first, rest, hpages, hfirst, hname⟩ := ih h
          exact ⟨first, rest, hpages, Nat.lt_succ_of_lt hfirst, hname⟩
        · obtain rfl := List.mem_singleton.mp h
          exact ⟨count, [], rfl, Nat.lt_succ_self _, rfl⟩
      · rcases mem_changeLast h with h | ⟨last, hlast, rfl⟩
        · obtain ⟨first, rest, hpages, hfirst, hname⟩ := ih h
          exact ⟨first, rest, hpages, Nat.lt_succ_of_lt hfirst, hname⟩
        · obtain ⟨first, rest, hpages, hfirst, hname⟩ := ih hlast
          exact ⟨first, rest ++ [count], by simp [hpages], Nat.lt_succ_of_lt hfirst, hname⟩

theorem map_changeLast_of_mem {α β : Type} {f : α → β} {change : α → α} {items : List α}
    (h : ∀ item ∈ items, f (change item) = f item) : (changeLast change items).map f = items.map f := by
  rcases List.eq_nil_or_concat items with rfl | ⟨front, last, rfl⟩
  · rfl
  · simp [h last (by simp)]

/-- **There is one entry for each page with a level**, the last one given on it. -/
theorem map_head_entriesTo : (entriesTo title levels count).map (fun e => (e.pages.head?, e.level))
    = (List.range count).filterMap fun i =>
        (levels i).getLast?.map fun level => (some i, (level : Int)) := by
  induction count with
  | zero => rfl
  | succ count ih =>
      rw [List.range_succ, List.filterMap_append, ← ih, entriesTo, addPosition]
      cases hlevel : (levels count).getLast? with
      | some level => simp [hlevel]
      | none =>
          rw [map_changeLast_of_mem]
          · simp [hlevel]
          · intro entry hentry
            obtain ⟨first, rest, hpages, -, -⟩ := name_of_mem_entriesTo hentry
            simp [hpages]

/-- **The entries have all pages from the first one with a level on, in order.** -/
theorem flatMap_pages_entriesTo : (entriesTo title levels count).flatMap Entry.pages
    = (List.range count).dropWhile fun i => (levels i).isEmpty := by
  induction count with
  | zero => rfl
  | succ count ih =>
      rw [List.range_succ, List.dropWhile_append, ← ih, entriesTo, addPosition]
      cases hlevel : (levels count).getLast? with
      | some level =>
          have hsome : (levels count).isEmpty = false := by
            cases hlevels : levels count with
            | nil => rw [hlevels] at hlevel; cases hlevel
            | cons first rest => rfl
          simp [hsome]
      | none =>
          have hnone : levels count = [] := List.getLast?_eq_none_iff.mp hlevel
          rcases List.eq_nil_or_concat (entriesTo title levels count) with h | ⟨front, last, h⟩
          · simp [h, hnone]
          · -- The last entry has a page already, so the pages do not begin here.
            obtain ⟨first, rest, hpages, -, -⟩ : ∃ first rest, last.pages = first :: rest ∧ _ :=
              name_of_mem_entriesTo (by rw [h]; simp)
            simp [h, hpages]

end

/-! ## Levels and pages of a run -/

/-- The level that the line of a step gives to the open page. -/
def Step.level? (step : Step) : Option Nat :=
  match (step.before.lineOf? step.raw).map Line.kind with
  | some (.navigation _ level) => some level
  | _ => none

/-- The levels that are given on the page at a position: that of the page which is open behind
the line is the number of the pages that are finished. -/
def levelsOn (run : List Step) (position : Nat) : List Nat :=
  run.flatMap fun step => if step.after.pageCount = position then step.level?.toList else []

theorem levelsOn_concat (past : List Step) (step : Step) (i : Nat) :
    levelsOn (past ++ [step]) i
      = levelsOn past i ++ if step.after.pageCount = i then step.level?.toList else [] := by
  simp [levelsOn]

/-- The title of the page at a position. -/
def titleAt (pages : List Page) (position : Nat) : Text :=
  ((pages[position]?).map Page.title).getD []

namespace State

/-- As far as the navigation is concerned two states are the same, though a page may have been
opened. -/
structure SameListing (st st' : State) : Prop where
  entries : st'.entries = st.entries
  isListed : st'.isListed = st.isListed
  pages : st'.finishedPages = st.finishedPages
  page : st.page? = none ∨ st'.page?.map Page.title = st.page?.map Page.title

namespace SameListing

variable {st st' : State}

theorem ensurePage (st : State) : SameListing st st.ensurePage := by
  refine ⟨rfl, rfl, rfl, ?_⟩
  cases hpage : st.page? with
  | none => exact .inl rfl
  | some page => exact .inr (by rw [State.ensurePage, hpage]; rfl)

theorem alike (h : SameContainers st st') : SameListing st st' where
  entries := h.entries
  isListed := h.isListed
  pages := by rw [finishedPages, finishedPages, h.blocks, (Block.bare_eq_iff.mp h.block).2]
  page := by
    have hpage := congrArg (Option.map Page.title) h.page
    rw [Option.map_map, Option.map_map] at hpage
    exact .inr hpage

theorem closeSection (st : State) : SameListing st.closeQuestion.closeText st.closeSection := by
  cases hpart : st.closeQuestion.closeText.part? with
  | none =>
      rw [closeSection_of_none hpart]
      exact ⟨rfl, rfl, rfl, .inr rfl⟩
  | some part =>
      rw [closeSection_of_some hpart]
      refine ⟨rfl, rfl, rfl, ?_⟩
      cases hpage : st.closeQuestion.closeText.page? with
      | none => exact .inl rfl
      | some page => exact .inr (by simp [addSection, State.ensurePage, hpage])

end SameListing

/-! ## The entries of a state -/

/-- **The entries of a state are those of its pages**, given the levels on each of them. -/
structure Listed (levels : Nat → List Nat) (st : State) : Prop where
  /-- The finished pages have their entries, and so has the open page if a level is given on
  it, though it is not in it yet. -/
  entries : st.entries = entriesTo (titleAt st.finishedPages) levels st.pageCount
    ++ (levels st.pageCount).getLast?.toList.map fun (level : Nat) =>
      { name := (st.page?.getD {}).title, level := level }
  /-- The open page is listed if a level is given on it. -/
  isListed : st.isListed = !(levels st.pageCount).isEmpty
  /-- A page that is listed is open. -/
  page : st.isListed = true → st.page?.isSome = true
  /-- On later pages there are no levels yet. -/
  later : ∀ i, st.pageCount < i → levels i = []

namespace Listed

variable {levels : Nat → List Nat} {st st' : State}

theorem empty : Listed (fun _ => []) {} := 
  ⟨rfl, rfl, fun h => absurd h Bool.false_ne_true, fun _ _ => rfl⟩

/-- Where no page is open there are no levels on it. -/
theorem levels_eq_nil (h : Listed levels st) (hpage : st.page? = none) :
    levels st.pageCount = [] := by
  have hlisted := h.isListed
  cases hlevels : levels st.pageCount with
  | nil => rfl
  | cons first rest =>
      rw [hlevels] at hlisted
      simpa [hpage] using h.page hlisted

theorem same (h : Listed levels st) (hsame : SameListing st st') : Listed levels st' := by
  have hcount : st'.pageCount = st.pageCount := by
    rw [← length_finishedPages, ← length_finishedPages, hsame.pages]
  refine ⟨?_, by rw [hsame.isListed, hcount, h.isListed], fun hlisted => ?_, hcount ▸ h.later⟩
  · rw [hsame.entries, hsame.pages, hcount, h.entries]
    rcases hsame.page with hnone | htitle
    · rw [h.levels_eq_nil hnone]
      rfl
    · have htitle : (st'.page?.getD {}).title = (st.page?.getD {}).title := by
        have hget : ∀ page? : Option Page, (page?.getD {}).title = (page?.map Page.title).getD [] := by
          intro page?
          cases page? <;> rfl
        rw [hget, hget, htitle]
      rw [htitle]
  · have hopen := h.page (hsame.isListed ▸ hlisted)
    rcases hsame.page with hnone | htitle
    · rw [hnone] at hopen
      cases hopen
    · rwa [← Option.isSome_map (f := Page.title), htitle, Option.isSome_map]

theorem fill (h : Listed levels st) (hfill : Fill st st') : Listed levels st' := by
  cases hfill with
  | alike hsame _ => exact h.same (.alike hsame)
  | page hpage => exact hpage ▸ h.same (.ensurePage st)
  | item item hsame =>
      have hpage := SameListing.ensurePage st
      have hitem : SameListing st (st.addItem item) := ⟨rfl, rfl, rfl, hpage.page⟩
      exact (h.same hitem).same (.alike hsame)
  | question hsame _ =>
      have hpage := SameListing.ensurePage st
      have hopen : SameListing st st.openSection := ⟨rfl, rfl, rfl, hpage.page⟩
      exact (h.same hopen).same (.alike hsame)

theorem fills (h : Listed levels st) (hfills : Fills st st') : Listed levels st' :=
  hfills.preserves (fun h => h.fill) h

/-- The titles of finished pages stay when one more is finished. -/
theorem entriesTo_append (pages : List Page) (page : Page) :
    entriesTo (titleAt (pages ++ [page])) levels pages.length
      = entriesTo (titleAt pages) levels pages.length :=
  entriesTo_congr (fun i hi => by rw [titleAt, titleAt, List.getElem?_append_left hi])
    fun _ _ => rfl

/-- **A page that is closed** begins its entry if a level is given on it, and goes to the
entry that runs if not. -/
theorem closePage (h : Listed levels st) : Listed levels st.closePage := by
  have hclosed := (h.fills (.settle st)).same (.closeSection st)
  cases hpage : st.closeSection.page? with
  | none => exact closePage_of_none hpage ▸ hclosed
  | some page =>
      rw [closePage_of_some hpage]
      generalize st.closeSection = settled at hclosed hpage
      have hpages : finishedPages { settled.addPage page settled.pageCount with page? := none }
          = settled.finishedPages ++ [page] := by
        simp [finishedPages, addPage]
      have hcount : pageCount { settled.addPage page settled.pageCount with page? := none }
          = settled.pageCount + 1 := by
        rw [← length_finishedPages, hpages, List.length_append, length_finishedPages]
        rfl
      have hlater := hclosed.later _ (Nat.lt_succ_self settled.pageCount)
      have htitle : titleAt (settled.finishedPages ++ [page]) settled.pageCount = page.title := by
        rw [titleAt, ← length_finishedPages, List.getElem?_concat_length]
        rfl
      refine ⟨?_, ?_, fun hlisted => absurd hlisted Bool.false_ne_true, fun i hi => ?_⟩
      · have hentries := hclosed.entries
        rw [hpages, hcount, hlater, entriesTo, htitle, addPosition]
        rw [← length_finishedPages, entriesTo_append, length_finishedPages]
        rw [hpage] at hentries
        show changeLast _ settled.entries = _
        cases hlevel : (levels settled.pageCount).getLast? with
        | none =>
            rw [hlevel] at hentries
            simp [hentries]
        | some level =>
            rw [hlevel] at hentries
            simp [hentries]
      · rw [hcount, hlater]
        rfl
      · rw [hcount] at hi
        exact hclosed.later i (Nat.lt_of_succ_lt hi)

theorem closeBlock (h : Listed levels st) : Listed levels st.closeBlock :=
  h.closePage.same ⟨rfl, rfl, finishedPages_closeBlock st, .inr rfl⟩

/-- **A level is the last one given on the open page.** -/
theorem readLevel (h : Listed levels st) (level : Nat) :
    Listed (fun i => levels i ++ if st.pageCount = i then [level] else [])
      (st.readLevel level) := by
  have hfront : entriesTo (titleAt st.finishedPages)
      (fun i => levels i ++ if st.pageCount = i then [level] else []) st.pageCount
        = entriesTo (titleAt st.finishedPages) levels st.pageCount :=
    entriesTo_congr (fun _ _ => rfl) fun i hi => by simp [Nat.ne_of_gt hi]
  have hlater : ∀ i, st.pageCount < i →
      (levels i ++ if st.pageCount = i then [level] else []) = [] := fun i hi => by
    simp [h.later i hi, Nat.ne_of_lt hi]
  have hentries := h.entries
  rw [State.readLevel]
  cases hlisted : st.isListed with
  | true =>
      have hsome := h.isListed
      rw [hlisted] at hsome
      obtain ⟨last, hlast⟩ : ∃ last, (levels st.pageCount).getLast? = some last := by
        cases hlevels : levels st.pageCount with
        | nil => rw [hlevels] at hsome; cases hsome
        | cons first rest => exact ⟨_, List.getLast?_eq_some_getLast (List.cons_ne_nil _ _)⟩
      rw [hlast] at hentries
      refine ⟨?_, ?_, fun _ => h.page hlisted, hlater⟩
      · show changeLast _ st.entries = entriesTo (titleAt st.finishedPages) _ st.pageCount ++ _
        rw [hfront, hentries]
        simp [pageCount]
      · show true = !List.isEmpty
          (levels st.pageCount ++ if st.pageCount = st.pageCount then [level] else [])
        simp
  | false =>
      have hnone : levels st.pageCount = [] := by
        have hempty := h.isListed
        rw [hlisted] at hempty
        simpa using hempty
      rw [hnone] at hentries
      refine ⟨?_, ?_, fun _ => rfl, hlater⟩
      · show st.entries ++ _ = entriesTo (titleAt st.finishedPages) _ st.pageCount ++ _
        rw [hfront, hentries]
        simp [pageCount, State.ensurePage]
      · show true = !List.isEmpty
          (levels st.pageCount ++ if st.pageCount = st.pageCount then [level] else [])
        simp

/-- **Every line keeps the entries those of the pages**, with the levels of the lines so
far. -/
theorem read {past : List Step} {step : Step} (h : Listed (levelsOn past) step.before)
    (hread : step.before.read step.number step.raw step.behind = .ok step.after) :
    Listed (levelsOn (past ++ [step])) step.after := by
  have hquiet := h.fills (.quiet step.before)
  have hother : (∀ line, step.before.lineOf? step.raw = some line →
      ∀ keyword level, line.kind ≠ .navigation keyword level) →
      levelsOn (past ++ [step]) = levelsOn past := by
    intro hkind
    have hnone : step.level? = none := by
      rw [Step.level?]
      cases hline : step.before.lineOf? step.raw with
      | none => rfl
      | some line =>
          rw [Option.map_some]
          split
          · rename_i keyword level heq
            exact absurd (Option.some.inj heq) (hkind line hline keyword level)
          · rfl
    funext i
    rw [levelsOn_concat, hnone]
    simp
  have hline : ∀ {line}, step.before.lineOf? step.raw = some line →
      (∀ keyword level, line.kind ≠ .navigation keyword level) →
      levelsOn (past ++ [step]) = levelsOn past := fun hline hkind =>
    hother fun other hother => Option.some.inj (hline.symm.trans hother) ▸ hkind
  have harranges := read_arranges hread
  generalize hafter : step.after = st' at harranges
  cases harranges with
  | fills hfilling hfills =>
      rw [hother fun line hline keyword level heq => ?_]
      · exact h.fills hfills
      · have hkind := hfilling line hline
        rw [heq] at hkind
        cases hkind
  | page hpage hkind =>
      rw [hline hpage (by simp [hkind])]
      exact hquiet.closePage.same ⟨rfl, rfl, rfl, .inl (page?_closePage _)⟩
  | block hblock hkind =>
      rw [hline hblock (by simp [hkind])]
      exact hquiet.closeBlock.same ⟨rfl, rfl, rfl, .inr rfl⟩
  | heading hheading hkind =>
      rw [hline hheading (by simp [hkind])]
      have hsection := (hquiet.fills (.settle _)).same (.closeSection _)
      have hpage := SameListing.ensurePage step.before.quiet.closeSection
      exact hsection.same ⟨rfl, rfl, rfl, hpage.page⟩
  | @level line keyword level hlevel hkind =>
      have hcount : step.after.pageCount = step.before.pageCount := by
        rw [hafter, State.readLevel]
        split <;> rfl
      have hlevels : levelsOn (past ++ [step])
          = fun i => levelsOn past i ++ if step.before.quiet.pageCount = i then [level] else [] := by
        funext i
        rw [levelsOn_concat, hcount, Step.level?, hlevel, Option.map_some, hkind]
        rfl
      rw [hlevels]
      exact hquiet.readLevel level

end Listed

end State

/-! ## Whole sources -/

/-- **The navigation of a survey partitions its pages**, given the lines of its source. -/
structure Partitioned (run : List Step) (survey : Survey) : Prop where
  /-- The entries have all pages from the first one with a level on, in order. -/
  pages : survey.entries.flatMap Entry.pages
    = (List.range survey.pages.length).dropWhile fun i => (levelsOn run i).isEmpty
  /-- There is one entry for each page with a level, of which it is the first page, and the last
  level given on it is that of the entry. -/
  heads : survey.entries.map (fun entry => (entry.pages.head?, entry.level))
    = (List.range survey.pages.length).filterMap fun i =>
        (levelsOn run i).getLast?.map fun level => (some i, (level : Int))
  /-- An entry has a first page, after which it is named. -/
  names : ∀ entry ∈ survey.entries, ∃ first rest place, entry.pages = first :: rest ∧
    survey.pages[first]? = some place ∧ entry.name = place.2.title
  /-- The page on which a level is given is the one that stands at its position. -/
  carried : ∀ step ∈ run, step.level?.isSome = true → ∃ page place,
    step.after.page? = some page ∧ survey.pages[step.after.pageCount]? = some place ∧
      page.Continues place.2

section

variable {source name : Text} {isChecked : Bool} {survey : Survey}
  (h : (compile source name isChecked).result = .ok survey)
include h

/-- The entries of a survey are those of its pages. -/
theorem entries_of_compile : survey.entries
    = entriesTo (titleAt (survey.pages.map Prod.snd))
        (levelsOn (steps 0 {} (sourceLines source))) survey.pages.length := by
  have hstart : State.Listed (levelsOn []) {} := .empty
  have hlast := readAll_history (P := fun past st => State.Listed (levelsOn past) st)
    (fun _ _ => State.Listed.read) 0 hstart (sourceLines source)
  rw [List.nil_append] at hlast
  obtain rfl := survey_of_compileLines (compileLines_of_compile h)
  rw [State.pages_survey, ← List.length_map (f := Prod.snd), State.pages_survey,
    State.length_finishedPages]
  generalize (State.readAll 0 {} (sourceLines source)).1 = st at hlast
  obtain ⟨last, hfills, hfinish⟩ := st.finish_cases
  have hend := (hlast.fills hfills).closeBlock
  rw [hfinish]
  have hentries := hend.entries
  rw [hend.levels_eq_nil (State.page?_closePage last)] at hentries
  show last.closeBlock.entries = _
  simpa using hentries

/-- A page that is open behind a line is the one of the survey at its position. -/
theorem page_of_mem_steps {step : Step} (hstep : step ∈ steps 0 {} (sourceLines source))
    {page : Page} (hpage : step.after.page? = some page) :
    ∃ place, survey.pages[step.after.pageCount]? = some place ∧ page.Continues place.2 := by
  have hrest := rel_of_mem_steps (R := fun st st' => Stands Page.Continues st.pages st'.pages)
    (fun st => .refl .refl _) (fun h h' => h.trans h' Page.Continues.trans) State.stands_read hstep
  obtain rfl := survey_of_compileLines (compileLines_of_compile h)
  have hpages := State.pages_survey name (State.readAll 0 {} (sourceLines source)).1
  generalize (State.readAll 0 {} (sourceLines source)).1 = st at hrest hpages
  obtain ⟨last, hfills, hfinish⟩ := st.finish_cases
  have hend := (hrest.trans hfills.stands Page.Continues.trans).trans
    (State.stands_closeBlock last) Page.Continues.trans
  obtain ⟨final, hfinal, hcontinues⟩ := hend _ _ (State.getElem?_pages hpage)
  have hfinished : last.closeBlock.pages = (st.finish.survey name).pages.map Prod.snd := by
    have hnone : last.closeBlock.page? = none := State.page?_closePage last
    rw [hpages, hfinish, State.pages, hnone]
    exact List.append_nil _
  rw [hfinished, List.getElem?_map] at hfinal
  obtain ⟨place, hplace, rfl⟩ := Option.map_eq_some_iff.mp hfinal
  exact ⟨place, hplace, hcontinues⟩

/-- **The navigation partitions the pages**: its entries have, in order, all pages of the
survey from the first one on which a level is given, and each such page begins its entry,
which has its title for name and the last level given on it. -/
theorem partitioned_of_compile : Partitioned (steps 0 {} (sourceLines source)) survey := by
  have hentries := entries_of_compile h
  refine ⟨?_, ?_, fun entry hentry => ?_, fun step hstep hlevel => ?_⟩
  · rw [hentries, flatMap_pages_entriesTo]
  · rw [hentries, map_head_entriesTo]
  · rw [hentries] at hentry
    obtain ⟨first, rest, hpages, hfirst, hname⟩ := name_of_mem_entriesTo hentry
    refine ⟨first, rest, survey.pages[first], hpages, List.getElem?_eq_getElem hfirst, ?_⟩
    rw [hname, titleAt, List.getElem?_map, List.getElem?_eq_getElem hfirst]
    rfl
  · obtain ⟨page, hpage⟩ : ∃ page, step.after.page? = some page := by
      obtain ⟨earlier, later, hrun⟩ := List.append_of_mem hstep
      have hstart : State.Listed (levelsOn []) {} := .empty
      obtain ⟨hbefore, hread⟩ := steps_invariant (P := fun past st _ => State.Listed (levelsOn past) st)
        (fun _ _ => State.Listed.read) [] hstart hrun
      -- The page is listed behind the line, so it is open.
      have hafter := hbefore.read hread
      have hlisted := hafter.isListed
      obtain ⟨level, hlevel⟩ := Option.isSome_iff_exists.mp hlevel
      rw [levelsOn_concat, hlevel] at hlisted
      exact Option.isSome_iff_exists.mp (hafter.page (by rw [hlisted]; simp))
    obtain ⟨place, hplace, hcontinues⟩ := page_of_mem_steps h hstep hpage
    exact ⟨page, place, hpage, hplace, hcontinues⟩

end

/-- A page without a level, one with two, one more, and a block that begins with a level. -/
def listedSource : Text :=
  "# Cover\n# Intro\nNAVIGATION: 2\nLEVEL: 1\n# Details\nBLOCK: Costs\nNAVIGATION: 2".toList

/-- The survey of `listedSource`. -/
def listedSurvey : Survey := (compile listedSource [] true).result.toOption.getD { name := [] }

theorem partitioned_listedSurvey :
    Partitioned (steps 0 {} (sourceLines listedSource)) listedSurvey ∧
      listedSurvey.entries = [{ name := "Intro".toList, level := 1, pages := [1, 2] },
        { name := [], level := 2, pages := [3] }] :=
  ⟨partitioned_of_compile
    (show (compile listedSource [] true).result = .ok listedSurvey by rfl), by decide +kernel⟩

end Questionnaire.Source
